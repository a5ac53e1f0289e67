import DependencyWiring.Path

/-!
# Documents in memory

A store holds the texts of documents by the places their paths name, so that a document is found by
every path to its place.
-/
namespace DependencyWiring

/-- The documents of a store, the latest in front. -/
structure DocumentStore where
  documents : List (List Path.Component × String)
  deriving DecidableEq, Repr, Inhabited

namespace DocumentStore

def empty : DocumentStore := ⟨[]⟩

/-- Puts a document at a path in the place of the one that is there. -/
def add (store : DocumentStore) (path text : String) : DocumentStore :=
  ⟨(Path.place path, text) :: store.documents⟩

def ofList (documents : List (String × String)) : DocumentStore :=
  documents.foldl (fun store d => store.add d.1 d.2) empty

/-- The document at a place. -/
def get? (store : DocumentStore) (place : List Path.Component) : Option String :=
  (store.documents.find? fun d => d.1 = place).map Prod.snd

/-- What is said of a place without a document. -/
def notFoundMessage (place : List Path.Component) : String :=
  "document not found in memory: " ++ Path.ofComponents place

/-- The text of the document at a path. -/
def read (store : DocumentStore) (path : String) : Except String String :=
  match store.get? (Path.place path) with
  | some text => .ok text
  | none => .error (notFoundMessage (Path.place path))

theorem read_add (store : DocumentStore) (path text q : String) :
    (store.add path text).read q =
      if Path.place path = Path.place q then .ok text else store.read q := by
  by_cases h : Path.place path = Path.place q <;> simp [read, add, get?, h]

end DocumentStore

end DependencyWiring
