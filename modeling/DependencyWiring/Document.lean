import DependencyWiring.Json.Reader
import DependencyWiring.Text.Blank
import DependencyWiring.Yaml.Reader

/-!
# Documents in their formats

A document is written in YAML or in JSON. Both give a document tree; JSON gives no positions, and
its numbers, words and null become the texts of scalars.
-/
namespace DependencyWiring

/-- The formats of documents. -/
inductive Format where
  | yaml
  | json
  deriving DecidableEq, Repr, Inhabited

/-- Why a text gives no document tree. -/
inductive SyntaxError where
  | malformed (reason : String)
  | rootNotMapping (position : Position)
  deriving DecidableEq, Repr

namespace Node

/-- The position of every node of a format without positions. -/
def nowhere : Position := ⟨0, none⟩

mutual

/-- The document tree of a JSON value. -/
def ofJson : Json → Node
  | .null => .scalar "" nowhere
  | .bool b => .scalar (if b then "true" else "false") nowhere
  | .number n => .scalar n.text nowhere
  | .string s => .scalar s nowhere
  | .array items => .sequence (ofJsonItems items) nowhere
  | .object members => .mapping (ofJsonMembers members) nowhere

def ofJsonItems : List Json → List Node
  | [] => []
  | v :: vs => ofJson v :: ofJsonItems vs

def ofJsonMembers : List (String × Json) → List (String × Node)
  | [] => []
  | (k, v) :: ms => (k, ofJson v) :: ofJsonMembers ms

end

/-- Reads a document tree. -/
def parse (format : Format) (text : String) : Except SyntaxError Node :=
  match format with
  | .yaml =>
    match Yaml.read text.toList with
    | .ok n => .ok n
    | .error (.refused r) => .error (.malformed r.message)
    | .error (.rootNotMapping p) => .error (.rootNotMapping p)
  | .json =>
    match Json.parse text with
    | .ok v => .ok (ofJson v)
    | .error reason => .error (.malformed reason)

end Node

/-- A text that declares nothing: every line is empty or a comment. -/
def isBlankText (text : String) : Bool :=
  (Text.trimmedLines text.toList).all fun line =>
    match line with
    | [] => true
    | c :: _ => c = '#'

end DependencyWiring
