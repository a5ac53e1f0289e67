import DependencyWiring.FileSystem
import DependencyWiring.Text.Pieces

/-!
# A tree of files

Files and directories as a value, seen from a working directory. A path is followed one step after
another from there or from the root, every step starts in a directory, and the root is its own
parent.
-/
namespace DependencyWiring

inductive FileTree where
  | file (content : ByteArray)
  | directory (entries : List (String × FileTree))
  deriving Inhabited

namespace FileTree

/-- The first entry of a name. -/
def lookup (name : String) : List (String × FileTree) → Option FileTree
  | [] => none
  | (n, t) :: es => if n = name then some t else lookup name es

/-- The entry of a name, when the tree is a directory. -/
def entry? (name : String) : FileTree → Option FileTree
  | directory es => lookup name es
  | file _ => none

def isDirectory : FileTree → Bool
  | directory _ => true
  | file _ => false

/-- What names lead to from the root. -/
def get? : List String → FileTree → Option FileTree
  | [], t => some t
  | n :: ns, t => (t.entry? n).bind (get? ns)

/-- Changes the first entry of a name, or puts a new one at the end. -/
def alterEntry (name : String) (f : Option FileTree → FileTree) :
    List (String × FileTree) → List (String × FileTree)
  | [] => [(name, f none)]
  | (n, t) :: es => if n = name then (n, f (some t)) :: es else (n, t) :: alterEntry name f es

/-- Changes what names lead to. Directories on the way are made when they are not there. -/
def alter (f : Option FileTree → FileTree) : List String → Option FileTree → FileTree
  | [], t => f t
  | n :: ns, some (directory es) => directory (alterEntry n (alter f ns) es)
  | _ :: _, some (file content) => file content
  | n :: ns, none => directory [(n, alter f ns none)]

/-- Puts a file at the end of a way of names. -/
def putFile (names : List String) (content : ByteArray) (t : FileTree) : FileTree :=
  alter (fun _ => file content) names (some t)

/-- Makes a directory at the end of a way of names, unless something is there. -/
def makeDirectory (names : List String) (t : FileTree) : FileTree :=
  alter (fun there => there.getD (directory [])) names (some t)

end FileTree

/-- A tree of files and the names that lead to the working directory. -/
structure Workspace where
  root : FileTree
  directory : List String
  deriving Inhabited

namespace Workspace

/-- The greatest number of bytes of a name in a directory. -/
def maxNameBytes : Nat := 255

/-- The greatest number of bytes of a path. -/
def maxPathBytes : Nat := 4095

/-- A step along a path: to the directory itself, to the one above it, or to an entry of it. -/
inductive Step where
  | stay
  | up
  | down (name : String)
  deriving DecidableEq, Repr, Inhabited

/-- The step that a piece between slashes stands for. -/
def Step.ofPiece (piece : List Char) : Step :=
  if piece = ['.'] then stay
  else if piece = ['.', '.'] then up
  else down (String.ofList piece)

/-- The steps of a path in order. Slashes that follow each other count as one. -/
def steps (path : String) : List Step :=
  ((Text.pieces '/' path.toList).filter (· ≠ [])).map Step.ofPiece

/-- A path with a slash at the end can only name a directory. -/
def asksDirectory (path : String) : Bool :=
  path.toList.getLast? = some '/'

/-- A path names something, and its length has a limit. -/
def checkLength (path : String) : Except FileError Unit :=
  if path = "" then .error .notFound
  else if maxPathBytes < path.utf8ByteSize then .error .nameTooLong
  else .ok ()

/-- The entries of the directory to which names lead. -/
def entriesAt (root : FileTree) (names : List String) :
    Except FileError (List (String × FileTree)) :=
  match root.get? names with
  | none => .error .notFound
  | some (.file _) => .error .notDirectory
  | some (.directory es) => .ok es

/-- The entry of a name in a directory, if there is one. A name has a greatest length. -/
def entryOf (name : String) (es : List (String × FileTree)) : Except FileError (Option FileTree) :=
  if maxNameBytes < name.utf8ByteSize then .error .nameTooLong else .ok (FileTree.lookup name es)

/-- Takes a step from the directory to which reversed names lead. -/
def takeStep (root : FileTree) (here : List String) (s : Step) :
    Except FileError (List String) := do
  let es ← entriesAt root here.reverse
  match s with
  | .stay => .ok here
  | .up => .ok here.tail
  | .down name =>
    match ← entryOf name es with
    | some _ => .ok (name :: here)
    | none => .error .notFound

variable (w : Workspace)

/-- The names that lead to where a path starts. -/
def origin (path : String) : List String :=
  if path.toList.head? = some '/' then [] else w.directory

/-- The names that lead to where steps go from the place to which names lead. -/
def follow (names : List String) (ss : List Step) : Except FileError (List String) :=
  (ss.foldlM (takeStep w.root) names.reverse).map List.reverse

/-- What a path names. -/
def find (path : String) : Except FileError FileTree := do
  checkLength path
  let names ← w.follow (w.origin path) (steps path)
  match w.root.get? names with
  | none => .error .notFound
  | some t => if asksDirectory path && !t.isDirectory then .error .notDirectory else .ok t

def readBytes (path : String) : Except FileError ByteArray := do
  match ← w.find path with
  | .file content => .ok content
  | .directory _ => .error .isDirectory

/-- The names that lead to the file to be written at a path, which need not be there yet. -/
def target (path : String) : Except FileError (List String) := do
  checkLength path
  let ss := steps path
  match ss.getLast? with
  | some (.down name) =>
    let directory ← w.follow (w.origin path) ss.dropLast
    let es ← entriesAt w.root directory
    if asksDirectory path then .error .isDirectory
    else
      match ← entryOf name es with
      | some (.directory _) => .error .isDirectory
      | _ => .ok (directory ++ [name])
  | _ =>
    let _ ← w.follow (w.origin path) ss
    .error .isDirectory

/-- The tree after a text was written to a path, or why it cannot be. -/
def write (path text : String) : Except FileError Workspace := do
  let names ← w.target path
  .ok { w with root := w.root.putFile names text.toUTF8 }

def entryNames (path : String) : List String :=
  match w.find path with
  | .ok (.directory es) => es.map Prod.fst
  | _ => []

instance : FileSystem (StateM Workspace) where
  readBytes path := do pure ((← get).readBytes path)
  write path text := do
    match (← get).write path text with
    | .ok w =>
      set w
      pure (.ok ())
    | .error e => pure (.error e)
  isPresent path := do
    match (← get).find path with
    | .ok _ => pure true
    | .error _ => pure false
  entryNames path := do pure ((← get).entryNames path)

end Workspace

end DependencyWiring
