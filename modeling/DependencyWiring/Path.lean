import DependencyWiring.Text.Pieces

/-!
# Paths

A path is a text with slashes. What it names is decided by its components alone: repeated slashes, a
slash at the end and single dots do not count.
-/
namespace DependencyWiring.Path

/-- The root in front of an absolute path, a step up, or a step down to a name. -/
inductive Component where
  | root
  | parent
  | name (text : List Char)
  deriving DecidableEq, Repr, Inhabited

/-- The component that a piece between slashes stands for, if it counts. -/
def componentOf (piece : List Char) : Option Component :=
  if piece = [] ∨ piece = ['.'] then none
  else if piece = ['.', '.'] then some .parent
  else some (.name piece)

/-- The components of a path in order. -/
def components (path : String) : List Component :=
  let cs := path.toList
  (if cs.head? = some '/' then [.root] else []) ++ (Text.pieces '/' cs).filterMap componentOf

/-! ## Names of files -/

/-- The name at the end of a path, unless the path ends in a step up or in the root. -/
def fileName? (path : String) : Option (List Char) :=
  match (components path).getLast? with
  | some (.name text) => some text
  | _ => none

/-- A file name before and after the last dot in it. A dot in front does not count. -/
def splitExtension (name : List Char) : Option (List Char × List Char) :=
  (Text.splitLast '.' name).filter fun (before, _) => before ≠ []

/-- What stands after the last dot of the name of the file. -/
def extension? (path : String) : Option String := do
  let name ← fileName? path
  let (_, after) ← splitExtension name
  pure (String.ofList after)

/-- The path of an entry of a directory. -/
def child (directory name : String) : String :=
  if directory.toList.getLast? = some '/' then directory ++ name else directory ++ "/" ++ name

/-! ## Normal form -/

/-- Follows components after those in the stack, which holds the latest of them on top. A step up
takes back the latest component, whatever it is. -/
def settle (stack : List Component) : List Component → List Component
  | [] => stack.reverse
  | .parent :: cs => settle stack.tail cs
  | c :: cs => settle (c :: stack) cs

/-- The components that are left once every step up is taken. -/
def normalize (cs : List Component) : List Component :=
  settle [] cs

/-- The place a path names. -/
def place (path : String) : List Component :=
  normalize (components path)

def Component.text : Component → List Char
  | root => []
  | parent => ['.', '.']
  | name text => text

/-- The path with the given components. -/
def ofComponents : List Component → String
  | [.root] => "/"
  | cs => String.ofList (['/'].intercalate (cs.map Component.text))

end DependencyWiring.Path
