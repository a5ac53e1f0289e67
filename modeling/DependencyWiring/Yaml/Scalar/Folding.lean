import DependencyWiring.Yaml.Cursor

/-!
# Folding of lines

Inside a scalar of several lines a single line break stands for a space, and the breaks of empty
lines stand for themselves.
-/
namespace DependencyWiring.Yaml

/-- What stands between two pieces of content of a scalar: the blanks of the line, whether the line
was broken, and how many empty lines followed. -/
structure Gap where
  blanks : List Char
  broken : Bool
  empties : Nat
  deriving DecidableEq, Repr, Inhabited

namespace Gap

def none : Gap := ⟨[], false, 0⟩

def newlines (n : Nat) : List Char :=
  List.replicate n '\n'

/-- The text of a gap that holds a line break. A break that was escaped leaves nothing but the empty
lines behind it. -/
def folded (g : Gap) : List Char :=
  if g.broken && g.empties = 0 then [' '] else newlines g.empties

end Gap

end DependencyWiring.Yaml
