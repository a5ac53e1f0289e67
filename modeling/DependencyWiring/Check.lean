import DependencyWiring.Check.Collision
import DependencyWiring.Check.InvokerKey
import DependencyWiring.Check.Ordering
import DependencyWiring.Check.Resolution
import DependencyWiring.Check.Wiring

/-!
# Checks of the whole model

All checks that need more than one declaration, in the order in which their notes are given.
-/
namespace DependencyWiring.Check

def notes (s : Scope) : List Note :=
  typeCollisions s.model ++ instanceCollisions s.model ++ invokerKeyNotes s.model ++
    resolutionNotes s ++ orderingNotes s ++ wiringNotes s

end DependencyWiring.Check
