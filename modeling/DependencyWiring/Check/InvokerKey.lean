import DependencyWiring.Check.Scope
import DependencyWiring.Text.Sorted

/-!
# Invoker keys

Different classes must have different invoker keys. A class that is declared twice is a collision of
names and none of keys.
-/
namespace DependencyWiring.Check

/-- The classes that have names, in namespaces that have names. -/
def invokedClasses (m : Model) : List Class :=
  (m.namespaces.filter fun ns => !Placeholder.isPlaceholder ns.name).flatMap fun ns =>
    ns.classes.filter fun c => !c.isPlaceholder

/-- The names of the other classes with the key of a class, in order. -/
def otherOwners (classes : List Class) (c : Class) : List String :=
  Text.sortedDistinct
    ((classes.filter fun d => d.invokerKey = c.invokerKey && d.qualifiedName ≠ c.qualifiedName).map
      Class.qualifiedName)

def invokerKeyNotes (m : Model) : List Note :=
  let classes := invokedClasses m
  classes.flatMap fun c =>
    let others := otherOwners classes c
    (if others ≠ [] then
      [noteOn (.sharedInvokerKey c.invokerKey c.qualifiedName others) c.provenance]
    else []) ++
      if Name.isSimple c.invokerKey then []
      else [noteOn (.invalidInvokerKey c.invokerKey c.qualifiedName) c.provenance]

end DependencyWiring.Check
