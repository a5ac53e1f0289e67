import DependencyWiring.Declared.Index
import DependencyWiring.Diagnostic.Finding
import DependencyWiring.Model

/-!
# What the checks of the whole model look at

The model, the declarations it was built from, and the index of the declarations. A field that was
refused when it was read is not judged again.
-/
namespace DependencyWiring.Check

structure Scope where
  model : Model
  declared : Declared.Model
  index : Declared.Index
  deriving Repr, Inhabited

namespace Scope

/-- The class that the index finds. -/
def class? (s : Scope) (qualifiedName : String) : Option Class := do
  let (n, c) ← s.index.classes.lookup qualifiedName
  let ns ← s.model.namespaces[n]?
  ns.classes[c]?

/-- The instance that the index finds. -/
def instance? (s : Scope) (name : String) : Option NamedInstance := do
  let i ← s.index.instancePosition? name
  s.model.namedInstances[i]?

/-- The declared class of the instance at a position, if its reference can be used. -/
def instanceClass? (s : Scope) (i : Nat) : Option Class := do
  let declared ← s.declared.namedInstances[i]?
  let inst ← s.model.namedInstances[i]?
  if !declared.classRef.isUsable || inst.classType.isPrimitive then none
  else s.class? inst.classType.base

/-- What an instance can be wired as: the interface it declares, or else that of its class. -/
def exposedInterface? (s : Scope) (i : NamedInstance) : Option String :=
  match i.interfaceType with
  | some t => some t.base
  | none => do
    let c ← s.class? i.classType.base
    c.interfaceName

end Scope

/-- Names that were refused or replaced when they were read are not looked up. -/
def isLookedUp (name : String) : Bool :=
  Name.isSimple name

/-- A note on an entity. -/
def noteOn (finding : Finding) (p : Provenance) : Note :=
  ⟨finding, p.origin⟩

end DependencyWiring.Check
