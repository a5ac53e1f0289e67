import DependencyWiring.Check.Scope

/-!
# Resolution of type references

The interface of a class and the types of an instance must be declared, and an instance may declare
only the interface that its class exposes.
-/
namespace DependencyWiring.Check

/-- The note on the interface a class exposes. -/
def exposedInterfaceNotes (s : Scope) (c : Declared.Class) : List Note :=
  match c.interfaceRef with
  | none => []
  | some r =>
    if r.isUsable && !s.index.hasInterface r.resolved.base then
      [⟨.undeclaredExposedInterface c.name.value r.resolved.base, r.text.origin⟩]
    else []

/-- An array may hold instances of an interface, so its base may be one. -/
def isDeclaredType (s : Scope) (t : TypeRef) : Bool :=
  s.index.hasClass t.base || (t.isArray && s.index.hasInterface t.base)

def classTypeNotes (s : Scope) (i : NamedInstance) (r : Declared.Reference) : List Note :=
  if r.isUsable && !i.classType.isPrimitive && !isDeclaredType s i.classType then
    [⟨.undeclaredClass i.name i.classType.base, r.text.origin⟩]
  else []

/-- Whether a class exposes an interface other than the one asked for, or none. -/
def mismatches (c : Class) (base : String) : Bool :=
  c.interfaceName ≠ some base

def interfaceTypeNotes (s : Scope) (i : NamedInstance) (t : TypeRef) (r : Declared.Reference) :
    List Note :=
  if !r.isUsable then []
  else if !s.index.hasInterface t.base then
    [⟨.undeclaredInterface i.name t.base, r.text.origin⟩]
  else
    match s.class? i.classType.base with
    | none => []
    | some c =>
      if mismatches c t.base then
        [⟨.interfaceMismatch i.name t.base c.qualifiedName c.interfaceName, r.text.origin⟩]
      else []

def instanceTypeNotes (s : Scope) (i : NamedInstance) (d : Declared.NamedInstance) : List Note :=
  if i.isPlaceholder then []
  else
    classTypeNotes s i d.classRef ++
      match i.interfaceType, d.interfaceRef with
      | some t, some r => interfaceTypeNotes s i t r
      | _, _ => []

def resolutionNotes (s : Scope) : List Note :=
  (s.declared.namespaces.flatMap fun ns => ns.classes.flatMap (exposedInterfaceNotes s)) ++
    (s.model.namedInstances.zip s.declared.namedInstances).flatMap fun (i, d) =>
      instanceTypeNotes s i d

end DependencyWiring.Check
