import DependencyWiring.Check.Scope

/-!
# Compatibility of wirings

Assignments go to parameters of the class, each at most once, and an interface takes only an
instance that exposes it. The elements of an array of an interface are such instances as well.
-/
namespace DependencyWiring.Check

/-- The note on what is put into an interface. -/
def interfaceWiringNotes (s : Scope) (a : Assignment) (expected : TypeRef) : List Note :=
  match a.wiring with
  | .value literal =>
    if Placeholder.isPlaceholder literal then []
    else
      [noteOn (.literalForInterface a.parameterName expected.token literal) a.provenance]
  | .instanceOf target =>
    match s.instance? target with
    | none => []
    | some i =>
      if s.exposedInterface? i ≠ some expected.base then
        [noteOn (.parameterNotExposed target expected.base a.parameterName) a.provenance]
      else []

/-- The notes on assignments, and the names that were assigned, those before them included. -/
def assignmentNotes (s : Scope) (inst : NamedInstance) (c : Class) (assigned : List String) :
    List Assignment → List Note × List String
  | [] => ([], assigned)
  | a :: as =>
    if !isLookedUp a.parameterName then assignmentNotes s inst c assigned as
    else
      match c.parameter? a.parameterName with
      | none =>
        let (notes, names) := assignmentNotes s inst c assigned as
        (noteOn (.unknownParameter c.qualifiedName a.parameterName) a.provenance :: notes, names)
      | some p =>
        if assigned.contains a.parameterName then
          let (notes, names) := assignmentNotes s inst c assigned as
          (noteOn (.repeatedAssignment a.parameterName inst.name) a.provenance :: notes, names)
        else
          let own :=
            match p.type with
            | .interfaceType expected => interfaceWiringNotes s a expected
            | .classType _ => []
          let (notes, names) := assignmentNotes s inst c (a.parameterName :: assigned) as
          (own ++ notes, names)

/-- The notes on the parameters that no assignment names. -/
def unassignedNotes (inst : NamedInstance) (c : Class) (assigned : List String) : List Note :=
  (c.parameters.filter fun p =>
      !(Placeholder.isPlaceholder p.name || assigned.contains p.name)).map
    fun p => noteOn (.unassignedParameter p.name c.qualifiedName inst.name) inst.provenance

/-- The interface that every element must expose: that of the declared array of an interface, or
else the base of a class type that is such an array itself. -/
def elementInterface? (s : Scope) (inst : NamedInstance) : Option TypeRef :=
  match inst.interfaceType with
  | some t => if t.isArray then some t else none
  | none =>
    if inst.classType.isArray && s.index.hasInterface inst.classType.base then
      some inst.classType
    else none

/-- The note on an element of an array of an interface. -/
def elementNotes (s : Scope) (inst : NamedInstance) (expected : TypeRef) (e : Element) :
    List Note :=
  match e.wiring with
  | .value _ => []
  | .instanceOf target =>
    if !isLookedUp target then []
    else
      match s.instance? target with
      | none => []
      | some i =>
        if s.exposedInterface? i ≠ some expected.base then
          [noteOn (.elementNotExposed inst.name target expected.base) e.provenance]
        else []

/-- The notes on the wirings of the instance at a position. -/
def instanceWiringNotes (s : Scope) (i : Nat) (inst : NamedInstance) : List Note :=
  if inst.isPlaceholder then []
  else
    match inst.initialization with
    | .assignments items =>
      match s.instanceClass? i with
      | none => []
      | some c =>
        let (notes, assigned) := assignmentNotes s inst c [] items
        notes ++ unassignedNotes inst c assigned
    | .elements items =>
      match elementInterface? s inst with
      | none => []
      | some t => items.flatMap (elementNotes s inst t)
    | .default => []

def wiringNotes (s : Scope) : List Note :=
  s.model.namedInstances.zipIdx.flatMap fun (inst, i) => instanceWiringNotes s i inst

end DependencyWiring.Check
