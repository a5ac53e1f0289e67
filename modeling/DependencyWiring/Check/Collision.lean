import DependencyWiring.Check.Scope

/-!
# Collisions of names

Classes and interfaces of one namespace share one space of names, however many blocks declare the
namespace. Instances share one for each namespace of their classes. Every member of a collision is
noted.
-/
namespace DependencyWiring.Check

/-- A declared type with its names. -/
structure TypeEntry where
  kind : Declaration
  namespaceName : String
  name : String
  qualifiedName : String
  provenance : Provenance
  deriving DecidableEq, Repr, Inhabited

/-- The types of a namespace that have names, interfaces first. -/
def typeEntriesOf (ns : Namespace) : List TypeEntry :=
  if Placeholder.isPlaceholder ns.name then []
  else
    (ns.interfaces.filter fun i => !Placeholder.isPlaceholder i.name).map
        (fun i => ⟨.interfaceType, ns.name, i.name, i.qualifiedName, i.provenance⟩) ++
      (ns.classes.filter fun c => !c.isPlaceholder).map
        (fun c => ⟨.classType, ns.name, c.name, c.qualifiedName, c.provenance⟩)

def typeEntries (m : Model) : List TypeEntry :=
  m.namespaces.flatMap typeEntriesOf

def TypeEntry.collides (a b : TypeEntry) : Bool :=
  a.namespaceName = b.namespaceName && a.name = b.name

def typeCollisions (m : Model) : List Note :=
  let entries := typeEntries m
  entries.filterMap fun e =>
    let count := entries.countP e.collides
    if 1 < count then
      some (noteOn (.duplicateType e.kind e.qualifiedName (count - 1) e.namespaceName)
        e.provenance)
    else none

/-- The instances that have names. -/
def namedOnes (m : Model) : List NamedInstance :=
  m.namedInstances.filter fun i => !i.isPlaceholder

def instancesCollide (a b : NamedInstance) : Bool :=
  a.namespaceName = b.namespaceName && a.name = b.name

def instanceCollisions (m : Model) : List Note :=
  let instances := namedOnes m
  instances.filterMap fun i =>
    if 1 < instances.countP (instancesCollide i) then
      some (noteOn (.duplicateInstance i.name i.namespaceName) i.provenance)
    else none

end DependencyWiring.Check
