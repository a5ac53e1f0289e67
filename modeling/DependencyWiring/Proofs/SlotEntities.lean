import DependencyWiring.Proofs.KeptDeclarations

/-!
# Entities of slots

A slot tells an entity of what is declared, and one of what is built. The first is read from the
node of the slot alone. The second is built from the first, with no regard to anything else but the
name of the namespace around a type, and whether an instance with elements has assignments, which
come before them.
-/
namespace DependencyWiring

/-! ## Declared entities -/

namespace Declared

/-- What a slot can declare. -/
inductive Entity where
  | namespaceBlock (d : Namespace)
  | interfaceType (d : Interface)
  | classType (d : Class)
  | parameter (d : Parameter)
  | namedInstance (d : NamedInstance)
  | assignment (d : Assignment)
  | element (d : Element)
  deriving DecidableEq, Repr

/-- The declaration of a slot, if there is one. -/
def Model.entity? (d : Model) : Slot → Option Entity
  | .namespaceBlock i => d.namespaces[i]?.map .namespaceBlock
  | .interfaceType i j => (d.namespaces[i]?.bind fun ns => ns.interfaces[j]?).map .interfaceType
  | .classType i j => (d.namespaces[i]?.bind fun ns => ns.classes[j]?).map .classType
  | .parameter i j k =>
    ((d.namespaces[i]?.bind fun ns => ns.classes[j]?).bind fun c => (c.parameters.getD [])[k]?).map
      .parameter
  | .namedInstance i => d.namedInstances[i]?.map .namedInstance
  | .assignment i j =>
    (d.namedInstances[i]?.bind fun inst => (inst.assignments.getD [])[j]?).map .assignment
  | .element i j => (d.namedInstances[i]?.bind fun inst => (inst.elements.getD [])[j]?).map .element

/-- The name of the namespace around the type of a slot. -/
def Model.namespaceName (d : Model) : Slot → String
  | .interfaceType i _ | .classType i _ => (d.namespaces[i]?.map fun ns => ns.name.value).getD ""
  | _ => ""

/-- Whether a slot is one for an element of an instance with assignments. -/
def Model.isHidden (d : Model) : Slot → Bool
  | .element i _ => (d.entity? (.assignment i 0)).isSome
  | _ => false

/-- What a node declares at the place of a slot. -/
def Reading.readSlot (r : Reading) (s : Slot) : Node → Entity :=
  match s with
  | .namespaceBlock _ => fun n => .namespaceBlock (r.readNamespace n s.path).value
  | .interfaceType .. => fun n => .interfaceType (r.readInterface n s.path).value
  | .classType .. => fun n => .classType (r.readClass n s.path).value
  | .parameter .. => fun n => .parameter (r.readParameter n s.path).value
  | .namedInstance _ => fun n => .namedInstance (r.readNamedInstance n s.path).value
  | .assignment .. => fun n => .assignment (r.readAssignment n s.path).value
  | .element .. => fun n => .element (r.readElement n s.path).value

/-- Every slot is read from its node alone. -/
theorem Reading.entity_readRoot (r : Reading) (root : Node) (entries : List (String × Node))
    (s : Slot) :
    (r.readRoot root entries).value.entity? s = (root.follow s.trail).map (r.readSlot s) := by
  cases s <;>
    simp [Model.entity?, readRoot, readSlot, Slot.path, Slot.trail, Slot.keys, Trail.path_ofKeys,
      Trail.follow_ofKeys_cons, Trail.follow_ofKeys_nil, value_readListing,
      interfaces_readNamespace, classes_readNamespace, parameters_readClass,
      assignments_readNamedInstance, elements_readNamedInstance, Function.comp_def,
      Option.map_bind, Option.bind_assoc, Option.bind_map]

end Declared

/-! ## Built entities -/

/-- What a slot can hold in a model. -/
inductive Entity where
  | namespaceBlock (ns : Namespace)
  | interfaceType (i : Interface)
  | classType (c : Class)
  | parameter (p : Parameter)
  | namedInstance (i : NamedInstance)
  | assignment (a : Assignment)
  | element (e : Element)
  deriving DecidableEq, Repr

namespace Model

/-- The entity of a slot, if there is one. -/
def entity? (m : Model) : Slot → Option Entity
  | .namespaceBlock i => m.namespaces[i]?.map .namespaceBlock
  | .interfaceType i j => (m.namespaces[i]?.bind fun ns => ns.interfaces[j]?).map .interfaceType
  | .classType i j => (m.namespaces[i]?.bind fun ns => ns.classes[j]?).map .classType
  | .parameter i j k =>
    ((m.namespaces[i]?.bind fun ns => ns.classes[j]?).bind fun c => c.parameters[k]?).map .parameter
  | .namedInstance i => m.namedInstances[i]?.map .namedInstance
  | .assignment i j =>
    (m.namedInstances[i]?.bind fun inst => inst.assignments[j]?).map .assignment
  | .element i j => (m.namedInstances[i]?.bind fun inst => inst.elements[j]?).map .element

/-- What is built of a declaration in a namespace. -/
def buildEntity (stamp : Stamp) (namespaceName : String) : Declared.Entity → Entity
  | .namespaceBlock d => .namespaceBlock (buildNamespace stamp d).value
  | .interfaceType d => .interfaceType (buildInterface stamp namespaceName d).value
  | .classType d => .classType (buildClass stamp namespaceName d).value
  | .parameter d => .parameter (buildParameter stamp d).value
  | .namedInstance d => .namedInstance (buildNamedInstance stamp d).value
  | .assignment d => .assignment (buildAssignment stamp d).value
  | .element d => .element (buildElement stamp d).value

/-- Every slot is built from its declaration. -/
theorem entity_build (stamp : Stamp) (d : Declared.Model) (s : Slot) :
    (build stamp d).value.entity? s =
      if d.isHidden s then none
      else (d.entity? s).map (buildEntity stamp (d.namespaceName s)) := by
  cases s with
  | namespaceBlock i =>
    simp [entity?, Declared.Model.entity?, Declared.Model.isHidden, buildEntity, Function.comp_def]
  | interfaceType i j =>
    cases hns : d.namespaces[i]? <;>
      simp [entity?, Declared.Model.entity?, Declared.Model.isHidden, Declared.Model.namespaceName,
        buildEntity, Function.comp_def, hns]
  | classType i j =>
    cases hns : d.namespaces[i]? <;>
      simp [entity?, Declared.Model.entity?, Declared.Model.isHidden, Declared.Model.namespaceName,
        buildEntity, Function.comp_def, hns]
  | parameter i j k =>
    simp only [entity?, Declared.Model.entity?, Declared.Model.isHidden, namespaces_build,
      List.getElem?_map]
    cases d.namespaces[i]? with
    | none => rfl
    | some ns =>
      simp only [Option.map_some, Option.bind_some, classes_buildNamespace, List.getElem?_map]
      cases ns.classes[j]? <;> simp [buildEntity, parameters_buildClass, Function.comp_def]
  | namedInstance i =>
    simp [entity?, Declared.Model.entity?, Declared.Model.isHidden, buildEntity, Function.comp_def]
  | assignment i j =>
    simp only [entity?, Declared.Model.entity?, Declared.Model.isHidden, namedInstances_build,
      List.getElem?_map]
    cases d.namedInstances[i]? <;>
      simp [buildEntity, assignments_buildNamedInstance, Function.comp_def]
  | element i j =>
    cases hinst : d.namedInstances[i]? with
    | none => simp [entity?, Declared.Model.entity?, Declared.Model.isHidden, hinst]
    | some inst =>
      simp only [entity?, Declared.Model.entity?, Declared.Model.isHidden, namedInstances_build,
        List.getElem?_map, hinst, Option.map_some, Option.bind_some, elements_buildNamedInstance]
      cases inst.assignments.getD [] <;> simp [buildEntity, Function.comp_def]

end Model

end DependencyWiring
