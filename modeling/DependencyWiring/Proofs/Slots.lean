import DependencyWiring.Model
import DependencyWiring.Proofs.Trails

/-!
# Slots of declarations

A slot is the position of a declaration in the list that holds it, behind the position of its owner.
It tells both the node of a document that declares an entity and the entity of a model that is
declared, so that the two can be compared one slot at a time.
-/
namespace DependencyWiring

/-! ## Slots for declarations -/

/-- The place of a declaration: its position in the list that holds it, behind that of its owner. -/
inductive Slot where
  | namespaceBlock (i : Nat)
  | interfaceType (i j : Nat)
  | classType (i j : Nat)
  | parameter (i j k : Nat)
  | namedInstance (i : Nat)
  | assignment (i j : Nat)
  | element (i j : Nat)
  deriving DecidableEq, Repr

namespace Slot

/-- The keys of the lists on the way from the root, each with the position that is taken. -/
def keys : Slot → List (String × Nat)
  | namespaceBlock i => [("namespaces", i)]
  | interfaceType i j => [("namespaces", i), ("interfaces", j)]
  | classType i j => [("namespaces", i), ("classes", j)]
  | parameter i j k => [("namespaces", i), ("classes", j), ("initializerParameters", k)]
  | namedInstance i => [("namedInstances", i)]
  | assignment i j => [("namedInstances", i), ("assignments", j)]
  | element i j => [("namedInstances", i), ("elements", j)]

def trail (s : Slot) : Trail :=
  .ofKeys s.keys

def path (s : Slot) : String :=
  s.trail.path

theorem isPlainKey_of_mem (s : Slot) : ∀ e ∈ s.keys, Trail.IsPlainKey e.1 := by
  unfold Trail.IsPlainKey
  cases s <;> simp [keys]

theorem keys_inj {s t : Slot} (h : s.keys = t.keys) : s = t := by
  cases s <;> cases t <;> simp_all [keys]

/-- Distinct declarations have distinct paths. -/
theorem path_injective : Function.Injective path := fun s t h =>
  keys_inj (Trail.ofKeys_inj s.isPlainKey_of_mem t.isPlainKey_of_mem h)

example : (parameter 0 1 2).path = "namespaces[0].classes[1].initializerParameters[2]" := by
  decide +kernel

end Slot

/-- The node that declares the entity of a slot. Elements count only where no assignment is. -/
def Node.declared? (root : Node) : Slot → Option Node
  | .element i j =>
    if (root.follow (Slot.assignment i 0).trail).isSome then none
    else root.follow (Slot.element i j).trail
  | s => root.follow s.trail

/-! ## Entities of a model -/

def NamedInstance.assignments (i : NamedInstance) : List Assignment :=
  match i.initialization with
  | .assignments items => items
  | _ => []

def NamedInstance.elements (i : NamedInstance) : List Element :=
  match i.initialization with
  | .elements items => items
  | _ => []

/-- The provenance of the entity of a slot, if there is such an entity. -/
def Model.provenance? (m : Model) : Slot → Option Provenance
  | .namespaceBlock i => m.namespaces[i]?.map Namespace.provenance
  | .interfaceType i j =>
    (m.namespaces[i]?.bind fun ns => ns.interfaces[j]?).map Interface.provenance
  | .classType i j => (m.namespaces[i]?.bind fun ns => ns.classes[j]?).map Class.provenance
  | .parameter i j k =>
    ((m.namespaces[i]?.bind fun ns => ns.classes[j]?).bind fun c => c.parameters[k]?).map
      Parameter.provenance
  | .namedInstance i => m.namedInstances[i]?.map NamedInstance.provenance
  | .assignment i j =>
    (m.namedInstances[i]?.bind fun inst => inst.assignments[j]?).map Assignment.provenance
  | .element i j =>
    (m.namedInstances[i]?.bind fun inst => inst.elements[j]?).map Element.provenance

/-! ## All provenances of a model -/

def Namespace.provenances (ns : Namespace) : List Provenance :=
  ns.provenance :: (ns.interfaces.map Interface.provenance ++
    ns.classes.flatMap fun c => c.provenance :: c.parameters.map Parameter.provenance)

def NamedInstance.provenances (i : NamedInstance) : List Provenance :=
  i.provenance :: i.wirings.map Prod.snd

/-- The provenances of all entities, each behind that of its owner. -/
def Model.provenances (m : Model) : List Provenance :=
  m.provenance :: m.codeGen.provenance :: (m.namespaces.flatMap Namespace.provenances ++
    m.namedInstances.flatMap NamedInstance.provenances)

theorem NamedInstance.map_provenance_wirings (i : NamedInstance) :
    i.wirings.map Prod.snd =
      i.assignments.map Assignment.provenance ++ i.elements.map Element.provenance := by
  unfold wirings assignments elements
  cases i.initialization <;> simp

theorem Namespace.forall_mem_provenances {ns : Namespace} {Q : Provenance → Prop} :
    (∀ p ∈ ns.provenances, Q p) ↔ Q ns.provenance ∧ (∀ i ∈ ns.interfaces, Q i.provenance) ∧
      ∀ c ∈ ns.classes, Q c.provenance ∧ ∀ p ∈ c.parameters, Q p.provenance := by
  simp only [provenances, List.forall_mem_cons, List.forall_mem_append, List.forall_mem_map,
    List.forall_mem_flatMap]

theorem NamedInstance.forall_mem_provenances {i : NamedInstance} {Q : Provenance → Prop} :
    (∀ p ∈ i.provenances, Q p) ↔ Q i.provenance ∧ (∀ a ∈ i.assignments, Q a.provenance) ∧
      ∀ e ∈ i.elements, Q e.provenance := by
  simp only [provenances, map_provenance_wirings, List.forall_mem_cons, List.forall_mem_append,
    List.forall_mem_map]

namespace Model

variable {m : Model}

theorem forall_mem_provenances {Q : Provenance → Prop} :
    (∀ p ∈ m.provenances, Q p) ↔ Q m.provenance ∧ Q m.codeGen.provenance ∧
      (∀ ns ∈ m.namespaces, ∀ p ∈ ns.provenances, Q p) ∧
      ∀ i ∈ m.namedInstances, ∀ p ∈ i.provenances, Q p := by
  simp only [provenances, List.forall_mem_cons, List.forall_mem_append, List.forall_mem_flatMap]

theorem exists_slot_of_mem_namespaces {ns : Namespace} (hns : ns ∈ m.namespaces) {p : Provenance}
    (hp : p ∈ ns.provenances) : ∃ s, m.provenance? s = some p := by
  obtain ⟨i, hi⟩ := List.getElem?_of_mem hns
  simp only [Namespace.provenances, List.mem_cons, List.mem_append, List.mem_map,
    List.mem_flatMap] at hp
  rcases hp with rfl | ⟨t, ht, rfl⟩ | ⟨c, hc, rfl | ⟨q, hq, rfl⟩⟩
  · exact ⟨.namespaceBlock i, by simp [provenance?, hi]⟩
  · obtain ⟨j, hj⟩ := List.getElem?_of_mem ht
    exact ⟨.interfaceType i j, by simp [provenance?, hi, hj]⟩
  · obtain ⟨j, hj⟩ := List.getElem?_of_mem hc
    exact ⟨.classType i j, by simp [provenance?, hi, hj]⟩
  · obtain ⟨j, hj⟩ := List.getElem?_of_mem hc
    obtain ⟨k, hk⟩ := List.getElem?_of_mem hq
    exact ⟨.parameter i j k, by simp [provenance?, hi, hj, hk]⟩

theorem exists_slot_of_mem_namedInstances {i : NamedInstance} (hi : i ∈ m.namedInstances)
    {p : Provenance} (hp : p ∈ i.provenances) : ∃ s, m.provenance? s = some p := by
  obtain ⟨n, hn⟩ := List.getElem?_of_mem hi
  simp only [NamedInstance.provenances, NamedInstance.map_provenance_wirings, List.mem_cons,
    List.mem_append, List.mem_map] at hp
  rcases hp with rfl | ⟨a, ha, rfl⟩ | ⟨e, he, rfl⟩
  · exact ⟨.namedInstance n, by simp [provenance?, hn]⟩
  · obtain ⟨j, hj⟩ := List.getElem?_of_mem ha
    exact ⟨.assignment n j, by simp [provenance?, hn, hj]⟩
  · obtain ⟨j, hj⟩ := List.getElem?_of_mem he
    exact ⟨.element n j, by simp [provenance?, hn, hj]⟩

/-- Beside the document and its block for generated code only slots have a provenance. -/
theorem exists_slot_of_mem_provenances {p : Provenance} (hp : p ∈ m.provenances) :
    p = m.provenance ∨ p = m.codeGen.provenance ∨ ∃ s, m.provenance? s = some p := by
  simp only [provenances, List.mem_cons, List.mem_append, List.mem_flatMap] at hp
  rcases hp with hroot | hblock | ⟨ns, hns, hp⟩ | ⟨i, hi, hp⟩
  · exact .inl hroot
  · exact .inr (.inl hblock)
  · exact .inr (.inr (exists_slot_of_mem_namespaces hns hp))
  · exact .inr (.inr (exists_slot_of_mem_namedInstances hi hp))

end Model

end DependencyWiring
