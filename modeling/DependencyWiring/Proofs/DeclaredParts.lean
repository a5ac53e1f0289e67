import DependencyWiring.Proofs.PlacesOfNotes
import DependencyWiring.Proofs.SoundDeclarations

/-!
# Parts of a document

Each declaration in what is read of a document is what some reader made of a node at a path below
the root, and it stands at this path. The notes of this reader are among the notes on the document,
and all of them are about the path or about places below it.
-/
namespace DependencyWiring

open Report

namespace Declared.Reading

/-- The value was read at some path below the root, and what was noted then is among the notes. -/
def ReadBy {α : Type} (read : Node → String → Report α) (notes : List Note) (a : α) : Prop :=
  ∃ node path, path ≠ LogicalPath.root ∧ (read node path).value = a ∧
    (read node path).notes ⊆ notes

theorem ReadBy.mono {α : Type} {read : Node → String → Report α} {notes notes' : List Note} {a : α}
    (h : ReadBy read notes a) (hnotes : notes ⊆ notes') : ReadBy read notes' a := by
  obtain ⟨node, path, hpath, hvalue, hsub⟩ := h
  exact ⟨node, path, hpath, hvalue, List.Subset.trans hsub hnotes⟩

theorem readBy_of_readItems {α : Type} {path key : String} {items : List Node}
    {read : Node → String → Report α} {a : α} (ha : a ∈ (readItems path key items read).value) :
    ReadBy read (readItems path key items read).notes a := by
  simp only [readItems, forEachIndexed, value_forEachFrom, notes_forEachFrom] at ha ⊢
  obtain ⟨p, hp, rfl⟩ := List.mem_map.mp ha
  exact ⟨p.1, LogicalPath.item path key p.2, LogicalPath.item_ne_root path key p.2, rfl,
    fun n hn => List.mem_flatMap.mpr ⟨p, hp, hn⟩⟩

variable (r : Reading)

theorem readBy_of_readListing {α : Type} {parent : Node} {path key : String}
    {read : Node → String → Report α} {a : α}
    (ha : a ∈ (r.readListing parent path key read).value) :
    ReadBy read (r.readListing parent path key read).notes a :=
  (readBy_of_readItems ha).mono (List.subset_append_right _ _)

theorem readBy_of_readEntries {α : Type} {node : Node} {path key : String}
    {read : Node → String → Report α} {a : α}
    (ha : a ∈ (r.readEntries node path key read).value.getD []) :
    ReadBy read (r.readEntries node path key read).notes a := by
  simp only [readEntries, value_bind, notes_bind] at ha ⊢
  cases hl : (r.listing node path key).value with
  | absent => simp [hl] at ha
  | invalid => simp [hl] at ha
  | items nodes holder =>
    simp only [hl, value_bind, value_pure, Option.getD_some] at ha
    exact (readBy_of_readItems ha).mono fun n hn => by simp [hn]

theorem readBy_of_readParameters {node : Node} {path : String} {p : Parameter}
    (hp : p ∈ (r.readParameters node path).value.getD []) :
    ReadBy r.readParameter (r.readParameters node path).notes p := by
  simp only [readParameters, value_bind, notes_bind] at hp ⊢
  cases hl : (r.listing node path "initializerParameters").value with
  | absent => simp [hl] at hp
  | invalid => simp [hl] at hp
  | items nodes holder =>
    simp only [hl, value_bind, value_pure, Option.getD_some] at hp
    exact (readBy_of_readItems hp).mono fun n hn => by simp [hn]

theorem readBy_of_readClass {node : Node} {path : String} {p : Parameter}
    (hp : p ∈ (r.readClass node path).value.parameters.getD []) :
    ReadBy r.readParameter (r.readClass node path).notes p := by
  unfold readClass at hp ⊢
  cases he : node.entries? with
  | none => simp [he] at hp
  | some entries =>
    simp only [he, value_bind, value_pure] at hp
    exact (r.readBy_of_readParameters hp).mono fun n hn => by simp [hn]

theorem readBy_of_readNamespace {node : Node} {path : String} {c : Class}
    (hc : c ∈ (r.readNamespace node path).value.classes) :
    ReadBy r.readClass (r.readNamespace node path).notes c := by
  unfold readNamespace at hc ⊢
  cases he : node.entries? with
  | none => simp [he] at hc
  | some entries =>
    simp only [he, value_bind, value_pure] at hc
    exact (r.readBy_of_readListing hc).mono fun n hn => by simp [hn]

theorem readBy_of_readNamedInstance_assignments {node : Node} {path : String} {a : Assignment}
    (ha : a ∈ (r.readNamedInstance node path).value.assignments.getD []) :
    ReadBy r.readAssignment (r.readNamedInstance node path).notes a := by
  unfold readNamedInstance at ha ⊢
  cases he : node.entries? with
  | none => simp [he] at ha
  | some entries =>
    simp only [he, value_bind, value_pure] at ha
    exact (r.readBy_of_readEntries ha).mono fun n hn => by simp [hn]

theorem readBy_of_readNamedInstance_elements {node : Node} {path : String} {e : Element}
    (he : e ∈ (r.readNamedInstance node path).value.elements.getD []) :
    ReadBy r.readElement (r.readNamedInstance node path).notes e := by
  unfold readNamedInstance at he ⊢
  cases hn : node.entries? with
  | none => simp [hn] at he
  | some entries =>
    simp only [hn, value_bind, value_pure] at he
    exact (r.readBy_of_readEntries he).mono fun n hmem => by simp [hmem]

/-- The namespaces and instances of a document were read below its root. -/
theorem readBy_of_readDocument {root : Node} {declared : Report Model}
    (h : r.readDocument root = .ok declared) :
    (∀ ns ∈ declared.value.namespaces, ReadBy r.readNamespace declared.notes ns) ∧
      ∀ i ∈ declared.value.namedInstances, ReadBy r.readNamedInstance declared.notes i := by
  obtain ⟨entries, -, rfl⟩ := r.eq_readRoot_of_readDocument h
  simp only [readRoot, value_bind, value_pure]
  exact ⟨fun ns hns => (r.readBy_of_readListing hns).mono fun n hn => by simp [hn],
    fun i hi => (r.readBy_of_readListing hi).mono fun n hn => by simp [hn]⟩

section

variable {root : Node} {declared : Report Model} (h : r.readDocument root = .ok declared)

include h

theorem readBy_of_mem_parameters {ns : Namespace} (hns : ns ∈ declared.value.namespaces)
    {c : Class} (hc : c ∈ ns.classes) {p : Parameter} (hp : p ∈ c.parameters.getD []) :
    ReadBy r.readParameter declared.notes p := by
  obtain ⟨nsNode, nsPath, -, rfl, hnsNotes⟩ := (r.readBy_of_readDocument h).1 ns hns
  obtain ⟨classNode, classPath, -, rfl, hclassNotes⟩ := r.readBy_of_readNamespace hc
  exact (r.readBy_of_readClass hp).mono (List.Subset.trans hclassNotes hnsNotes)

theorem readBy_of_mem_assignments {i : NamedInstance} (hi : i ∈ declared.value.namedInstances)
    {a : Assignment} (ha : a ∈ i.assignments.getD []) :
    ReadBy r.readAssignment declared.notes a := by
  obtain ⟨node, path, -, rfl, hnotes⟩ := (r.readBy_of_readDocument h).2 i hi
  exact (r.readBy_of_readNamedInstance_assignments ha).mono hnotes

theorem readBy_of_mem_elements {i : NamedInstance} (hi : i ∈ declared.value.namedInstances)
    {e : Element} (he : e ∈ i.elements.getD []) : ReadBy r.readElement declared.notes e := by
  obtain ⟨node, path, -, rfl, hnotes⟩ := (r.readBy_of_readDocument h).2 i hi
  exact (r.readBy_of_readNamedInstance_elements he).mono hnotes

end

/-! Each reader leaves the provenance of its node. -/

theorem provenance_readInterface (node : Node) (path : String) :
    (r.readInterface node path).value.provenance = r.provenance node path := by
  unfold readInterface
  cases node.entries? <;> rfl

theorem provenance_readParameter (node : Node) (path : String) :
    (r.readParameter node path).value.provenance = r.provenance node path := by
  unfold readParameter
  cases node.entries? <;> rfl

theorem provenance_readClass (node : Node) (path : String) :
    (r.readClass node path).value.provenance = r.provenance node path := by
  unfold readClass
  cases node.entries? <;> rfl

theorem provenance_readNamespace (node : Node) (path : String) :
    (r.readNamespace node path).value.provenance = r.provenance node path := by
  unfold readNamespace
  cases node.entries? <;> rfl

theorem provenance_readAssignment (node : Node) (path : String) :
    (r.readAssignment node path).value.provenance = r.provenance node path := by
  unfold readAssignment
  cases node.entries? <;> rfl

theorem provenance_readElement (node : Node) (path : String) :
    (r.readElement node path).value.provenance = r.provenance node path := by
  unfold readElement
  cases node.entries? <;> rfl

theorem provenance_readNamedInstance (node : Node) (path : String) :
    (r.readNamedInstance node path).value.provenance = r.provenance node path := by
  unfold readNamedInstance
  cases node.entries? <;> rfl

/-- The block for generated code stands at its key even where only the root can be named. -/
theorem provenance_readCodeGen (root : Node) :
    (r.readCodeGen root).value.provenance = r.provenance ((root.get? "codeGen").getD root)
      (LogicalPath.key LogicalPath.root "codeGen") := by
  unfold readCodeGen
  cases hv : root.get? "codeGen" with
  | none => rfl
  | some v => cases hes : v.entries? <;> simp [hes, absentCodeGen]

/-! An entity is at the place at which it was read, and what it refers to is named below it. -/

theorem origin_readParameter (node : Node) (path : String) :
    (r.readParameter node path).value.provenance.origin = r.origin node path :=
  congrArg Provenance.origin (r.provenance_readParameter node path)

theorem origin_readNamedInstance (node : Node) (path : String) :
    (r.readNamedInstance node path).value.provenance.origin = r.origin node path :=
  congrArg Provenance.origin (r.provenance_readNamedInstance node path)

theorem origin_readAssignment (node : Node) (path : String) :
    (r.readAssignment node path).value.provenance.origin = r.origin node path :=
  congrArg Provenance.origin (r.provenance_readAssignment node path)

theorem origin_readElement (node : Node) (path : String) :
    (r.readElement node path).value.provenance.origin = r.origin node path :=
  congrArg Provenance.origin (r.provenance_readElement node path)

theorem origin_interfaceRef_readNamedInstance {path : String} (hpath : path ≠ LogicalPath.root)
    (node : Node) : ∀ ref ∈ (r.readNamedInstance node path).value.interfaceRef,
      ref.text.origin.IsWithin r.source path :=
  ((r.charts_within path).gives_readNamedInstance ⟨hpath, .refl path⟩).value.interfaceRef

end Declared.Reading

end DependencyWiring
