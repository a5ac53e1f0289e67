import DependencyWiring.Model.Compilation
import DependencyWiring.Proofs.DeclaredParts
import DependencyWiring.Proofs.Slots
import DependencyWiring.Proofs.SoundModel

/-!
# Kept declarations

Every item of a list of declarations gives one entity at its position, whatever the item is, and no
other entity is made. Each entity names the place of its item: the position of the node and the path
of the trail that leads to it. What is said of the readers here holds of documents with errors as
well, so nothing in it depends on what they note.
-/
namespace DependencyWiring

open Report

/-- How a run reads a document. -/
def Options.reading (o : Options) (source : String) : Declared.Reading :=
  ⟨source, o.stamp .extract⟩

/-- What a run leaves of the place of a node: it was read there, and then built. -/
def Options.trace (o : Options) (source : String) (n : Node) (path : String) : Provenance :=
  let origin : Origin := ⟨source, n.position.line, n.position.column, path⟩
  ⟨⟨origin, ⟨.extract, o.tool, o.moment⟩⟩, [⟨origin, ⟨.transform, o.tool, o.moment⟩⟩]⟩

section

variable {options : Options} {source : String} {root : Node}

theorem Model.ofNode_of_error {cause : Note}
    (h : (options.reading source).readDocument root = .error cause) :
    ofNode options source root = refused options source cause := by
  unfold Options.reading at h
  rw [ofNode, h]

theorem Model.ofNode_of_ok {declared : Report Declared.Model}
    (h : (options.reading source).readDocument root = .ok declared) :
    ofNode options source root = ofDeclared options declared.value declared.notes := by
  unfold Options.reading at h
  rw [ofNode, h]

end

/-! ## Reading by position -/

namespace Declared.Reading

variable (r : Reading)

theorem nodes_listing (n : Node) (path key : String) :
    (r.listing n path key).value.nodes = n.listed key := by
  unfold listing Node.listed
  cases n.get? key with
  | none => rfl
  | some v =>
    cases v with
    | mapping => rfl
    | sequence => rfl
    | scalar text =>
      by_cases hnull : isNull text = true <;> simp [hnull, Listing.nodes, Node.items?]

theorem value_readItems {α : Type} (path key : String) (items : List Node)
    (read : Node → String → Report α) :
    (readItems path key items read).value =
      items.mapIdx fun i n => (read n (LogicalPath.item path key i)).value := by
  rw [readItems, forEachIndexed, value_forEachFrom, List.mapIdx_eq_zipIdx_map]

theorem value_readListing {α : Type} (parent : Node) (path key : String)
    (read : Node → String → Report α) :
    (r.readListing parent path key read).value =
      (parent.listed key).mapIdx fun i n => (read n (LogicalPath.item path key i)).value := by
  rw [readListing, value_bind, value_readItems, nodes_listing]

theorem value_readEntries {α : Type} (node : Node) (path key : String)
    (read : Node → String → Report α) :
    (r.readEntries node path key read).value.getD [] =
      (node.listed key).mapIdx fun i n => (read n (LogicalPath.item path key i)).value := by
  rw [readEntries, value_bind, ← r.nodes_listing node path key]
  cases (r.listing node path key).value with
  | absent => rfl
  | invalid => rfl
  | items nodes holder => exact value_readItems path key nodes read

theorem value_readParameters (node : Node) (path : String) :
    (r.readParameters node path).value.getD [] =
      (node.listed "initializerParameters").mapIdx fun i n =>
        (r.readParameter n (LogicalPath.item path "initializerParameters" i)).value := by
  rw [readParameters, value_bind, ← r.nodes_listing node path "initializerParameters"]
  cases (r.listing node path "initializerParameters").value with
  | absent => rfl
  | invalid => rfl
  | items nodes holder => exact value_readItems path _ nodes r.readParameter

/-- What is no mapping has no lists. -/
theorem listed_eq_nil {n : Node} (h : n.entries? = none) (key : String) : n.listed key = [] := by
  simp [Node.listed, Node.get?, h]

theorem interfaces_readNamespace (node : Node) (path : String) :
    (r.readNamespace node path).value.interfaces =
      (node.listed "interfaces").mapIdx fun j n =>
        (r.readInterface n (LogicalPath.item path "interfaces" j)).value := by
  unfold readNamespace
  cases he : node.entries? with
  | none => simp [listed_eq_nil he]
  | some entries => simp [value_readListing]

theorem classes_readNamespace (node : Node) (path : String) :
    (r.readNamespace node path).value.classes =
      (node.listed "classes").mapIdx fun j n =>
        (r.readClass n (LogicalPath.item path "classes" j)).value := by
  unfold readNamespace
  cases he : node.entries? with
  | none => simp [listed_eq_nil he]
  | some entries => simp [value_readListing]

theorem parameters_readClass (node : Node) (path : String) :
    (r.readClass node path).value.parameters.getD [] =
      (node.listed "initializerParameters").mapIdx fun k n =>
        (r.readParameter n (LogicalPath.item path "initializerParameters" k)).value := by
  unfold readClass
  cases he : node.entries? with
  | none => simp [listed_eq_nil he]
  | some entries => simp [value_readParameters]

theorem assignments_readNamedInstance (node : Node) (path : String) :
    (r.readNamedInstance node path).value.assignments.getD [] =
      (node.listed "assignments").mapIdx fun j n =>
        (r.readAssignment n (LogicalPath.item path "assignments" j)).value := by
  unfold readNamedInstance
  cases he : node.entries? with
  | none => simp [listed_eq_nil he]
  | some entries => simp [value_readEntries]

theorem elements_readNamedInstance (node : Node) (path : String) :
    (r.readNamedInstance node path).value.elements.getD [] =
      (node.listed "elements").mapIdx fun j n =>
        (r.readElement n (LogicalPath.item path "elements" j)).value := by
  unfold readNamedInstance
  cases he : node.entries? with
  | none => simp [listed_eq_nil he]
  | some entries => simp [value_readEntries]

end Declared.Reading

/-! ## Building by position -/

namespace Model

variable (stamp : Stamp) (r : Declared.Reading)

theorem getElem_namespaces (root : Node) (entries : List (String × Node)) (i : Nat) :
    (build stamp (r.readRoot root entries).value).value.namespaces[i]? =
      ((root.listed "namespaces")[i]?).map fun n =>
        (buildNamespace stamp
          (r.readNamespace n (LogicalPath.item LogicalPath.root "namespaces" i)).value).value := by
  simp [Declared.Reading.readRoot, Declared.Reading.value_readListing, Function.comp_def]

theorem getElem_namedInstances (root : Node) (entries : List (String × Node)) (i : Nat) :
    (build stamp (r.readRoot root entries).value).value.namedInstances[i]? =
      ((root.listed "namedInstances")[i]?).map fun n =>
        (buildNamedInstance stamp (r.readNamedInstance n
          (LogicalPath.item LogicalPath.root "namedInstances" i)).value).value := by
  simp [Declared.Reading.readRoot, Declared.Reading.value_readListing, Function.comp_def]

theorem getElem_interfaces (node : Node) (path : String) (j : Nat) :
    (buildNamespace stamp (r.readNamespace node path).value).value.interfaces[j]? =
      ((node.listed "interfaces")[j]?).map fun n =>
        (buildInterface stamp (r.readNamespace node path).value.name.value
          (r.readInterface n (LogicalPath.item path "interfaces" j)).value).value := by
  simp [Declared.Reading.interfaces_readNamespace, Function.comp_def]

theorem getElem_classes (node : Node) (path : String) (j : Nat) :
    (buildNamespace stamp (r.readNamespace node path).value).value.classes[j]? =
      ((node.listed "classes")[j]?).map fun n =>
        (buildClass stamp (r.readNamespace node path).value.name.value
          (r.readClass n (LogicalPath.item path "classes" j)).value).value := by
  simp [Declared.Reading.classes_readNamespace, Function.comp_def]

theorem getElem_parameters (namespaceName : String) (node : Node) (path : String) (k : Nat) :
    (buildClass stamp namespaceName (r.readClass node path).value).value.parameters[k]? =
      ((node.listed "initializerParameters")[k]?).map fun n =>
        (buildParameter stamp
          (r.readParameter n (LogicalPath.item path "initializerParameters" k)).value).value := by
  simp [parameters_buildClass, Declared.Reading.parameters_readClass, Function.comp_def]

theorem assignments_buildNamedInstance (d : Declared.NamedInstance) :
    (buildNamedInstance stamp d).value.assignments =
      (d.assignments.getD []).map fun a => (buildAssignment stamp a).value := by
  unfold NamedInstance.assignments
  rw [initialization_buildNamedInstance, initialization]
  split_ifs with has hes <;> simp_all

theorem elements_buildNamedInstance (d : Declared.NamedInstance) :
    (buildNamedInstance stamp d).value.elements =
      if d.assignments.getD [] = [] then
        (d.elements.getD []).map fun e => (buildElement stamp e).value
      else [] := by
  unfold NamedInstance.elements
  rw [initialization_buildNamedInstance, initialization]
  split_ifs <;> simp_all

theorem getElem_assignments (node : Node) (path : String) (j : Nat) :
    (buildNamedInstance stamp (r.readNamedInstance node path).value).value.assignments[j]? =
      ((node.listed "assignments")[j]?).map fun n =>
        (buildAssignment stamp
          (r.readAssignment n (LogicalPath.item path "assignments" j)).value).value := by
  simp [assignments_buildNamedInstance, Declared.Reading.assignments_readNamedInstance,
    Function.comp_def]

theorem getElem_elements (node : Node) (path : String) (j : Nat) :
    (buildNamedInstance stamp (r.readNamedInstance node path).value).value.elements[j]? =
      if ((node.listed "assignments")[0]?).isSome then none
      else ((node.listed "elements")[j]?).map fun n =>
        (buildElement stamp
          (r.readElement n (LogicalPath.item path "elements" j)).value).value := by
  rw [elements_buildNamedInstance, Declared.Reading.assignments_readNamedInstance,
    Declared.Reading.elements_readNamedInstance]
  cases hl : node.listed "assignments" with
  | nil => simp [Function.comp_def]
  | cons n ns => simp

/-! ## Entities by slot -/

section

variable (options : Options) (source : String)

/-! What is read in a run and then built names the place of its node. -/

theorem trace_buildNamespace (n : Node) (path : String) :
    (buildNamespace (options.stamp .transform)
        ((options.reading source).readNamespace n path).value).value.provenance =
      options.trace source n path :=
  congrArg (options.stamp .transform).extend (Declared.Reading.provenance_readNamespace _ n path)

theorem trace_buildInterface (namespaceName : String) (n : Node) (path : String) :
    (buildInterface (options.stamp .transform) namespaceName
        ((options.reading source).readInterface n path).value).value.provenance =
      options.trace source n path :=
  congrArg (options.stamp .transform).extend (Declared.Reading.provenance_readInterface _ n path)

theorem trace_buildClass (namespaceName : String) (n : Node) (path : String) :
    (buildClass (options.stamp .transform) namespaceName
        ((options.reading source).readClass n path).value).value.provenance =
      options.trace source n path :=
  congrArg (options.stamp .transform).extend (Declared.Reading.provenance_readClass _ n path)

theorem trace_buildParameter (n : Node) (path : String) :
    (buildParameter (options.stamp .transform)
        ((options.reading source).readParameter n path).value).value.provenance =
      options.trace source n path :=
  congrArg (options.stamp .transform).extend (Declared.Reading.provenance_readParameter _ n path)

theorem trace_buildNamedInstance (n : Node) (path : String) :
    (buildNamedInstance (options.stamp .transform)
        ((options.reading source).readNamedInstance n path).value).value.provenance =
      options.trace source n path :=
  congrArg (options.stamp .transform).extend
    (Declared.Reading.provenance_readNamedInstance _ n path)

theorem trace_buildAssignment (n : Node) (path : String) :
    (buildAssignment (options.stamp .transform)
        ((options.reading source).readAssignment n path).value).value.provenance =
      options.trace source n path :=
  congrArg (options.stamp .transform).extend (Declared.Reading.provenance_readAssignment _ n path)

theorem trace_buildElement (n : Node) (path : String) :
    (buildElement (options.stamp .transform)
        ((options.reading source).readElement n path).value).value.provenance =
      options.trace source n path :=
  congrArg (options.stamp .transform).extend (Declared.Reading.provenance_readElement _ n path)

/-- Every slot of the model holds what the node of the slot declares, and it names its place. -/
theorem provenance_build (root : Node) (entries : List (String × Node)) (s : Slot) :
    (build (options.stamp .transform)
        ((options.reading source).readRoot root entries).value).value.provenance? s =
      (root.declared? s).map fun n => options.trace source n s.path := by
  simp only [Slot.path, Slot.trail, Trail.path_ofKeys]
  cases s with
  | namespaceBlock i =>
    simp only [provenance?, Node.declared?, Slot.trail, Slot.keys, Trail.follow_ofKeys_cons,
      Trail.follow_ofKeys_nil, getElem_namespaces, List.foldl_cons, List.foldl_nil,
      Option.bind_fun_some, Option.map_map, Function.comp_def, trace_buildNamespace]
  | interfaceType i j =>
    simp only [provenance?, Node.declared?, Slot.trail, Slot.keys, Trail.follow_ofKeys_cons,
      Trail.follow_ofKeys_nil, getElem_namespaces, getElem_interfaces, List.foldl_cons,
      List.foldl_nil, Option.bind_fun_some, Option.bind_map, Option.map_bind, Option.map_map,
      Function.comp_def, trace_buildInterface]
  | classType i j =>
    simp only [provenance?, Node.declared?, Slot.trail, Slot.keys, Trail.follow_ofKeys_cons,
      Trail.follow_ofKeys_nil, getElem_namespaces, getElem_classes, List.foldl_cons,
      List.foldl_nil, Option.bind_fun_some, Option.bind_map, Option.map_bind, Option.map_map,
      Function.comp_def, trace_buildClass]
  | parameter i j k =>
    simp only [provenance?, Node.declared?, Slot.trail, Slot.keys, Trail.follow_ofKeys_cons,
      Trail.follow_ofKeys_nil, getElem_namespaces, getElem_classes, getElem_parameters,
      List.foldl_cons, List.foldl_nil, Option.bind_fun_some, Option.bind_map, Option.bind_assoc,
      Option.map_bind, Option.map_map, Function.comp_def, trace_buildParameter]
  | namedInstance i =>
    simp only [provenance?, Node.declared?, Slot.trail, Slot.keys, Trail.follow_ofKeys_cons,
      Trail.follow_ofKeys_nil, getElem_namedInstances, List.foldl_cons, List.foldl_nil,
      Option.bind_fun_some, Option.map_map, Function.comp_def, trace_buildNamedInstance]
  | assignment i j =>
    simp only [provenance?, Node.declared?, Slot.trail, Slot.keys, Trail.follow_ofKeys_cons,
      Trail.follow_ofKeys_nil, getElem_namedInstances, getElem_assignments, List.foldl_cons,
      List.foldl_nil, Option.bind_fun_some, Option.bind_map, Option.map_bind, Option.map_map,
      Function.comp_def, trace_buildAssignment]
  | element i j =>
    simp only [provenance?, Node.declared?, Slot.trail, Slot.keys, Trail.follow_ofKeys_cons,
      Trail.follow_ofKeys_nil, getElem_namedInstances, getElem_elements, List.foldl_cons,
      List.foldl_nil, Option.bind_fun_some, Option.bind_map, Function.comp_def]
    cases (root.listed "namedInstances")[i]? with
    | none => rfl
    | some n =>
      -- Whether the elements count depends on the node, so the cases are split here.
      simp only [Option.bind_some]
      split
      · rfl
      · simp only [Option.map_map, Function.comp_def, trace_buildElement]

/-- Every entity was read and then built at the place of a node: of the root, of the block for
generated code or else the root in its place, or of the node that a slot declares. -/
theorem trace_of_mem_provenances {root : Node} {entries : List (String × Node)} {p : Provenance}
    (hp : p ∈ (build (options.stamp .transform)
      ((options.reading source).readRoot root entries).value).value.provenances) :
    p = options.trace source root LogicalPath.root ∨
      p = options.trace source ((root.get? "codeGen").getD root)
        (LogicalPath.key LogicalPath.root "codeGen") ∨
      ∃ s n, root.declared? s = some n ∧ p = options.trace source n s.path := by
  rcases exists_slot_of_mem_provenances hp with rfl | rfl | ⟨s, hs⟩
  · exact .inl rfl
  · refine .inr (.inl ?_)
    exact congrArg (options.stamp .transform).extend
      (Declared.Reading.provenance_readCodeGen _ root)
  · rw [provenance_build] at hs
    obtain ⟨n, hn, rfl⟩ := Option.map_eq_some_iff.mp hs
    exact .inr (.inr ⟨s, n, hn, rfl⟩)

end

theorem provenance_withDiagnostics (m : Model) (diagnostics : List Diagnostic) (s : Slot) :
    { m with diagnostics := diagnostics }.provenance? s = m.provenance? s := by
  cases s <;> rfl

theorem provenance_refused (options : Options) (source : String) (cause : Note) (s : Slot) :
    (refused options source cause).provenance? s = none := by
  cases s <;> rfl

/-- A document without lists declares nothing. -/
theorem declared_eq_none {root : Node} (h : ∀ key, root.listed key = []) (s : Slot) :
    root.declared? s = none := by
  cases s <;>
    simp [Node.declared?, Slot.trail, Slot.keys, Trail.follow_ofKeys_cons, h]

/-- A document gives one entity for each item of its lists of declarations, at the position of the
item, and no others: of an instance the assignments, or the elements if it has no assignment. Each
entity was read and then built at the place of its item, and no two of them share a path. -/
theorem ofNode_keepsDeclarations (options : Options) (source : String) (root : Node) :
    (∀ s, (ofNode options source root).provenance? s =
      (root.declared? s).map fun n => options.trace source n s.path) ∧
    Function.Injective Slot.path := by
  refine ⟨fun s => ?_, Slot.path_injective⟩
  unfold ofNode
  cases hread : (Declared.Reading.mk source (options.stamp .extract)).readDocument root with
  | error cause =>
    have hkeys := (Declared.Reading.cause_of_readDocument _ hread).2.2
    rw [declared_eq_none (fun key => by simp [Node.listed, hkeys]) s]
    exact provenance_refused options source cause s
  | ok declared =>
    obtain ⟨entries, -, rfl⟩ := Declared.Reading.eq_readRoot_of_readDocument _ hread
    rw [← provenance_build options source root entries s]
    exact provenance_withDiagnostics _ _ s

end Model

end DependencyWiring
