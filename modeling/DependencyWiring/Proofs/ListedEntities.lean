import DependencyWiring.Proofs.DistinctPlaces
import DependencyWiring.Proofs.SlotEntities

/-!
# Entities in their order

What a document declares is listed here entity by entity, each in its slot, in the order in which
the model is built. Elements are listed beside assignments, though the model drops them. What is
noted on the way is noted on one entity after the other: first on its name, then on the rules
inside it. Only that a parameter has the name of an earlier one takes two entities, so notes are
followed here up to those on repeated names.
-/
namespace DependencyWiring

open Report

namespace Declared

/-! ## Lists of entities -/

def Class.entities (d : Class) (i j : Nat) : List (Slot × Entity) :=
  (.classType i j, .classType d) ::
    (d.parameters.getD []).zipIdx.map fun (p, k) => (.parameter i j k, .parameter p)

def Namespace.entities (d : Namespace) (i : Nat) : List (Slot × Entity) :=
  (.namespaceBlock i, .namespaceBlock d) ::
    ((d.interfaces.zipIdx.map fun (t, j) => (.interfaceType i j, .interfaceType t)) ++
      d.classes.zipIdx.flatMap fun (c, j) => c.entities i j)

def NamedInstance.entities (d : NamedInstance) (i : Nat) : List (Slot × Entity) :=
  (.namedInstance i, .namedInstance d) ::
    (((d.assignments.getD []).zipIdx.map fun (a, j) => (.assignment i j, .assignment a)) ++
      (d.elements.getD []).zipIdx.map fun (e, j) => (.element i j, .element e))

namespace Model

/-- All entities with their slots, each behind its owner. -/
def entities (d : Model) : List (Slot × Entity) :=
  (d.namespaces.zipIdx.flatMap fun (ns, i) => ns.entities i) ++
    d.namedInstances.zipIdx.flatMap fun (inst, i) => inst.entities i

/-- What is listed with a slot is the entity of the slot. -/
theorem mem_entities_iff {d : Model} {s : Slot} {e : Entity} :
    (s, e) ∈ d.entities ↔ d.entity? s = some e := by
  cases s <;>
    simp [entities, Namespace.entities, Class.entities, NamedInstance.entities, entity?,
      List.mem_zipIdx_iff_getElem?, Option.bind_eq_some_iff, Option.bind_assoc, eq_comm (a := e)]

end Model

/-! ### Each slot once -/

/-- What is made of positions alone is distinct. -/
theorem nodup_map_zipIdx {α β : Type} {f : Nat → β} (hf : Function.Injective f) (as : List α) :
    (as.zipIdx.map fun p => f p.2).Nodup := by
  have hpositions := (List.nodup_zipIdx_map_snd as).map hf
  rwa [List.map_map] at hpositions

theorem Class.nodup_entities (d : Class) (i j : Nat) : ((d.entities i j).map Prod.fst).Nodup := by
  rw [entities, List.map_cons, List.map_map, List.nodup_cons]
  constructor
  · simp
  · exact nodup_map_zipIdx (f := Slot.parameter i j) (fun k k' h => by simpa using h) _

theorem Namespace.nodup_entities (d : Namespace) (i : Nat) :
    ((d.entities i).map Prod.fst).Nodup := by
  have hclasses : (d.classes.zipIdx.flatMap fun p => (p.1.entities i p.2).map Prod.fst).Nodup := by
    apply nodup_flatMap_zipIdx Slot.classPosition
    · exact fun p _ => p.1.nodup_entities i p.2
    · intro p _ s hs
      simp only [Class.entities, List.map_cons, List.map_map, List.mem_cons, List.mem_map] at hs
      rcases hs with rfl | ⟨q, -, rfl⟩ <;> rfl
  rw [entities, List.map_cons, List.map_append, List.map_map, List.map_flatMap, List.nodup_cons,
    List.nodup_append']
  refine ⟨by simp [Class.entities],
    nodup_map_zipIdx (f := Slot.interfaceType i) (fun j j' h => by simpa using h) _, hclasses, ?_⟩
  -- A slot of an interface is none of a class or of a parameter.
  intro s hs hs'
  obtain ⟨q, -, rfl⟩ := List.mem_map.mp hs
  simp [Class.entities] at hs'

theorem NamedInstance.nodup_entities (d : NamedInstance) (i : Nat) :
    ((d.entities i).map Prod.fst).Nodup := by
  rw [entities, List.map_cons, List.map_append, List.map_map, List.map_map, List.nodup_cons,
    List.nodup_append']
  refine ⟨by simp,
    nodup_map_zipIdx (f := Slot.assignment i) (fun j j' h => by simpa using h) _,
    nodup_map_zipIdx (f := Slot.element i) (fun j j' h => by simpa using h) _, ?_⟩
  intro s hs hs'
  obtain ⟨q, -, rfl⟩ := List.mem_map.mp hs
  simp at hs'

theorem Model.nodup_entities (d : Model) : (d.entities.map Prod.fst).Nodup := by
  rw [entities, List.map_append, List.map_flatMap, List.map_flatMap, List.nodup_append']
  refine ⟨nodup_flatMap_zipIdx Slot.position (fun p _ => p.1.nodup_entities p.2) ?_,
    nodup_flatMap_zipIdx Slot.position (fun p _ => p.1.nodup_entities p.2) ?_, ?_⟩
  · intro p _ s hs
    simp only [Namespace.entities, Class.entities, List.map_cons, List.map_append, List.map_map,
      List.map_flatMap, List.mem_cons, List.mem_append, List.mem_map, List.mem_flatMap] at hs
    rcases hs with rfl | ⟨q, -, rfl⟩ | ⟨q, -, rfl | ⟨q', -, rfl⟩⟩ <;> rfl
  · intro p _ s hs
    simp only [NamedInstance.entities, List.map_cons, List.map_append, List.map_map, List.mem_cons,
      List.mem_append, List.mem_map] at hs
    rcases hs with rfl | ⟨q, -, rfl⟩ | ⟨q, -, rfl⟩ <;> rfl
  -- A slot of a namespace is none of an instance.
  · intro s hs hs'
    obtain ⟨p, -, hp⟩ := List.mem_flatMap.mp hs
    obtain ⟨q, -, hq⟩ := List.mem_flatMap.mp hs'
    simp only [NamedInstance.entities, List.map_cons, List.map_append, List.map_map, List.mem_cons,
      List.mem_append, List.mem_map] at hq
    rcases hq with rfl | ⟨k, -, rfl⟩ | ⟨k, -, rfl⟩ <;>
      simp [Namespace.entities, Class.entities] at hp

/-! ### Places -/

namespace Entity

/-- Where the entity was declared. -/
def provenance : Entity → Provenance
  | .namespaceBlock d => d.provenance
  | .interfaceType d => d.provenance
  | .classType d => d.provenance
  | .parameter d => d.provenance
  | .namedInstance d => d.provenance
  | .assignment d => d.provenance
  | .element d => d.provenance

/-- What a slot declares is at the path of the slot. -/
theorem provenance_readSlot (r : Reading) (s : Slot) (n : Node) :
    (r.readSlot s n).provenance = r.provenance n s.path := by
  cases s with
  | namespaceBlock => exact r.provenance_readNamespace n _
  | interfaceType => exact r.provenance_readInterface n _
  | classType => exact r.provenance_readClass n _
  | parameter => exact r.provenance_readParameter n _
  | namedInstance => exact r.provenance_readNamedInstance n _
  | assignment => exact r.provenance_readAssignment n _
  | element => exact r.provenance_readElement n _

end Entity

namespace Reading

variable (r : Reading) {root : Node} {entries : List (String × Node)}

/-- Every entity that is read is that of the node of its slot. -/
theorem mem_entities_readRoot {s : Slot} {e : Entity} :
    (s, e) ∈ (r.readRoot root entries).value.entities ↔
      ∃ n, root.follow s.trail = some n ∧ r.readSlot s n = e := by
  rw [Model.mem_entities_iff, entity_readRoot, Option.map_eq_some_iff]

theorem location_of_mem_entities {s : Slot} {e : Entity}
    (h : (s, e) ∈ (r.readRoot root entries).value.entities) :
    e.provenance.location = r.source ++ "#" ++ s.path := by
  obtain ⟨n, -, rfl⟩ := r.mem_entities_readRoot.mp h
  rw [Entity.provenance_readSlot]
  rfl

/-- No two entities that are read are at one location. -/
theorem nodup_locations :
    ((r.readRoot root entries).value.entities.map fun e => e.2.provenance.location).Nodup := by
  have hplaces : ((r.readRoot root entries).value.entities.map fun e => e.2.provenance.location) =
      ((r.readRoot root entries).value.entities.map Prod.fst).map fun s =>
        r.source ++ "#" ++ s.path := by
    rw [List.map_map]
    exact List.map_congr_left fun e he => r.location_of_mem_entities he
  rw [hplaces]
  apply (Model.nodup_entities _).map
  intro s t h
  exact Slot.path_injective (String.append_right_inj (r.source ++ "#") |>.mp h)

end Reading

end Declared

/-! ## Notes on entities -/

theorem Report.eq_of_mem_noteIf {condition : Bool} {finding : Finding} {origin : Origin} {n : Note}
    (h : n ∈ (noteIf condition finding origin).notes) : n = ⟨finding, origin⟩ := by
  cases condition <;> simp_all [noteIf]

namespace Model

theorem mem_notes_parameterType {d : Declared.Parameter} {n : Note}
    (h : n ∈ (parameterType d).notes) :
    (n.finding = .parameterBothTypes d.name.value ∨
      n.finding = .parameterWithoutType d.name.value) ∧ n.origin = d.provenance.origin := by
  unfold parameterType at h
  cases hclass : d.classRef <;> cases hinterface : d.interfaceRef <;>
    simp only [hclass, hinterface, notes_bind, notes_pure, List.append_nil] at h
  · obtain rfl := eq_of_mem_noteIf h
    exact ⟨.inr rfl, rfl⟩
  · exact absurd h List.not_mem_nil
  · exact absurd h List.not_mem_nil
  · obtain rfl := List.mem_singleton.mp h
    exact ⟨.inl rfl, rfl⟩

theorem mem_notes_buildWiring {value instanceRef : Option Declared.Field} {placeholder : Bool}
    {provenance : Provenance} {site : WiringSite} {n : Note}
    (h : n ∈ (buildWiring value instanceRef placeholder provenance site).notes) :
    (n.finding = .bothValueAndReference site ∨ n.finding = .neitherValueNorReference site) ∧
      n.origin = provenance.origin := by
  unfold buildWiring at h
  cases value <;> cases instanceRef <;>
    simp only [notes_bind, notes_pure, List.append_nil] at h
  · obtain rfl := eq_of_mem_noteIf h
    exact ⟨.inr rfl, rfl⟩
  · exact absurd h List.not_mem_nil
  · exact absurd h List.not_mem_nil
  · obtain rfl := List.mem_singleton.mp h
    exact ⟨.inl rfl, rfl⟩

end Model

namespace Declared

namespace Entity

/-- The name that is checked once more when the entity is built. An element has none. -/
def name? : Entity → Option (Field × NameForm)
  | .namespaceBlock d => some (d.name, .simpleOrQualified)
  | .interfaceType d => some (d.name, .simple)
  | .classType d => some (d.name, .simple)
  | .parameter d => some (d.name, .simple)
  | .namedInstance d => some (d.name, .simple)
  | .assignment d => some (d.parameterName, .simple)
  | .element _ => none

/-- What is noted on the name. -/
def nameNotes (e : Entity) : List Note :=
  e.name?.toList.flatMap fun f => (DependencyWiring.Model.recheck f.1 f.2).notes

/-- What is noted on the rules inside the entity, which are those of its kind. -/
def ruleNotes : Entity → List Note
  | .namespaceBlock d =>
    (noteIf (!d.placeholder && d.interfaces.isEmpty && d.classes.isEmpty)
      (.emptyNamespace d.name.value) d.provenance.origin).notes
  | .interfaceType d =>
    (noteIf ((DependencyWiring.Model.recheck d.name .simple).value &&
      !Name.isInterfaceName d.name.value) (.interfaceNaming d.name.value) d.name.origin).notes
  | .classType d =>
    (noteIf ((DependencyWiring.Model.recheck d.name .simple).value &&
      !Name.isPascalCase d.name.value) (.classNaming d.name.value) d.name.origin).notes
  | .parameter d => (DependencyWiring.Model.parameterType d).notes
  | .namedInstance d =>
    let both := !(d.assignments.getD []).isEmpty && !(d.elements.getD []).isEmpty
    (noteIf both (.bothLists d.name.value) d.provenance.origin).notes ++
      (noteIf (!both && !(d.elements.getD []).isEmpty && d.classRef.isUsable &&
        !d.classRef.resolved.isArray)
        (.elementsOfNonArray d.name.value d.classRef.resolved.token) d.provenance.origin).notes
  | .assignment d =>
    (DependencyWiring.Model.buildWiring d.value d.instanceRef d.placeholder d.provenance
      (.assignment d.parameterName.value)).notes
  | .element d =>
    (DependencyWiring.Model.buildWiring d.value d.instanceRef d.placeholder d.provenance
      .element).notes

/-- The codes of the rules inside an entity. -/
def ruleCodes : Entity → List Code
  | .namespaceBlock _ => [.emptyNamespace]
  | .interfaceType _ => [.interfaceNamingConvention]
  | .classType _ => [.classNamingConvention]
  | .parameter _ => [.parameterBothClassAndInterface, .parameterMissingType]
  | .namedInstance _ => [.namedInstanceBothAssignmentsAndElements, .elementsRequireArrayType]
  | .assignment _ => [.assignmentBothValueAndReference, .assignmentMissingValue]
  | .element _ => [.elementBothValueAndReference, .elementMissingValue]

/-- Where a rule inside the entity is noted: that of the form of a type's name on the name. -/
def ruleOrigin : Entity → Origin
  | .interfaceType d => d.name.origin
  | .classType d => d.name.origin
  | e => e.provenance.origin

theorem code_origin_of_mem_ruleNotes {e : Entity} {n : Note} (h : n ∈ e.ruleNotes) :
    n.code ∈ e.ruleCodes ∧ n.origin = e.ruleOrigin := by
  cases e with
  | namespaceBlock d =>
    obtain rfl := eq_of_mem_noteIf h
    exact ⟨List.mem_singleton_self _, rfl⟩
  | interfaceType d =>
    obtain rfl := eq_of_mem_noteIf h
    exact ⟨List.mem_singleton_self _, rfl⟩
  | classType d =>
    obtain rfl := eq_of_mem_noteIf h
    exact ⟨List.mem_singleton_self _, rfl⟩
  | parameter d =>
    obtain ⟨hfinding | hfinding, horigin⟩ := DependencyWiring.Model.mem_notes_parameterType h <;>
      exact ⟨by simp [Note.code, hfinding, ruleCodes], horigin⟩
  | namedInstance d =>
    rcases List.mem_append.mp h with h | h <;> obtain rfl := eq_of_mem_noteIf h <;>
      exact ⟨by simp [Note.code, ruleCodes], rfl⟩
  | assignment d =>
    obtain ⟨hfinding | hfinding, horigin⟩ := DependencyWiring.Model.mem_notes_buildWiring h <;>
      exact ⟨by simp [Note.code, hfinding, ruleCodes], horigin⟩
  | element d =>
    obtain ⟨hfinding | hfinding, horigin⟩ := DependencyWiring.Model.mem_notes_buildWiring h <;>
      exact ⟨by simp [Note.code, hfinding, ruleCodes], horigin⟩

/-- What is noted on the entity itself, and not on those that it holds. -/
def ownNotes (e : Entity) : List Note :=
  e.nameNotes ++ e.ruleNotes

end Entity

end Declared

/-! ### Notes on names -/

/-- Whether the code is one for the form of a name. -/
def Code.isNameForm : Code → Bool
  | invalidIdentifier | invalidQualifiedName => true
  | _ => false

theorem isNameForm_nameCode (value : String) (form : NameForm) :
    (Finding.nameCode value form).isNameForm = true := by
  cases form with
  | simple => rfl
  | simpleOrQualified =>
    dsimp only [Finding.nameCode]
    split <;> rfl

theorem Model.isNameForm_of_mem_recheck {f : Declared.Field} {form : NameForm} {n : Note}
    (h : n ∈ (recheck f form).notes) : n.code.isNameForm = true := by
  unfold recheck at h
  extract_lets hasForm at h
  split at h
  · simp at h
  · split at h
    · simp at h
    · obtain rfl : n = ⟨.illFormedName f.value form, f.origin⟩ := by simpa using h
      exact isNameForm_nameCode f.value form

theorem Declared.Entity.isNameForm_of_mem_nameNotes {e : Entity} {n : Note}
    (h : n ∈ e.nameNotes) : n.code.isNameForm = true := by
  obtain ⟨f, -, hn⟩ := List.mem_flatMap.mp h
  exact DependencyWiring.Model.isNameForm_of_mem_recheck hn

theorem Model.isNameForm_of_mem_buildCodeGen {stamp : Stamp} {d : Declared.CodeGen} {n : Note}
    (h : n ∈ (buildCodeGen stamp d).notes) : n.code.isNameForm = true := by
  simp only [buildCodeGen, notes_bind, notes_pure, List.append_nil, List.mem_append] at h
  rcases h with h | h | h <;> exact isNameForm_of_mem_recheck h

namespace Model

variable (stamp : Stamp) {p : Note → Bool}
  (hp : ∀ parameter className origin, p ⟨.duplicateParameter parameter className, origin⟩ = false)

include hp

theorem filter_notes_buildParameters (className : String) (seen : List String)
    (ds : List Declared.Parameter) :
    (buildParameters stamp className seen ds).notes.filter p =
      (ds.flatMap fun d => (Declared.Entity.parameter d).ownNotes).filter p := by
  induction ds generalizing seen with
  | nil => rfl
  | cons d ds ih =>
    have hrepeated : ∀ condition, (noteIf condition
        (.duplicateParameter d.name.value className) d.name.origin).notes.filter p = [] := by
      intro condition
      cases condition <;> simp [noteIf, hp]
    have hown : (buildParameter stamp d).notes = (Declared.Entity.parameter d).ownNotes := by
      simp [buildParameter, Declared.Entity.ownNotes, Declared.Entity.nameNotes,
        Declared.Entity.name?, Declared.Entity.ruleNotes]
    simp only [buildParameters, notes_bind, notes_pure, List.filter_append, hrepeated, hown, ih,
      List.flatMap_cons, List.nil_append, List.append_nil]

theorem filter_notes_buildClass (namespaceName : String) (d : Declared.Class) (i j : Nat) :
    (buildClass stamp namespaceName d).notes.filter p =
      ((d.entities i j).flatMap fun e => e.2.ownNotes).filter p := by
  have hparameters : ((d.parameters.getD []).zipIdx.map fun (p, k) =>
      (Slot.parameter i j k, Declared.Entity.parameter p)).flatMap (fun e => e.2.ownNotes) =
      (d.parameters.getD []).flatMap fun d => (Declared.Entity.parameter d).ownNotes := by
    rw [List.flatMap_map]
    exact flatMap_zipIdx_eq fun q _ => rfl
  rw [Declared.Class.entities, List.flatMap_cons, hparameters, List.filter_append,
    ← filter_notes_buildParameters stamp hp (Name.qualify namespaceName d.name.value) []]
  simp [buildClass, Declared.Entity.ownNotes, Declared.Entity.nameNotes, Declared.Entity.name?,
    Declared.Entity.ruleNotes]

theorem filter_notes_buildNamespace (d : Declared.Namespace) (i : Nat) :
    (buildNamespace stamp d).notes.filter p =
      ((d.entities i).flatMap fun e => e.2.ownNotes).filter p := by
  have hinterfaces : (d.interfaces.zipIdx.map fun (t, j) =>
      (Slot.interfaceType i j, Declared.Entity.interfaceType t)).flatMap (fun e => e.2.ownNotes) =
      d.interfaces.flatMap fun t => (buildInterface stamp d.name.value t).notes := by
    rw [List.flatMap_map]
    refine flatMap_zipIdx_eq fun q _ => ?_
    simp [buildInterface, Declared.Entity.ownNotes, Declared.Entity.nameNotes,
      Declared.Entity.name?, Declared.Entity.ruleNotes]
  have hclasses : ((d.classes.zipIdx.flatMap fun (c, j) => c.entities i j).flatMap
      fun e => e.2.ownNotes).filter p =
      (d.classes.flatMap fun c => (buildClass stamp d.name.value c).notes).filter p := by
    rw [List.flatMap_assoc, List.filter_flatMap, List.filter_flatMap]
    exact flatMap_zipIdx_eq fun q _ =>
      (filter_notes_buildClass stamp hp d.name.value q.1 i q.2).symm
  rw [Declared.Namespace.entities, List.flatMap_cons, List.flatMap_append, hinterfaces,
    List.filter_append, List.filter_append, hclasses]
  simp [buildNamespace, Declared.Entity.ownNotes, Declared.Entity.nameNotes, Declared.Entity.name?,
    Declared.Entity.ruleNotes]

omit hp in
theorem notes_buildNamedInstance (d : Declared.NamedInstance) (i : Nat) :
    (buildNamedInstance stamp d).notes = (d.entities i).flatMap fun e => e.2.ownNotes := by
  have hassignments : ((d.assignments.getD []).zipIdx.map fun (a, j) =>
      (Slot.assignment i j, Declared.Entity.assignment a)).flatMap (fun e => e.2.ownNotes) =
      (d.assignments.getD []).flatMap fun a => (buildAssignment stamp a).notes := by
    rw [List.flatMap_map]
    refine flatMap_zipIdx_eq fun q _ => ?_
    simp [buildAssignment, Declared.Entity.ownNotes, Declared.Entity.nameNotes,
      Declared.Entity.name?, Declared.Entity.ruleNotes]
  have helements : ((d.elements.getD []).zipIdx.map fun (e, j) =>
      (Slot.element i j, Declared.Entity.element e)).flatMap (fun e => e.2.ownNotes) =
      (d.elements.getD []).flatMap fun e => (buildElement stamp e).notes := by
    rw [List.flatMap_map]
    refine flatMap_zipIdx_eq fun q _ => ?_
    simp [buildElement, Declared.Entity.ownNotes, Declared.Entity.nameNotes,
      Declared.Entity.name?, Declared.Entity.ruleNotes]
  rw [Declared.NamedInstance.entities, List.flatMap_cons, List.flatMap_append, hassignments,
    helements]
  simp [buildNamedInstance, Declared.Entity.ownNotes, Declared.Entity.nameNotes,
    Declared.Entity.name?, Declared.Entity.ruleNotes]

/-- Up to notes on repeated names, a model is built with those on the block for generated code and
then those on its entities, one after the other. -/
theorem filter_notes_build (d : Declared.Model) :
    (build stamp d).notes.filter p =
      ((buildCodeGen stamp d.codeGen).notes ++ d.entities.flatMap fun e => e.2.ownNotes).filter
        p := by
  have hnamespaces : ((d.namespaces.zipIdx.flatMap fun (ns, i) => ns.entities i).flatMap
      fun e => e.2.ownNotes).filter p =
      (d.namespaces.flatMap fun ns => (buildNamespace stamp ns).notes).filter p := by
    rw [List.flatMap_assoc, List.filter_flatMap, List.filter_flatMap]
    exact flatMap_zipIdx_eq fun q _ => (filter_notes_buildNamespace stamp hp q.1 q.2).symm
  have hinstances : ((d.namedInstances.zipIdx.flatMap fun (inst, i) => inst.entities i).flatMap
      fun e => e.2.ownNotes) =
      d.namedInstances.flatMap fun inst => (buildNamedInstance stamp inst).notes := by
    rw [List.flatMap_assoc]
    exact flatMap_zipIdx_eq fun q _ => (notes_buildNamedInstance stamp q.1 q.2).symm
  rw [Declared.Model.entities, List.flatMap_append, List.filter_append, List.filter_append,
    hnamespaces, hinstances]
  simp [build]

end Model

end DependencyWiring
