import DependencyWiring.Proofs.DeclarationGrammar
import DependencyWiring.Proofs.ListedEntities

/-!
# Exclusive fields

A parameter has one of two types, and an assignment or an element takes one of two things. Whether
a field is given is said here of the first entry of its key alone, and an entity is reported once
at its own place if it gives both fields and once if it gives none. An instance is reported once if
it lists both assignments and elements. Nothing else in a document is reported for one of these
faults, and elements that are left out of the model are reported like all others.
-/
namespace DependencyWiring

open Report

/-! ## Fields that are given -/

/-- The first entry of the key is a scalar that stands for a value. -/
def Node.presents (n : Node) (key : String) : Bool :=
  match n.get? key with
  | some (.scalar text _) => !(["", "~", "null"].contains (Text.trim text))
  | _ => false

namespace Declared.Reading

variable (r : Reading) (n : Node) (path key : String)

theorem isSome_optional (form : Option NameForm) :
    (r.optional n path key form).value.isSome = n.presents key := by
  have hnull : ∀ text, isNull text = ["", "~", "null"].contains (Text.trim text) := by
    intro text
    rw [Bool.eq_iff_iff, isNull_iff]
    simp [Text.IsNull]
  unfold optional Node.presents
  cases n.get? key with
  | none => rfl
  | some v =>
    cases v with
    | mapping => rfl
    | sequence => rfl
    | scalar text =>
      dsimp only [Node.text?]
      rw [← hnull]
      cases isNull text <;> rfl

theorem isSome_optionalReference (role : ReferenceRole) :
    (r.optionalReference n path key role).value.isSome = n.presents key := by
  rw [← r.isSome_optional n path key none, optionalReference, value_bind]
  cases (r.optional n path key none).value <;> rfl

theorem isSome_checkConcrete (name : Field) (classRef interfaceRef : Option Reference) :
    (checkConcrete name classRef interfaceRef).value.isSome = classRef.isSome := by
  unfold checkConcrete
  split
  · split <;> rfl
  · rfl

end Declared.Reading

/-! ## Pairs of fields -/

/-- Two fields of which exactly one is to be given, and the codes for both and for neither. -/
structure Exclusion where
  first : String
  second : String
  both : Code
  neither : Code

/-- The fields that exclude each other in what a slot declares. -/
def Slot.exclusion? : Slot → Option Exclusion
  | .parameter .. => some ⟨"qualifiedClassName", "qualifiedInterfaceName",
      .parameterBothClassAndInterface, .parameterMissingType⟩
  | .assignment .. => some ⟨"assignmentValue", "namedInstanceName",
      .assignmentBothValueAndReference, .assignmentMissingValue⟩
  | .element .. => some ⟨"assignmentValue", "namedInstanceName",
      .elementBothValueAndReference, .elementMissingValue⟩
  | _ => none

/-- The codes that what a slot declares may be given for its exclusive fields or lists. -/
def Slot.exclusiveCodes : Slot → List Code
  | .namedInstance _ => [.namedInstanceBothAssignmentsAndElements]
  | s => s.exclusion?.toList.flatMap fun x => [x.both, x.neither]

/-- The codes of all exclusive fields and lists. -/
def Code.isExclusive (c : Code) : Bool :=
  [parameterBothClassAndInterface, parameterMissingType, assignmentBothValueAndReference,
    assignmentMissingValue, elementBothValueAndReference, elementMissingValue,
    namedInstanceBothAssignmentsAndElements].contains c

theorem Slot.isExclusive_of_exclusion {s : Slot} {x : Exclusion} (h : s.exclusion? = some x) :
    x.both.isExclusive = true ∧ x.neither.isExclusive = true ∧ x.both ≠ x.neither := by
  cases s <;> cases h <;> decide

theorem Code.phase_of_isExclusive {c : Code} (h : c.isExclusive = true) : c.phase = .building := by
  cases c <;> first | rfl | exact absurd h (by decide)

/-- No such code is one for the form of a name. -/
theorem Code.not_isNameForm_of_isExclusive {c : Code} (h : c.isExclusive = true) :
    ¬c.isNameForm = true := by
  cases c <;> first | decide | exact absurd h (by decide)

/-- The notes on a pair of fields of which the first or the second may be given. -/
def Exclusion.notes (both neither : Finding) (o : Origin) (first second : Bool) : List Note :=
  match first, second with
  | true, true => [⟨both, o⟩]
  | false, false => [⟨neither, o⟩]
  | _, _ => []

namespace Model

theorem notes_parameterType {d : Declared.Parameter} (h : d.placeholder = false) :
    (parameterType d).notes = Exclusion.notes (.parameterBothTypes d.name.value)
      (.parameterWithoutType d.name.value) d.provenance.origin d.classRef.isSome
      d.interfaceRef.isSome := by
  unfold parameterType
  cases d.classRef <;> cases d.interfaceRef <;> simp [Exclusion.notes, noteIf, h]

theorem notes_buildWiring {placeholder : Bool} (h : placeholder = false)
    (value instanceRef : Option Declared.Field) (provenance : Provenance) (site : WiringSite) :
    (buildWiring value instanceRef placeholder provenance site).notes =
      Exclusion.notes (.bothValueAndReference site) (.neitherValueNorReference site)
        provenance.origin value.isSome instanceRef.isSome := by
  unfold buildWiring
  cases value <;> cases instanceRef <;> simp [Exclusion.notes, noteIf, h]

end Model

theorem Exclusion.countP_notes {x : Exclusion} (hx : x.both ≠ x.neither) {both neither : Finding}
    (hboth : both.code = x.both) (hneither : neither.code = x.neither) (o : Origin)
    (first second : Bool) :
    (Exclusion.notes both neither o first second).countP (fun n => n.code = x.both) =
        (if first && second then 1 else 0) ∧
      (Exclusion.notes both neither o first second).countP (fun n => n.code = x.neither) =
        if !first && !second then 1 else 0 := by
  cases first <;> cases second <;>
    simp [notes, Note.code, hboth, hneither, hx, hx.symm, -Finding.code]

theorem countP_noteIf (condition : Bool) (finding : Finding) (o : Origin) (p : Note → Bool) :
    (noteIf condition finding o).notes.countP p = if condition && p ⟨finding, o⟩ then 1 else 0 := by
  cases condition <;> cases hp : p ⟨finding, o⟩ <;> simp [noteIf, hp]

/-! ## What is noted in a slot -/

namespace Declared.Reading

variable (r : Reading)

section

variable {n : Node} {entries : List (String × Node)} (he : n.entries? = some entries)
  (path : String)

include he

theorem fields_readParameter : (r.readParameter n path).value.placeholder = false ∧
    (r.readParameter n path).value.classRef.isSome = n.presents "qualifiedClassName" ∧
    (r.readParameter n path).value.interfaceRef.isSome = n.presents "qualifiedInterfaceName" := by
  simp [readParameter, he, isSome_checkConcrete, isSome_optionalReference]

theorem fields_readAssignment : (r.readAssignment n path).value.placeholder = false ∧
    (r.readAssignment n path).value.value.isSome = n.presents "assignmentValue" ∧
    (r.readAssignment n path).value.instanceRef.isSome = n.presents "namedInstanceName" := by
  simp [readAssignment, he, isSome_optional]

theorem fields_readElement : (r.readElement n path).value.placeholder = false ∧
    (r.readElement n path).value.value.isSome = n.presents "assignmentValue" ∧
    (r.readElement n path).value.instanceRef.isSome = n.presents "namedInstanceName" := by
  simp [readElement, he, isSome_optional]

/-- What a mapping in a slot with exclusive fields is noted for follows from the fields it gives. -/
theorem ruleNotes_readSlot {s : Slot} {x : Exclusion} (hs : s.exclusion? = some x) :
    ∃ both neither : Finding, both.code = x.both ∧ neither.code = x.neither ∧
      (r.readSlot s n).ruleNotes = Exclusion.notes both neither (r.readSlot s n).provenance.origin
        (n.presents x.first) (n.presents x.second) := by
  cases s with
  | parameter i j k =>
    cases hs
    let d := (r.readParameter n (Slot.parameter i j k).path).value
    obtain ⟨hauthored, hfirst, hsecond⟩ := r.fields_readParameter he (Slot.parameter i j k).path
    refine ⟨.parameterBothTypes d.name.value, .parameterWithoutType d.name.value, rfl, rfl, ?_⟩
    rw [← hfirst, ← hsecond]
    exact DependencyWiring.Model.notes_parameterType hauthored
  | assignment i j =>
    cases hs
    let d := (r.readAssignment n (Slot.assignment i j).path).value
    let site := WiringSite.assignment d.parameterName.value
    obtain ⟨hauthored, hfirst, hsecond⟩ := r.fields_readAssignment he (Slot.assignment i j).path
    refine ⟨.bothValueAndReference site, .neitherValueNorReference site, rfl, rfl, ?_⟩
    rw [← hfirst, ← hsecond]
    exact DependencyWiring.Model.notes_buildWiring hauthored d.value d.instanceRef d.provenance site
  | element i j =>
    cases hs
    let d := (r.readElement n (Slot.element i j).path).value
    obtain ⟨hauthored, hfirst, hsecond⟩ := r.fields_readElement he (Slot.element i j).path
    refine ⟨.bothValueAndReference .element, .neitherValueNorReference .element, rfl, rfl, ?_⟩
    rw [← hfirst, ← hsecond]
    exact DependencyWiring.Model.notes_buildWiring hauthored d.value d.instanceRef d.provenance
      .element
  | _ => cases hs

end

/-- What is no mapping is noted for no rule. -/
theorem ruleNotes_readSlot_of_entries_eq_none {n : Node} (he : n.entries? = none) (s : Slot) :
    (r.readSlot s n).ruleNotes = [] := by
  cases s <;>
    simp [readSlot, Entity.ruleNotes, readNamespace, readInterface, readClass, readParameter,
      readNamedInstance, readAssignment, readElement, he, DependencyWiring.Model.parameterType,
      DependencyWiring.Model.buildWiring, DependencyWiring.Model.recheck, noteIf, absent,
      Field.isValid]

theorem isEmpty_mapIdx {α β : Type} (f : Nat → α → β) (as : List α) :
    (as.mapIdx f).isEmpty = as.isEmpty := by
  cases as <;> simp

/-- An instance is noted once for its lists, if it has both. -/
theorem countP_bothLists_readSlot (n : Node) (i : Nat) :
    (r.readSlot (.namedInstance i) n).ruleNotes.countP
        (fun note => note.code = .namedInstanceBothAssignmentsAndElements) =
      if !(n.listed "assignments").isEmpty && !(n.listed "elements").isEmpty then 1 else 0 := by
  have hassignments : ((r.readNamedInstance n (Slot.namedInstance i).path).value.assignments.getD
      []).isEmpty = (n.listed "assignments").isEmpty := by
    rw [r.assignments_readNamedInstance, isEmpty_mapIdx]
  have helements : ((r.readNamedInstance n (Slot.namedInstance i).path).value.elements.getD
      []).isEmpty = (n.listed "elements").isEmpty := by
    rw [r.elements_readNamedInstance, isEmpty_mapIdx]
  rw [← hassignments, ← helements]
  dsimp only [readSlot, Entity.ruleNotes]
  rw [List.countP_append, countP_noteIf, countP_noteIf]
  simp [Note.code]

/-- What is noted on an entity for an exclusive field or list has a code of its slot. -/
theorem mem_exclusiveCodes {s : Slot} {n : Node} {code : Code}
    (h : code ∈ (r.readSlot s n).ruleCodes) (hcode : code.isExclusive = true) :
    code ∈ s.exclusiveCodes := by
  cases s with
  | namedInstance i =>
    simp only [readSlot, Entity.ruleCodes, List.mem_cons, List.not_mem_nil, or_false] at h
    rcases h with rfl | rfl
    · exact List.mem_singleton_self _
    · exact absurd hcode (by decide)
  | _ =>
    simp_all [readSlot, Entity.ruleCodes, Slot.exclusiveCodes, Slot.exclusion?, Code.isExclusive]

end Declared.Reading

/-- Whatever is noted for an exclusive field or list is noted at the place of the entity. -/
theorem Declared.Entity.origin_of_mem_ownNotes {e : Entity} {n : Note} (h : n ∈ e.ownNotes)
    (hn : n.code.isExclusive = true) : n ∈ e.ruleNotes ∧ n.origin = e.provenance.origin := by
  rcases List.mem_append.mp h with h | h
  · exact absurd (isNameForm_of_mem_nameNotes h) (Code.not_isNameForm_of_isExclusive hn)
  · obtain ⟨hcode, horigin⟩ := code_origin_of_mem_ruleNotes h
    refine ⟨h, ?_⟩
    cases e <;> simp_all [ruleCodes, ruleOrigin, Code.isExclusive]

theorem Declared.Entity.countP_ownNotes (e : Entity) {c : Code} (hc : c.isExclusive = true) :
    e.ownNotes.countP (fun n => n.code = c) = e.ruleNotes.countP fun n => n.code = c := by
  have hname : e.nameNotes.countP (fun n => n.code = c) = 0 := by
    rw [List.countP_eq_zero]
    intro n hn hcode
    obtain rfl := of_decide_eq_true hcode
    exact Code.not_isNameForm_of_isExclusive hc (isNameForm_of_mem_nameNotes hn)
  rw [ownNotes, List.countP_append, hname, Nat.zero_add]

/-! ## Reports on exclusive fields -/

namespace Model

/-- What is reported on exclusive fields and lists for a document: for each mapping in a slot once
at its own place if both fields are given, and once if none is; for an instance once if both of its
lists have an item. Nothing else is reported for them anywhere. -/
structure ReportsExclusions (m : Model) (source : String) (root : Node) : Prop where
  fields : ∀ (s : Slot) (x : Exclusion) (n : Node), s.exclusion? = some x →
    root.follow s.trail = some n → n.shape = .mapping →
    Diagnostic.countAt m.diagnostics x.both (source ++ "#" ++ s.path) =
        (if n.presents x.first && n.presents x.second then 1 else 0) ∧
      Diagnostic.countAt m.diagnostics x.neither (source ++ "#" ++ s.path) =
        if !n.presents x.first && !n.presents x.second then 1 else 0
  lists : ∀ i n, root.follow (Slot.namedInstance i).trail = some n → n.shape = .mapping →
    Diagnostic.countAt m.diagnostics .namedInstanceBothAssignmentsAndElements
        (source ++ "#" ++ (Slot.namedInstance i).path) =
      if !(n.listed "assignments").isEmpty && !(n.listed "elements").isEmpty then 1 else 0
  only : ∀ d ∈ m.diagnostics, d.code.isExclusive = true →
    ∃ (s : Slot) (n : Node), root.follow s.trail = some n ∧ n.shape = .mapping ∧
      d.code ∈ s.exclusiveCodes ∧ d.location = source ++ "#" ++ s.path

/-- The diagnostics for an exclusive field or list are those on the entities one after the other. -/
theorem areOn_ownNotes {ds : List Diagnostic} {stamp : Stamp} {d : Declared.Model} {c : Code}
    (h : Diagnostic.AreOn ds (build stamp d).notes c) (hc : c.isExclusive = true) :
    Diagnostic.AreOn ds (d.entities.flatMap fun e => e.2.ownNotes) c := by
  have hrepeated : ∀ parameter className origin,
      decide (Note.code ⟨.duplicateParameter parameter className, origin⟩ = c) = false := by
    intro parameter className origin
    rw [decide_eq_false_iff_not]
    rintro rfl
    cases hc
  have hbuilt := filter_notes_build stamp (p := fun n => n.code = c) hrepeated d
  have hcodeGen : (buildCodeGen stamp d.codeGen).notes.filter (fun n => n.code = c) = [] := by
    rw [List.filter_eq_nil_iff]
    intro n hn hcode
    obtain rfl := of_decide_eq_true hcode
    exact Code.not_isNameForm_of_isExclusive hc (isNameForm_of_mem_buildCodeGen hn)
  -- The block for generated code and repeated names are noted under other codes.
  rw [List.filter_append, hcodeGen, List.nil_append] at hbuilt
  have hnotes : ∀ notes : List Note, (notes.map Note.diagnostic).filter (·.code = c) =
      (notes.filter fun n => n.code = c).map Note.diagnostic := fun notes => List.filter_map
  rw [Diagnostic.AreOn, h, hnotes, hnotes, hbuilt]

/-- A document that is not read has nothing in any slot. -/
theorem follow_slot_of_readDocument {r : Declared.Reading} {root : Node} {cause : Note}
    (h : r.readDocument root = .error cause) (s : Slot) : root.follow s.trail = none := by
  have hkeys := (r.cause_of_readDocument h).2.2
  cases s <;> simp [Slot.trail, Slot.keys, Trail.ofKeys, Node.follow, hkeys]

section

variable (options : Options) (source : String) (root : Node)

variable {options source root} in
theorem areOn_ofNode {declared : Report Declared.Model}
    (h : (options.reading source).readDocument root = .ok declared) {c : Code}
    (hc : c.isExclusive = true) :
    Diagnostic.AreOn (ofNode options source root).diagnostics
      (declared.value.entities.flatMap fun e => e.2.ownNotes) c := by
  have hphase := Code.phase_of_isExclusive hc
  have hnotes := areOn_notesOf options (Declared.Reading.notesIn_readDocument _ h) (c := c)
    (by rw [hphase]; decide)
  rw [hphase] at hnotes
  rw [ofNode_of_ok h]
  exact areOn_ownNotes hnotes hc

/-- A diagnostic for an exclusive field or list is on an entity in its slot. -/
theorem exists_note_of_isExclusive {d : Diagnostic}
    (hd : d ∈ (ofNode options source root).diagnostics) (hcode : d.code.isExclusive = true) :
    ∃ (s : Slot) (n : Node), root.follow s.trail = some n ∧
      ∃ note ∈ ((options.reading source).readSlot s n).ownNotes, d = note.diagnostic := by
  cases hread : (options.reading source).readDocument root with
  | error cause =>
    rw [ofNode_of_error hread] at hd
    have hphase := phase_of_mem_refused (Declared.Reading.phase_of_readDocument _ hread) hd
    rw [Code.phase_of_isExclusive hcode] at hphase
    cases hphase
  | ok declared =>
    obtain ⟨note, hnote, hsame⟩ := (areOn_ofNode hread hcode).exists_note hd rfl
    obtain ⟨entries, -, rfl⟩ := Declared.Reading.eq_readRoot_of_readDocument _ hread
    obtain ⟨⟨s, e⟩, he, hown⟩ := List.mem_flatMap.mp hnote
    obtain ⟨n, hn, rfl⟩ := (options.reading source).mem_entities_readRoot.mp he
    exact ⟨s, n, hn, note, hown, hsame⟩

/-- To count the diagnostics for an exclusive field or list in a slot it is enough to look at what
was noted on the entity there. -/
theorem countAt_slot {s : Slot} {n : Node} (hn : root.follow s.trail = some n) {c : Code}
    (hc : c.isExclusive = true) :
    Diagnostic.countAt (ofNode options source root).diagnostics c (source ++ "#" ++ s.path) =
      ((options.reading source).readSlot s n).ruleNotes.countP fun note => note.code = c := by
  cases hread : (options.reading source).readDocument root with
  | error cause =>
    rw [follow_slot_of_readDocument hread s] at hn
    cases hn
  | ok declared =>
    have hnotes := areOn_ofNode hread hc
    obtain ⟨entries, -, rfl⟩ := Declared.Reading.eq_readRoot_of_readDocument _ hread
    have hentity : (s, (options.reading source).readSlot s n) ∈
        ((options.reading source).readRoot root entries).value.entities :=
      (options.reading source).mem_entities_readRoot.mpr ⟨n, hn, rfl⟩
    have hplace : _ = source ++ "#" ++ s.path :=
      (options.reading source).location_of_mem_entities hentity
    have horigin : ∀ e ∈ ((options.reading source).readRoot root entries).value.entities,
        ∀ note ∈ e.2.ownNotes, note.code = c → note.origin = e.2.provenance.origin := by
      rintro e - note hnote rfl
      exact (Declared.Entity.origin_of_mem_ownNotes hnote hc).2
    rw [hnotes.countAt_eq, ← hplace, ← Declared.Entity.countP_ownNotes _ hc]
    have hcount := Diagnostic.countAt_flatMap (options.reading source).nodup_locations horigin
      hentity
    exact hcount

/-- Whatever the document is, its exclusive fields and lists are reported exactly. -/
theorem ofNode_reportsExclusions : (ofNode options source root).ReportsExclusions source root where
  fields s x n hs hn hshape := by
    obtain ⟨hboth, hneither, hne⟩ := Slot.isExclusive_of_exclusion hs
    obtain ⟨entries, position, rfl⟩ : ∃ entries position, n = .mapping entries position := by
      cases n <;> simp_all [Node.shape]
    obtain ⟨both, neither, hcode, hcode', hnotes⟩ :=
      (options.reading source).ruleNotes_readSlot (n := .mapping entries position) rfl hs
    rw [countAt_slot options source root hn hboth, countAt_slot options source root hn hneither,
      hnotes]
    exact Exclusion.countP_notes hne hcode hcode' _ _ _
  lists i n hn _ := by
    rw [countAt_slot options source root hn rfl]
    exact (options.reading source).countP_bothLists_readSlot n i
  only d hd hcode := by
    obtain ⟨s, n, hn, note, hnote, rfl⟩ := exists_note_of_isExclusive options source root hd hcode
    obtain ⟨hrule, horigin⟩ := Declared.Entity.origin_of_mem_ownNotes hnote hcode
    refine ⟨s, n, hn, ?_, ?_, ?_⟩
    · cases n with
      | mapping => rfl
      | _ =>
        rw [Declared.Reading.ruleNotes_readSlot_of_entries_eq_none _ rfl] at hrule
        exact absurd hrule List.not_mem_nil
    · exact (options.reading source).mem_exclusiveCodes
        (Declared.Entity.code_origin_of_mem_ruleNotes hrule).1 hcode
    · rw [Declared.Entity.provenance_readSlot] at horigin
      exact congrArg Origin.location horigin

end

end Model

end DependencyWiring
