import DependencyWiring.Proofs.LocatedDiagnostics
import DependencyWiring.Proofs.NotedNames
import DependencyWiring.Proofs.UsableInvokerKeys

/-!
# Names judged once

The form of a name is looked at when the name is read and once more when the model is built. The
second look at a name that was read agrees with the first: a name that was refused is not looked
at, and one that was accepted is accepted again. So building notes no name, and whatever a document
is, no two diagnostics at one place are about the form of a name.
-/
namespace DependencyWiring

open Report

/-! ## Names that are checked again -/

namespace Declared

/-- The names of the block for generated code. -/
def CodeGen.checkedNames (d : CodeGen) : List (Field × NameForm) :=
  [(d.registryClassName, .simple), (d.namespaceName, .simpleOrQualified),
    (d.initializerName, .simple)]

/-- All names that are looked at when a model is built, each with the form it must have. -/
def Model.checkedNames (d : Model) : List (Field × NameForm) :=
  d.codeGen.checkedNames ++ d.entities.filterMap fun e => e.2.name?

theorem Entity.filter_ownNotes (e : Entity) :
    (e.ownNotes.filter fun n => n.code.isNameForm) = e.nameNotes := by
  have hname : (e.nameNotes.filter fun n => n.code.isNameForm) = e.nameNotes :=
    List.filter_eq_self.mpr fun n hn => isNameForm_of_mem_nameNotes hn
  have hcodes : ∀ c ∈ e.ruleCodes, c.isNameForm = false := by
    cases e <;> simp [ruleCodes, Code.isNameForm]
  have hrule : (e.ruleNotes.filter fun n => n.code.isNameForm) = [] := by
    rw [List.filter_eq_nil_iff]
    intro n hn
    simp [hcodes n.code (code_origin_of_mem_ruleNotes hn).1, -Finding.code]
  rw [ownNotes, List.filter_append, hname, hrule, List.append_nil]

end Declared

/-- Whatever was declared, the notes on names that building makes are those on the checked names. -/
theorem Model.filter_isNameForm_build (stamp : Stamp) (d : Declared.Model) :
    ((build stamp d).notes.filter fun n => n.code.isNameForm) =
      d.checkedNames.flatMap fun f => (recheck f.1 f.2).notes := by
  have hcodeGen : ((buildCodeGen stamp d.codeGen).notes.filter fun n => n.code.isNameForm) =
      d.codeGen.checkedNames.flatMap fun f => (recheck f.1 f.2).notes := by
    rw [List.filter_eq_self.mpr fun n hn => isNameForm_of_mem_buildCodeGen hn]
    simp [buildCodeGen, Declared.CodeGen.checkedNames]
  rw [filter_notes_build stamp (fun _ _ _ => rfl), List.filter_append, hcodeGen,
    List.filter_flatMap, Declared.Model.checkedNames, List.flatMap_append,
    List.filterMap_eq_flatMap_toList, List.flatMap_assoc]
  simp only [Declared.Entity.filter_ownNotes, Declared.Entity.nameNotes]

/-! ## Names that were read -/

namespace Declared

/-- A field that was accepted as a name has the form of one. -/
def Field.IsSettled (f : Field) (form : NameForm) : Prop :=
  f.isValid = true → Reading.hasForm form f.value = true

theorem Field.IsSettled.recheck_eq {f : Field} {form : NameForm} (h : f.IsSettled form) :
    DependencyWiring.Model.recheck f form = pure f.isValid := by
  cases hvalid : f.isValid with
  | false => simp [DependencyWiring.Model.recheck, hvalid]
  | true => exact DependencyWiring.Model.recheck_eq_of_fits ⟨hvalid, h hvalid⟩

namespace Reading

variable (r : Reading)

theorem isSettled_absent (node : Node) (path value : String) (form : NameForm) :
    (r.absent node path value).IsSettled form := by
  intro hvalid
  exact absurd hvalid (by simp [absent, Field.isValid])

theorem isSettled_required (parent : Node) (path key : String) (kind : Declaration)
    (form : NameForm) : (r.required parent path key kind (some form)).value.IsSettled form := by
  intro hvalid
  rcases r.required_cases parent path key kind (some form) with ⟨hinvalid, -⟩ | ⟨text, origin, he⟩
  · rw [hinvalid] at hvalid
    cases hvalid
  · rw [he] at hvalid ⊢
    exact hasForm_of_authored text origin key (some form) hvalid form rfl

theorem isSettled_absentCodeGen (node : Node) (path : String) :
    ∀ f ∈ (r.absentCodeGen node path).checkedNames, f.1.IsSettled f.2 := by
  simp only [CodeGen.checkedNames, List.forall_mem_cons]
  exact ⟨r.isSettled_absent _ _ _ _, r.isSettled_absent _ _ _ _, r.isSettled_absent _ _ _ _,
    List.forall_mem_nil _⟩

theorem isSettled_readCodeGen (root : Node) :
    ∀ f ∈ (r.readCodeGen root).value.checkedNames, f.1.IsSettled f.2 := by
  unfold readCodeGen
  dsimp only
  cases root.get? "codeGen" with
  | none => exact r.isSettled_absentCodeGen root _
  | some node =>
    dsimp only
    cases node.entries? with
    | none => exact r.isSettled_absentCodeGen node _
    | some entries =>
      simp only [CodeGen.checkedNames, List.forall_mem_cons]
      exact ⟨r.isSettled_required node _ _ _ _, r.isSettled_required node _ _ _ _,
        r.isSettled_required node _ _ _ _, List.forall_mem_nil _⟩

/-- What is no mapping has no name, and what is one has the name that was read. -/
theorem isSettled_readSlot (s : Slot) (n : Node) :
    ∀ f ∈ (r.readSlot s n).name?, f.1.IsSettled f.2 := by
  intro f hf
  cases he : n.entries? with
  | none =>
    cases s with
    | element => simp [readSlot, Entity.name?] at hf
    | _ =>
      simp only [readSlot, Entity.name?, readNamespace, readInterface, readClass, readParameter,
        readNamedInstance, readAssignment, he] at hf
      obtain rfl := Option.mem_some_iff.mp hf
      exact r.isSettled_absent n _ _ _
  | some entries =>
    cases s with
    | element => simp [readSlot, Entity.name?] at hf
    | _ =>
      simp only [readSlot, Entity.name?, readNamespace, readInterface, readClass, readParameter,
        readNamedInstance, readAssignment, he] at hf
      obtain rfl := Option.mem_some_iff.mp hf
      exact r.isSettled_required n _ _ _ _

/-- Every name that is checked again was settled when it was read. -/
theorem isSettled_of_readDocument {root : Node} {declared : Report Model}
    (h : r.readDocument root = .ok declared) :
    ∀ f ∈ declared.value.checkedNames, f.1.IsSettled f.2 := by
  obtain ⟨entries, -, rfl⟩ := r.eq_readRoot_of_readDocument h
  rw [Model.checkedNames, List.forall_mem_append]
  refine ⟨r.isSettled_readCodeGen root, ?_⟩
  intro f hf
  obtain ⟨⟨s, e⟩, he, hname⟩ := List.mem_filterMap.mp hf
  obtain ⟨n, -, rfl⟩ := r.mem_entities_readRoot.mp he
  exact r.isSettled_readSlot s n f hname

end Reading

end Declared

/-! ## Diagnostics on names -/

/-- Only reading and building look at the form of a name. -/
theorem Finding.phase_of_isNameForm {f : Finding} (h : f.code.isNameForm = true) :
    f.phase = .reading ∨ f.phase = .building := by
  cases f <;> simp_all [Code.isNameForm]

/-- At a location the diagnostics of both codes are counted together. -/
theorem Diagnostic.countAt_names (ds : List Diagnostic) (location : String) :
    countAt ds .invalidIdentifier location + countAt ds .invalidQualifiedName location =
      ((ds.filter fun d => d.code.isNameForm).map Diagnostic.location).count location := by
  induction ds with
  | nil => rfl
  | cons d ds ih =>
    simp only [countAt, reportsAt, List.filter_cons] at ih ⊢
    by_cases hlocation : d.location = location <;> cases hcode : d.code <;>
      simp_all [Code.isNameForm]
    all_goals omega

namespace Model

section

variable {options : Options} {source : String} {root : Node} {declared : Report Declared.Model}
  (h : (options.reading source).readDocument root = .ok declared)

include h

/-- Building notes no name of a document. -/
theorem filter_isNameForm_build_of_readDocument (stamp : Stamp) :
    ((build stamp declared.value).notes.filter fun n => n.code.isNameForm) = [] := by
  rw [filter_isNameForm_build, List.flatMap_eq_nil_iff]
  intro f hf
  rw [(Declared.Reading.isSettled_of_readDocument _ h f hf).recheck_eq]
  rfl

/-- The diagnostics on names are those on the notes that were made while the document was read. -/
theorem filter_isNameForm_diagnostics :
    ((ofNode options source root).diagnostics.filter fun d => d.code.isNameForm) =
      (declared.notes.filter fun n => n.code.isNameForm).map Note.diagnostic := by
  have hlater : ∀ p, p ≠ .reading →
      ((notesOf (options.stamp .transform) declared p).filter fun n => n.code.isNameForm) = [] := by
    intro p hp
    by_cases hbuilding : p = .building
    · subst hbuilding
      exact filter_isNameForm_build_of_readDocument h _
    · rw [List.filter_eq_nil_iff]
      intro n hn hform
      have hphase := allIn_notesOf (options.stamp .transform)
        (Declared.Reading.notesIn_readDocument _ h) p n hn
      rcases Finding.phase_of_isNameForm hform with hreading | hbuilt
      · exact hp (hphase.symm.trans hreading)
      · exact hbuilding (hphase.symm.trans hbuilt)
  have hreading : ((Phase.all.flatMap (notesOf (options.stamp .transform) declared)).filter
      fun n => n.code.isNameForm) = declared.notes.filter fun n => n.code.isNameForm := by
    rw [List.filter_flatMap, Phase.all, List.flatMap_cons, List.flatMap_eq_nil_iff.mpr,
      List.append_nil]
    · rfl
    · intro p hp
      apply hlater
      rintro rfl
      exact absurd hp (by decide)
  rw [ofNode_of_ok h, diagnostics_ofDeclared, List.filter_map, ← hreading]
  rfl

/-- No two diagnostics on names are at one location, since no two names of a document are. -/
theorem nodup_locations_names :
    (((ofNode options source root).diagnostics.filter fun d => d.code.isNameForm).map
      Diagnostic.location).Nodup := by
  have hpaths : ((declared.notes.filter fun n => n.code.isNameForm).map
      fun n => n.origin.path).Nodup := by
    obtain ⟨entries, -, rfl⟩ := Declared.Reading.eq_readRoot_of_readDocument _ h
    exact (Declared.Model.nodup_namePaths _).sublist (Declared.Reading.namesAmong_readRoot _ _ _)
  have hsource : ∀ n ∈ declared.notes, n.origin.location = source ++ "#" ++ n.origin.path := by
    intro n hn
    obtain ⟨trail, position, -, horigin⟩ := pointsInto_of_readDocument options source h n
      (List.mem_append_left _ (List.mem_append_left _ hn))
    rw [horigin]
    rfl
  have hlocations : (((declared.notes.filter fun n => n.code.isNameForm).map
      fun n => n.origin.path).map fun path => source ++ "#" ++ path).Nodup :=
    hpaths.map fun _ _ hsame => String.append_right_inj (source ++ "#") |>.mp hsame
  rw [filter_isNameForm_diagnostics h, List.map_map]
  rw [List.map_map] at hlocations
  convert hlocations using 1
  exact List.map_congr_left fun n hn => hsource n (List.mem_of_mem_filter hn)

/-- Building finds no fault with the name of a document, it takes each name exactly if it was taken
when it was read, and no two diagnostics at a place are about the form of a name. -/
theorem readDocument_judgesNames :
    (∀ stamp, ∀ n ∈ (build stamp declared.value).notes,
      n.code ≠ .invalidIdentifier ∧ n.code ≠ .invalidQualifiedName) ∧
    (∀ name ∈ declared.value.checkedNames,
      (recheck name.1 name.2).value = true ↔ name.1.status = .valid) ∧
    ∀ location,
      Diagnostic.countAt (ofNode options source root).diagnostics .invalidIdentifier location +
        Diagnostic.countAt (ofNode options source root).diagnostics .invalidQualifiedName
          location ≤ 1 := by
  refine ⟨fun stamp n hn => ?_, fun name hname => ?_, fun location => ?_⟩
  · have hform : n.code.isNameForm = false := by
      have hnone := filter_isNameForm_build_of_readDocument h stamp
      rw [List.filter_eq_nil_iff] at hnone
      exact Bool.eq_false_iff.mpr (hnone n hn)
    constructor <;> intro hcode <;> rw [hcode] at hform <;> cases hform
  · rw [(Declared.Reading.isSettled_of_readDocument _ h name hname).recheck_eq, value_pure,
      Declared.Field.isValid, decide_eq_true_iff]
  · rw [Diagnostic.countAt_names]
    exact List.nodup_iff_count_le_one.mp (nodup_locations_names h) location

end

/-- The malformed names of a namespace and of its class are refused twice and reported once each. -/
theorem malformedTypes_judged :
    ∃ declared, (Sample.options.reading "types").readDocument Sample.malformedTypes = .ok declared ∧
      (declared.value.checkedNames.map fun name => (recheck name.1 name.2).value) =
        [true, true, true, false, false] ∧
      (∀ stamp, ∀ n ∈ (build stamp declared.value).notes,
        n.code ≠ .invalidIdentifier ∧ n.code ≠ .invalidQualifiedName) ∧
      (∀ name ∈ declared.value.checkedNames,
        (recheck name.1 name.2).value = true ↔ name.1.status = .valid) ∧
      ((ofNode Sample.options "types" Sample.malformedTypes).diagnostics.filter
        fun d => d.code.isNameForm).map Diagnostic.location =
          ["types#namespaces[0].namespaceName", "types#namespaces[0].classes[0].className"] ∧
      ∀ location,
        Diagnostic.countAt (ofNode Sample.options "types" Sample.malformedTypes).diagnostics
            .invalidIdentifier location +
          Diagnostic.countAt (ofNode Sample.options "types" Sample.malformedTypes).diagnostics
            .invalidQualifiedName location ≤ 1 := by
  have hread : (Sample.options.reading "types").readDocument Sample.malformedTypes =
      .ok ((Sample.options.reading "types").readRoot Sample.malformedTypes
        (Sample.malformedTypes.entries?.getD [])) := rfl
  obtain ⟨hbuilt, hagree, honce⟩ := readDocument_judgesNames hread
  exact ⟨_, hread, by decide +kernel, hbuilt, hagree, by decide +kernel, honce⟩

end Model

end DependencyWiring
