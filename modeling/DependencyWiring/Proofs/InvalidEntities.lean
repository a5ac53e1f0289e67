import DependencyWiring.Proofs.DeclaredParts
import DependencyWiring.Proofs.UniqueNames

/-!
# Invalid entities

Parameters, instances and their entries are marked as invalid when something about them was refused.
Some of it is refused when they are read and passed over in silence when they are built. Nothing is
passed over in both: a declaration that is read without an error is sound, and a sound declaration
that gives an invalid entity is noted when it is built. So the place of every invalid entity has an
error, at itself or below.
-/
namespace DependencyWiring

open Report

/-! ## What is noted of an invalid entity -/

namespace Model

variable (stamp : Stamp)

/-- Some error is at the place. -/
def IsRefusedAt (notes : List Note) (o : Origin) : Prop :=
  ∃ n ∈ notes, n.isError = true ∧ n.origin = o

/-- A sound parameter is invalid for want of exactly one type. -/
theorem isRefusedAt_of_buildParameter {d : Declared.Parameter} (hd : d.IsSound)
    (h : (buildParameter stamp d).value.isValid = false) :
    IsRefusedAt (buildParameter stamp d).notes d.provenance.origin := by
  simp only [IsRefusedAt, buildParameter, recheck_eq_of_fits hd.name, parameterType, value_bind,
    value_pure, hd.authored] at h ⊢
  cases hc : d.classRef with
  | none =>
    cases hi : d.interfaceRef with
    | none => simp [noteIf]
    | some i => simp [hc, hi, (hd.interfaceRef i hi).isUsable] at h
  | some c =>
    cases hi : d.interfaceRef with
    | none => simp [hc, hi, (hd.classRef c hc).isUsable] at h
    | some i => simp

/-- An entry that is not given one wiring is refused at its place. -/
theorem isRefusedAt_of_buildWiring {value instanceRef : Option Declared.Field}
    {provenance : Provenance} {site : WiringSite} (hvalue : ∀ f ∈ value, f.isValid = true)
    (hinstance : ∀ f ∈ instanceRef, f.isValid = true)
    (h : (buildWiring value instanceRef false provenance site).value.2 = false) :
    IsRefusedAt (buildWiring value instanceRef false provenance site).notes provenance.origin := by
  cases value with
  | none =>
    cases instanceRef with
    | none => cases site <;> simp [IsRefusedAt, buildWiring, noteIf]
    | some i => simp [buildWiring, hinstance i rfl] at h
  | some v =>
    cases instanceRef with
    | none => simp [buildWiring, hvalue v rfl] at h
    | some i => cases site <;> simp [IsRefusedAt, buildWiring]

theorem isRefusedAt_of_buildAssignment {d : Declared.Assignment} (hd : d.IsSound)
    (h : (buildAssignment stamp d).value.isValid = false) :
    IsRefusedAt (buildAssignment stamp d).notes d.provenance.origin := by
  simp only [buildAssignment, recheck_eq_of_fits hd.parameterName, value_bind, value_pure,
    hd.authored, Bool.not_false, Bool.true_and] at h
  obtain ⟨n, hn, herror⟩ := isRefusedAt_of_buildWiring hd.value
    (fun f hf => (hd.instanceRef f hf).isValid) h
  refine ⟨n, ?_, herror⟩
  simpa [buildAssignment, recheck_eq_of_fits hd.parameterName, hd.authored] using hn

theorem isRefusedAt_of_buildElement {d : Declared.Element} (hd : d.IsSound)
    (h : (buildElement stamp d).value.isValid = false) :
    IsRefusedAt (buildElement stamp d).notes d.provenance.origin := by
  simp only [buildElement, value_bind, value_pure, hd.authored, Bool.not_false,
    Bool.true_and] at h
  obtain ⟨n, hn, herror⟩ := isRefusedAt_of_buildWiring hd.value
    (fun f hf => (hd.instanceRef f hf).isValid) h
  refine ⟨n, ?_, herror⟩
  simpa [buildElement, hd.authored] using hn

/-- A sound instance is invalid for its lists of entries. -/
theorem isRefusedAt_of_buildNamedInstance {d : Declared.NamedInstance} (hd : d.IsSound)
    (h : (buildNamedInstance stamp d).value.isValid = false) :
    IsRefusedAt (buildNamedInstance stamp d).notes d.provenance.origin := by
  have hinterface : d.interfaceRef.all Declared.Reference.isUsable = true := by
    cases hi : d.interfaceRef with
    | none => rfl
    | some ref => exact (hd.interfaceRef ref hi).isUsable
  simp only [buildNamedInstance, recheck_eq_of_fits hd.name, value_bind, value_pure, hd.authored,
    hd.classRef.isUsable, hinterface, Bool.not_false, Bool.true_and, Bool.and_eq_false_iff,
    Bool.not_eq_false'] at h
  simp only [IsRefusedAt, buildNamedInstance, recheck_eq_of_fits hd.name, hd.classRef.isUsable,
    notes_bind, notes_pure, List.nil_append, List.mem_append]
  rcases h with hboth | harray
  · exact ⟨⟨.bothLists d.name.value, d.provenance.origin⟩, .inl (by simp [noteIf, hboth]), rfl, rfl⟩
  · exact ⟨⟨.elementsOfNonArray d.name.value d.classRef.resolved.token, d.provenance.origin⟩,
      .inr (.inl (by rw [harray]; exact List.mem_singleton.mpr rfl)), rfl, rfl⟩

/-! ## Notes of a part among those of the whole -/

theorem notes_buildParameter_subset {className : String} {seen : List String}
    {ds : List Declared.Parameter} {d : Declared.Parameter} (hd : d ∈ ds) :
    (buildParameter stamp d).notes ⊆ (buildParameters stamp className seen ds).notes := by
  induction ds generalizing seen with
  | nil => simp at hd
  | cons e es ih =>
    intro n hn
    simp only [buildParameters, notes_bind, List.mem_append]
    rcases List.mem_cons.mp hd with rfl | hmem
    · exact .inr (.inl hn)
    · exact .inr (.inr (.inl (ih hmem hn)))

section

variable {d : Declared.Model}

theorem notes_subset_of_mem_parameters {ns : Declared.Namespace} (hns : ns ∈ d.namespaces)
    {c : Declared.Class} (hc : c ∈ ns.classes) {p : Declared.Parameter}
    (hp : p ∈ c.parameters.getD []) : (buildParameter stamp p).notes ⊆ (build stamp d).notes := by
  intro n hn
  have hclass : n ∈ (buildClass stamp ns.name.value c).notes := by
    simp only [buildClass, notes_bind, List.mem_append]
    exact .inr (.inr (.inl (notes_buildParameter_subset stamp hp hn)))
  have hnamespace : n ∈ (buildNamespace stamp ns).notes := by
    simp only [buildNamespace, notes_bind, notes_forEach, List.mem_append]
    exact .inr (.inr (.inr (.inl (List.mem_flatMap.mpr ⟨c, hc, hclass⟩))))
  simp only [build, notes_bind, notes_forEach, List.mem_append]
  exact .inr (.inl (List.mem_flatMap.mpr ⟨ns, hns, hnamespace⟩))

variable {i : Declared.NamedInstance} (hi : i ∈ d.namedInstances)

include hi

theorem notes_subset_of_mem_namedInstances :
    (buildNamedInstance stamp i).notes ⊆ (build stamp d).notes := by
  intro n hn
  simp only [build, notes_bind, notes_forEach, List.mem_append]
  exact .inr (.inr (.inl (List.mem_flatMap.mpr ⟨i, hi, hn⟩)))

theorem notes_subset_of_mem_assignments {a : Declared.Assignment}
    (ha : a ∈ i.assignments.getD []) : (buildAssignment stamp a).notes ⊆ (build stamp d).notes := by
  intro n hn
  refine notes_subset_of_mem_namedInstances stamp hi ?_
  simp only [buildNamedInstance, notes_bind, notes_forEach, List.mem_append]
  exact .inr (.inr (.inr (.inl (List.mem_flatMap.mpr ⟨a, ha, hn⟩))))

theorem notes_subset_of_mem_elements {e : Declared.Element}
    (he : e ∈ i.elements.getD []) : (buildElement stamp e).notes ⊆ (build stamp d).notes := by
  intro n hn
  refine notes_subset_of_mem_namedInstances stamp hi ?_
  simp only [buildNamedInstance, notes_bind, notes_forEach, List.mem_append]
  exact .inr (.inr (.inr (.inr (.inl (List.mem_flatMap.mpr ⟨e, he, hn⟩)))))

end

end Model

/-! ## Entities of a model -/

namespace Model

/-- An entity of the model that may be invalid has the mark and the provenance. -/
inductive HasEntity (m : Model) : Bool → Provenance → Prop
  | parameter {c : Class} {p : Parameter} (hc : c ∈ m.classes) (hp : p ∈ c.parameters) :
      HasEntity m p.isValid p.provenance
  | namedInstance {i : NamedInstance} (hi : i ∈ m.namedInstances) :
      HasEntity m i.isValid i.provenance
  | assignment {i : NamedInstance} {items : List Assignment} {a : Assignment}
      (hi : i ∈ m.namedInstances) (hitems : i.initialization = .assignments items)
      (ha : a ∈ items) : HasEntity m a.isValid a.provenance
  | element {i : NamedInstance} {items : List Element} {e : Element}
      (hi : i ∈ m.namedInstances) (hitems : i.initialization = .elements items)
      (he : e ∈ items) : HasEntity m e.isValid e.provenance

section

variable (stamp : Stamp) {r : Declared.Reading} {root : Node} {declared : Report Declared.Model}

theorem hasEntity_of_withDiagnostics {m : Model} {diagnostics : List Diagnostic} {valid : Bool}
    {p : Provenance} (h : HasEntity { m with diagnostics := diagnostics } valid p) :
    m.HasEntity valid p := by
  cases h with
  | parameter hc hp => exact .parameter hc hp
  | namedInstance hi => exact .namedInstance hi
  | assignment hi hitems ha => exact .assignment hi hitems ha
  | element hi hitems he => exact .element hi hitems he

/-- What is refused when it is read has an error within its path, and what is not is refused at its
path when it is built. -/
theorem hasErrorWithin_of_refused {α : Type} {read : Report α} {built : List Note} {node : Node}
    {path : String} {o : Origin} (ho : o = r.origin node path)
    (hread : read.StaysWithin r.source path) (hbuilt : read.IsClean → IsRefusedAt built o)
    {before after : List Note} (hbefore : read.notes ⊆ before) (hafter : built ⊆ after) :
    Note.HasErrorWithin (before ++ after) r.source o.path := by
  subst ho
  refine hread.hasErrorWithin hbefore fun hclean => ?_
  obtain ⟨n, hn, herror, horigin⟩ := hbuilt hclean
  exact ⟨n, hafter hn, herror, horigin ▸ r.origin_isWithin node path⟩

/-- Each invalid entity of a document that can be read at all has an error within its path. -/
theorem hasErrorWithin_of_hasEntity (hread : r.readDocument root = .ok declared) {p : Provenance}
    (h : (build stamp declared.value).value.HasEntity false p) :
    Note.HasErrorWithin (declared.notes ++ (build stamp declared.value).notes) r.source
      p.origin.path := by
  generalize hvalid : false = valid at h
  cases h with
  | parameter hc hp =>
    obtain ⟨ns, hns, c, hclass, rfl⟩ := (mem_classes_build stamp).mp hc
    rw [parameters_buildClass] at hp
    obtain ⟨d, hd, rfl⟩ := List.mem_map.mp hp
    have hafter := notes_subset_of_mem_parameters stamp hns hclass hd
    obtain ⟨node, path, hpath, rfl, hbefore⟩ := r.readBy_of_mem_parameters hread hns hclass hd
    have hplace := Stamp.origin_extend stamp (r.readParameter node path).value.provenance
    exact hplace ▸ hasErrorWithin_of_refused (r.origin_readParameter node path)
      (r.staysWithin_readParameter hpath node)
      (fun hclean => isRefusedAt_of_buildParameter stamp (r.readParameter_sound hclean)
        hvalid.symm) hbefore hafter
  | namedInstance hi =>
    rw [namedInstances_build] at hi
    obtain ⟨d, hd, rfl⟩ := List.mem_map.mp hi
    have hafter := notes_subset_of_mem_namedInstances stamp hd
    obtain ⟨node, path, hpath, rfl, hbefore⟩ := (r.readBy_of_readDocument hread).2 d hd
    have hplace := Stamp.origin_extend stamp (r.readNamedInstance node path).value.provenance
    exact hplace ▸ hasErrorWithin_of_refused (r.origin_readNamedInstance node path)
      (r.staysWithin_readNamedInstance hpath node)
      (fun hclean => isRefusedAt_of_buildNamedInstance stamp (r.readNamedInstance_sound hclean)
        hvalid.symm) hbefore hafter
  | assignment hi hitems ha =>
    rw [namedInstances_build] at hi
    obtain ⟨i, hinst, rfl⟩ := List.mem_map.mp hi
    rw [initialization_buildNamedInstance] at hitems
    rw [eq_of_initialization_assignments hitems] at ha
    obtain ⟨d, hd, rfl⟩ := List.mem_map.mp ha
    have hafter := notes_subset_of_mem_assignments stamp hinst hd
    obtain ⟨node, path, hpath, rfl, hbefore⟩ := r.readBy_of_mem_assignments hread hinst hd
    have hplace := Stamp.origin_extend stamp (r.readAssignment node path).value.provenance
    exact hplace ▸ hasErrorWithin_of_refused (r.origin_readAssignment node path)
      (r.staysWithin_readAssignment hpath node)
      (fun hclean => isRefusedAt_of_buildAssignment stamp (r.readAssignment_sound hclean)
        hvalid.symm) hbefore hafter
  | element hi hitems he =>
    rw [namedInstances_build] at hi
    obtain ⟨i, hinst, rfl⟩ := List.mem_map.mp hi
    rw [initialization_buildNamedInstance] at hitems
    rw [eq_of_initialization_elements hitems] at he
    obtain ⟨d, hd, rfl⟩ := List.mem_map.mp he
    have hafter := notes_subset_of_mem_elements stamp hinst hd
    obtain ⟨node, path, hpath, rfl, hbefore⟩ := r.readBy_of_mem_elements hread hinst hd
    have hplace := Stamp.origin_extend stamp (r.readElement node path).value.provenance
    exact hplace ▸ hasErrorWithin_of_refused (r.origin_readElement node path)
      (r.staysWithin_readElement hpath node)
      (fun hclean => isRefusedAt_of_buildElement stamp (r.readElement_sound hclean)
        hvalid.symm) hbefore hafter

end

/-- Each invalid entity has an error at its path or below it. -/
def ReportsInvalid (m : Model) (source : String) : Prop :=
  ∀ p, m.HasEntity false p →
    Diagnostic.HasErrorWithin m.diagnostics (source ++ "#" ++ p.origin.path)

theorem reportsInvalid_refused (options : Options) (source : String) (cause : Note) :
    (refused options source cause).ReportsInvalid source := by
  intro p h
  generalize false = valid at h
  cases h with
  | parameter hc _ => simp [refused, classes] at hc
  | namedInstance hi => simp [refused] at hi
  | assignment hi _ _ => simp [refused] at hi
  | element hi _ _ => simp [refused] at hi

/-- What is marked as invalid in the model of a document is reported as an error at its own path or
below it. So nothing is marked in a generatable model. -/
theorem ofNode_reportsInvalid (options : Options) (source : String) (root : Node) :
    (ofNode options source root).ReportsInvalid source ∧
      ((ofNode options source root).isGeneratable = true →
        ∀ valid p, (ofNode options source root).HasEntity valid p → valid = true) := by
  have hreports : (ofNode options source root).ReportsInvalid source := by
    rcases ofNode_cases options source root with ⟨cause, -, he⟩ | ⟨declared, hread, he⟩
    · rw [he]
      exact reportsInvalid_refused options source cause
    · rw [he]
      intro p hp
      have herror := hasErrorWithin_of_hasEntity (options.stamp .transform) hread
        (hasEntity_of_withDiagnostics hp)
      exact (herror.mono (List.subset_append_left _ _)).diagnostics
  refine ⟨hreports, fun hgeneratable valid p hp => ?_⟩
  by_contra hinvalid
  obtain rfl : valid = false := by simpa using hinvalid
  obtain ⟨d, hd, herror, -⟩ := hreports p hp
  have hnone : ∀ d ∈ (ofNode options source root).diagnostics, ¬d.isError = true := by
    simpa [isGeneratable, Diagnostic.hasErrors] using hgeneratable
  exact hnone d hd herror

end Model

/-! ## A document with an invalid entry -/

namespace Sample

/-- The model in which the second node assigns to what is no name. -/
def misnamed : Model :=
  Model.ofNode options "chain"
    (chain (mapping [("parameterName", text "1st"), ("namedInstanceName", text "First")]))

def misassigned : Assignment :=
  ⟨"1st", .instanceOf "First", false, place "namedInstances[1].assignments[0]"⟩

def misassigning : NamedInstance :=
  { second (.instanceOf "First") with initialization := .assignments [misassigned] }

theorem namedInstances_misnamed : misnamed.namedInstances = [first, misassigning] := by
  decide +kernel

end Sample

namespace Model

/-- The name of an entry is refused when it is read, and the entry has its error below its place. In
the first sample nothing is invalid. -/
theorem misnamed_reportsInvalid :
    Diagnostic.HasErrorWithin Sample.misnamed.diagnostics
      "chain#namedInstances[1].assignments[0]" ∧
    ∀ valid p, (Sample.linked "First").HasEntity valid p → valid = true := by
  constructor
  · have hinvalid : Sample.misnamed.HasEntity false Sample.misassigned.provenance :=
      .assignment (i := Sample.misassigning) (by simp [Sample.namedInstances_misnamed]) rfl
        (List.mem_singleton.mpr rfl)
    exact (ofNode_reportsInvalid Sample.options "chain" _).1 _ hinvalid
  · exact (ofNode_reportsInvalid Sample.options "chain" _).2 Sample.isGeneratable_linked

end Model

end DependencyWiring
