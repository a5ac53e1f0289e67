import DependencyWiring.Model.Builder
import DependencyWiring.Proofs.QualifiedNames
import DependencyWiring.Proofs.SoundDeclarations

/-!
# Building without errors

The fields of a sound declaration are not noted again when the model is built. What can still be
noted are the rules inside a declaration: of two fields that exclude each other exactly one is
given, an instance has one list of entries, only an array has elements, and the parameters of a
class have different names. Building notes no error exactly when the declarations keep these rules.
-/
namespace DependencyWiring

open Report

namespace Declared

/-! ## Rules inside a declaration -/

/-- One of two fields is given, and not both. -/
def ExactlyOne {α β : Type} (a : Option α) (b : Option β) : Prop :=
  a.isSome ≠ b.isSome

theorem exactlyOne_iff {α β : Type} {a : Option α} {b : Option β} :
    ExactlyOne a b ↔ (∃ x, a = some x ∧ b = none) ∨ ∃ y, a = none ∧ b = some y := by
  cases a <;> cases b <;> simp [ExactlyOne]

/-- Each parameter has one type, and no two have one name. -/
structure Class.IsConsistent (d : Class) : Prop where
  types : ∀ p ∈ d.parameters.getD [], ExactlyOne p.classRef p.interfaceRef
  names : ((d.parameters.getD []).map fun p => p.name.value).Nodup

/-- Each entry is wired to one thing, there is one list of entries at most, and only an array has
elements. -/
structure NamedInstance.IsConsistent (d : NamedInstance) : Prop where
  assignments : ∀ a ∈ d.assignments.getD [], ExactlyOne a.value a.instanceRef
  elements : ∀ e ∈ d.elements.getD [], ExactlyOne e.value e.instanceRef
  oneList : d.assignments.getD [] = [] ∨ d.elements.getD [] = []
  array : d.elements.getD [] ≠ [] → d.classRef.resolved.isArray = true

structure Model.IsConsistent (d : Model) : Prop where
  classes : ∀ ns ∈ d.namespaces, ∀ c ∈ ns.classes, c.IsConsistent
  namedInstances : ∀ i ∈ d.namedInstances, i.IsConsistent

end Declared

namespace Model

variable (stamp : Stamp)

/-- A field that fits is not noted again. -/
theorem recheck_eq_of_fits {f : Declared.Field} {form : NameForm} (h : f.Fits form) :
    recheck f form = pure true := by
  have hform := h.hasForm
  cases form <;> simp_all [recheck, h.isValid, Declared.Reading.hasForm]

/-! ## Types -/

theorem isClean_parameterType {d : Declared.Parameter} (hd : d.IsSound) :
    (parameterType d).IsClean ↔ Declared.ExactlyOne d.classRef d.interfaceRef := by
  unfold parameterType
  cases hc : d.classRef <;> cases hi : d.interfaceRef <;>
    simp [Declared.ExactlyOne, hd.authored]

theorem isClean_buildParameter {d : Declared.Parameter} (hd : d.IsSound) :
    (buildParameter stamp d).IsClean ↔ Declared.ExactlyOne d.classRef d.interfaceRef := by
  simp only [buildParameter, recheck_eq_of_fits hd.name, isClean_bind, isClean_pure, true_and,
    and_true, isClean_parameterType hd]

theorem isClean_buildParameters {className : String} {seen : List String}
    {ds : List Declared.Parameter} (hds : ∀ d ∈ ds, d.IsSound) :
    (buildParameters stamp className seen ds).IsClean ↔
      (∀ d ∈ ds, Declared.ExactlyOne d.classRef d.interfaceRef) ∧
      (ds.map fun d => d.name.value).Nodup ∧ ∀ d ∈ ds, d.name.value ∉ seen := by
  induction ds generalizing seen with
  | nil => simp [buildParameters]
  | cons d ds ih =>
    have hd := hds d (by simp)
    have hcounted : (!d.placeholder && !Placeholder.isPlaceholder d.name.value) = true := by
      simp [hd.authored, Placeholder.isPlaceholder_of_isSimple hd.name.hasForm]
    have hrest := @ih (d.name.value :: seen) fun e he => hds e (by simp [he])
    have hnote : (seen.contains d.name.value = true →
        (Finding.duplicateParameter d.name.value className).isError = false) ↔
        d.name.value ∉ seen := by simp
    simp only [buildParameters, hcounted, Bool.true_and, if_true, isClean_bind, isClean_noteIf,
      isClean_pure, and_true, isClean_buildParameter stamp hd, hrest, hnote, List.map_cons,
      List.nodup_cons, List.forall_mem_cons]
    simp only [List.mem_cons, not_or, List.mem_map, not_exists, not_and]
    constructor
    · rintro ⟨hseen, hone, hones, hnodup, hnew⟩
      exact ⟨⟨hone, hones⟩, ⟨fun e he => (hnew e he).1, hnodup⟩, hseen, fun e he => (hnew e he).2⟩
    · rintro ⟨⟨hone, hones⟩, ⟨hfresh, hnodup⟩, hseen, hnew⟩
      exact ⟨hseen, hone, hones, hnodup, fun e he => ⟨hfresh e he, hnew e he⟩⟩

theorem isClean_buildClass {namespaceName : String} {d : Declared.Class} (hd : d.IsSound) :
    (buildClass stamp namespaceName d).IsClean ↔ d.IsConsistent := by
  have hnaming : ∀ condition origin,
      (noteIf condition (.classNaming d.name.value) origin).IsClean :=
    fun condition origin => by simp
  simp only [buildClass, recheck_eq_of_fits hd.name, isClean_bind, isClean_pure, true_and,
    and_true, hnaming, isClean_buildParameters stamp hd.parameters]
  constructor
  · rintro ⟨htypes, hnames, -⟩
    exact ⟨htypes, hnames⟩
  · rintro ⟨htypes, hnames⟩
    exact ⟨htypes, hnames, by simp⟩

theorem isClean_buildInterface {namespaceName : String} {d : Declared.Interface}
    (hd : d.IsSound) : (buildInterface stamp namespaceName d).IsClean := by
  simp [buildInterface, recheck_eq_of_fits hd.name]

theorem isClean_buildNamespace {d : Declared.Namespace} (hd : d.IsSound) :
    (buildNamespace stamp d).IsClean ↔ ∀ c ∈ d.classes, c.IsConsistent := by
  have hempty : ∀ condition origin,
      (noteIf condition (.emptyNamespace d.name.value) origin).IsClean :=
    fun condition origin => by simp
  have hinterfaces : ∀ i ∈ d.interfaces, (buildInterface stamp d.name.value i).IsClean :=
    fun i hi => isClean_buildInterface stamp (hd.interfaces i hi)
  simp only [buildNamespace, recheck_eq_of_fits hd.name, isClean_bind, isClean_pure, true_and,
    and_true, hempty, isClean_forEach]
  constructor
  · rintro ⟨-, hclasses⟩ c hc
    exact (isClean_buildClass stamp (hd.classes c hc)).mp (hclasses c hc)
  · intro hclasses
    exact ⟨hinterfaces, fun c hc =>
      (isClean_buildClass stamp (hd.classes c hc)).mpr (hclasses c hc)⟩

/-! ## Instances -/

theorem isClean_buildWiring {value instanceRef : Option Declared.Field} {provenance : Provenance}
    {site : WiringSite} : (buildWiring value instanceRef false provenance site).IsClean ↔
      Declared.ExactlyOne value instanceRef := by
  cases site <;> cases value <;> cases instanceRef <;> simp [buildWiring, Declared.ExactlyOne]

theorem isClean_buildAssignment {d : Declared.Assignment} (hd : d.IsSound) :
    (buildAssignment stamp d).IsClean ↔ Declared.ExactlyOne d.value d.instanceRef := by
  simp only [buildAssignment, recheck_eq_of_fits hd.parameterName, hd.authored, isClean_bind,
    isClean_pure, true_and, and_true, isClean_buildWiring]

theorem isClean_buildElement {d : Declared.Element} (hd : d.IsSound) :
    (buildElement stamp d).IsClean ↔ Declared.ExactlyOne d.value d.instanceRef := by
  simp only [buildElement, hd.authored, isClean_bind, isClean_pure, and_true,
    isClean_buildWiring]

theorem isClean_buildNamedInstance {d : Declared.NamedInstance} (hd : d.IsSound) :
    (buildNamedInstance stamp d).IsClean ↔ d.IsConsistent := by
  have hassignments : (∀ a ∈ d.assignments.getD [], (buildAssignment stamp a).IsClean) ↔
      ∀ a ∈ d.assignments.getD [], Declared.ExactlyOne a.value a.instanceRef :=
    forall₂_congr fun a ha => isClean_buildAssignment stamp (hd.assignments a ha)
  have helements : (∀ e ∈ d.elements.getD [], (buildElement stamp e).IsClean) ↔
      ∀ e ∈ d.elements.getD [], Declared.ExactlyOne e.value e.instanceRef :=
    forall₂_congr fun e he => isClean_buildElement stamp (hd.elements e he)
  simp only [buildNamedInstance, recheck_eq_of_fits hd.name, isClean_bind, isClean_pure, true_and,
    and_true, isClean_noteIf, isClean_forEach, hassignments, helements, hd.classRef.isUsable]
  constructor
  · rintro ⟨hboth, harray, hassignments, helements⟩
    have hone : d.assignments.getD [] = [] ∨ d.elements.getD [] = [] := by
      by_cases ha : d.assignments.getD [] = []
      · exact .inl ha
      · exact .inr (by simpa [ha] using hboth)
    refine ⟨hassignments, helements, hone, fun hne => ?_⟩
    have hnone := hone.resolve_right hne
    simpa [hnone, hne] using harray
  · rintro ⟨hassignments, helements, hone, harray⟩
    refine ⟨?_, ?_, hassignments, helements⟩
    · rcases hone with hnone | hnone <;> simp [hnone]
    · by_cases hne : d.elements.getD [] = []
      · simp [hne]
      · simp [harray hne]

theorem isClean_buildCodeGen {d : Declared.CodeGen} (hd : d.IsSound) :
    (buildCodeGen stamp d).IsClean := by
  simp [buildCodeGen, recheck_eq_of_fits hd.registryClassName, recheck_eq_of_fits hd.namespaceName,
    recheck_eq_of_fits hd.initializerName]

/-- Sound declarations are built without an error exactly when each keeps its rules. -/
theorem isClean_build {d : Declared.Model} (hd : d.IsSound) :
    (build stamp d).IsClean ↔ d.IsConsistent := by
  simp only [build, isClean_bind, isClean_pure, and_true, isClean_forEach,
    isClean_buildCodeGen stamp hd.codeGen, true_and]
  constructor
  · rintro ⟨hnamespaces, hinstances⟩
    exact ⟨fun ns hns => (isClean_buildNamespace stamp (hd.namespaces ns hns)).mp
        (hnamespaces ns hns), fun i hi =>
      (isClean_buildNamedInstance stamp (hd.namedInstances i hi)).mp (hinstances i hi)⟩
  · rintro ⟨hnamespaces, hinstances⟩
    exact ⟨fun ns hns => (isClean_buildNamespace stamp (hd.namespaces ns hns)).mpr
        (hnamespaces ns hns), fun i hi =>
      (isClean_buildNamedInstance stamp (hd.namedInstances i hi)).mpr (hinstances i hi)⟩

end Model

end DependencyWiring
