import DependencyWiring.Proofs.DocumentRules

/-!
# Admissible documents

The rules of a document on the order of its instances and on what they are wired to, and the
documents that keep all rules. Every check is shown to find no error exactly when its rule is kept.
So no document is refused without a rule that it breaks, and none is accepted that breaks one.
-/
namespace DependencyWiring

open Check

/-! ## The rules -/

namespace Declared

/-- The names of the instances that the entries of an instance refer to. -/
def NamedInstance.targets (i : NamedInstance) : List Field :=
  (i.assignments.getD []).filterMap Assignment.instanceRef ++
    (i.elements.getD []).filterMap Element.instanceRef

namespace Model

/-- Every reference is to an instance that is declared at an earlier position. -/
def RefersBack (d : Model) : Prop :=
  ∀ (k : Nat) (i : NamedInstance), d.namedInstances[k]? = some i → ∀ f ∈ i.targets,
    ∃ j < k, ∃ e, d.namedInstances[j]? = some e ∧ e.name.value = f.value

/-- The instance declares the interface, or leaves it to its class, which exposes it. -/
def Exposes (d : Model) (i : NamedInstance) (base : String) : Prop :=
  (∃ r ∈ i.interfaceRef, r.resolved.base = base) ∨
    (i.interfaceRef = none ∧
      ∃ c, d.DeclaresClass i.classRef.resolved.base c ∧ c.Exposes base)

/-- The first instance of a name, if there is one, exposes the interface. -/
def StandsFor (d : Model) (name base : String) : Prop :=
  ∀ i, d.namedInstances.find? (fun i => i.name.value = name) = some i → d.Exposes i base

/-- What may be assigned to an interface is an instance that exposes it. A literal that looks like a
placeholder is let through as well. -/
structure Suits (d : Model) (a : Assignment) (base : String) : Prop where
  value : ∀ f ∈ a.value, Placeholder.isPlaceholder f.value = true
  instanceRef : ∀ f ∈ a.instanceRef, d.StandsFor f.value base

/-- The assignments of an instance are to parameters of the class, each to one of its own, and they
suit the parameters that are interfaces. -/
structure AssignsTo (d : Model) (i : NamedInstance) (c : Class) : Prop where
  named : ∀ a ∈ i.assignments.getD [], ∃ p ∈ c.parameters.getD [],
    p.name.value = a.parameterName.value
  once : ((i.assignments.getD []).map fun a => a.parameterName.value).Nodup
  suited : ∀ a ∈ i.assignments.getD [], ∀ p ∈ c.parameters.getD [],
    p.name.value = a.parameterName.value → ∀ r ∈ p.interfaceRef, d.Suits a r.resolved.base

/-- The interface that the elements of an instance must expose: the one that the instance declares
as an array, or that its class type is an array of. -/
def IsArrayOf (d : Model) (i : NamedInstance) (base : String) : Prop :=
  (∃ r ∈ i.interfaceRef, r.resolved.isArray = true ∧ r.resolved.base = base) ∨
    (i.interfaceRef = none ∧ i.classRef.resolved.isArray = true ∧
      i.classRef.resolved.base = base ∧ d.DeclaresInterface base)

/-- What an instance is wired to suits the class and the interface that it is an instance of. -/
structure WiresSoundly (d : Model) (i : NamedInstance) : Prop where
  assignments : i.classRef.resolved.isPrimitive = false →
    ∀ c, d.DeclaresClass i.classRef.resolved.base c → d.AssignsTo i c
  elements : ∀ base, d.IsArrayOf i base → ∀ e ∈ i.elements.getD [], ∀ f ∈ e.instanceRef,
    d.StandsFor f.value base

/-- The declarations keep all rules. -/
structure IsAdmissible (d : Model) : Prop where
  consistent : d.IsConsistent
  names : d.HasDistinctNames
  types : d.ResolvesTypes
  order : d.RefersBack
  wirings : ∀ i ∈ d.namedInstances, d.WiresSoundly i

end Model

end Declared

/-! ## Order -/

theorem Declared.NamedInstance.forall_mem_targets {i : Declared.NamedInstance}
    {P : Declared.Field → Prop} : (∀ f ∈ i.targets, P f) ↔
      (∀ a ∈ i.assignments.getD [], ∀ f ∈ a.instanceRef, P f) ∧
        ∀ e ∈ i.elements.getD [], ∀ f ∈ e.instanceRef, P f := by
  simp only [targets, List.forall_mem_append, List.mem_filterMap]
  refine and_congr ?_ ?_
  · exact ⟨fun h a ha f hf => h f ⟨a, ha, hf⟩, fun h f ⟨a, ha, hf⟩ => h a ha f hf⟩
  · exact ⟨fun h e he f hf => h f ⟨e, he, hf⟩, fun h f ⟨e, he, hf⟩ => h e he f hf⟩

/-- The first position of something is early exactly when some position of it is. -/
theorem exists_findIdx_lt_iff {α : Type} {p : α → Bool} {as : List α} {k : Nat} :
    (∃ j < k, as.findIdx? p = some j) ↔ ∃ j < k, ∃ a, as[j]? = some a ∧ p a = true := by
  constructor
  · rintro ⟨j, hj, hfound⟩
    obtain ⟨hlt, hp, -⟩ := List.findIdx?_eq_some_iff_getElem.mp hfound
    exact ⟨j, hj, as[j], List.getElem?_eq_getElem hlt, hp⟩
  · rintro ⟨j, hj, a, ha, hp⟩
    obtain ⟨hlt, rfl⟩ := List.getElem?_eq_some_iff.mp ha
    obtain ⟨i, hi⟩ := Option.isSome_iff_exists.mp
      (List.findIdx?_isSome.trans (List.any_eq_true.mpr ⟨as[j], List.getElem_mem hlt, hp⟩))
    refine ⟨i, ?_, hi⟩
    obtain ⟨_, _, hfirst⟩ := List.findIdx?_eq_some_iff_getElem.mp hi
    by_contra hle
    exact hfirst j (by omega) hp

namespace Model

variable (stamp : Stamp)

/-- The one list of entries that an instance has gives its wirings. -/
theorem wirings_buildNamedInstance {d : Declared.NamedInstance}
    (h : d.assignments.getD [] = [] ∨ d.elements.getD [] = []) :
    (buildNamedInstance stamp d).value.wirings =
      (d.assignments.getD []).map (fun a => ((buildAssignment stamp a).value.wiring,
        (buildAssignment stamp a).value.provenance)) ++
      (d.elements.getD []).map fun e => ((buildElement stamp e).value.wiring,
        (buildElement stamp e).value.provenance) := by
  unfold NamedInstance.wirings
  rw [initialization_buildNamedInstance, initialization]
  by_cases ha : d.assignments.getD [] = []
  · by_cases he : d.elements.getD [] = []
    · simp [ha, he]
    · simp [ha, he, Function.comp_def]
  · simp [ha, h.resolve_left ha, Function.comp_def]

end Model

namespace Check

variable (stamp : Stamp) {d : Declared.Model}

/-- What holds of the instances of the model at their positions is said of the declared ones. -/
theorem Scope.forall_mem_zipIdx_iff {P : NamedInstance → Nat → Prop} :
    (∀ p ∈ (Scope.ofDeclared stamp d).model.namedInstances.zipIdx, P p.1 p.2) ↔
      ∀ (k : Nat) (i : Declared.NamedInstance), d.namedInstances[k]? = some i →
        P (Model.buildNamedInstance stamp i).value k := by
  have hget : ∀ k : Nat, (Scope.ofDeclared stamp d).model.namedInstances[k]? =
      d.namedInstances[k]?.map fun i => (Model.buildNamedInstance stamp i).value := by
    intro k
    simp [Scope.ofDeclared]
  constructor
  · intro h k i hk
    refine h ((Model.buildNamedInstance stamp i).value, k) (List.mem_zipIdx_iff_getElem?.mpr ?_)
    simp [hget, hk]
  · intro h p hp
    have hk := List.mem_zipIdx_iff_getElem?.mp hp
    rw [hget, Option.map_eq_some_iff] at hk
    obtain ⟨i, hi, hbuilt⟩ := hk
    exact hbuilt ▸ h p.2 i hi

variable (hd : d.HasMarks)

include hd

theorem exists_instancePosition_lt_iff {name : String} (hname : Name.isSimple name = true)
    {k : Nat} : (∃ j < k, (Scope.ofDeclared stamp d).index.instancePosition? name = some j) ↔
      ∃ j < k, ∃ e, d.namedInstances[j]? = some e ∧ e.name.value = name := by
  have hposition := Declared.Index.instancePosition_eq hd
    (Placeholder.isPlaceholder_of_isSimple hname)
  simp only [Scope.ofDeclared, hposition, exists_findIdx_lt_iff, decide_eq_true_eq]

/-- An entry is not noted exactly when it refers back. -/
theorem noErrors_orderNotes_buildWiring_iff {k : Nat} {inst : NamedInstance} {p : Provenance}
    {value instanceRef : Option Declared.Field} {placeholder : Bool} {provenance : Provenance}
    {site : WiringSite} (hfits : ∀ f ∈ instanceRef, f.Fits .simple) :
    Note.NoErrors (orderNotes (Scope.ofDeclared stamp d) k inst
      ((Model.buildWiring value instanceRef placeholder provenance site).value.1, p)) ↔
    ∀ f ∈ instanceRef, ∃ j < k, ∃ e, d.namedInstances[j]? = some e ∧ e.name.value = f.value := by
  rw [noErrors_orderNotes_iff]
  constructor
  · intro h f hf
    have hsimple := (hfits f hf).hasForm
    exact (exists_instancePosition_lt_iff stamp hd hsimple).mp
      (h f.value (Model.buildWiring_eq_instanceOf_iff.mpr ⟨f, hf, rfl⟩) hsimple)
  · intro h target htarget hsimple
    obtain ⟨f, hf, rfl⟩ := Model.buildWiring_eq_instanceOf_iff.mp htarget
    exact (exists_instancePosition_lt_iff stamp hd hsimple).mpr (h f hf)

theorem noErrors_orderNotes_wirings_iff {k : Nat} {i : Declared.NamedInstance}
    (hi : i.IsSound) (hc : i.IsConsistent) (inst : NamedInstance) :
    (∀ w ∈ (Model.buildNamedInstance stamp i).value.wirings,
      Note.NoErrors (orderNotes (Scope.ofDeclared stamp d) k inst w)) ↔
    ∀ f ∈ i.targets, ∃ j < k, ∃ e, d.namedInstances[j]? = some e ∧ e.name.value = f.value := by
  rw [Model.wirings_buildNamedInstance stamp hc.oneList, Declared.NamedInstance.forall_mem_targets,
    List.forall_mem_append, List.forall_mem_map, List.forall_mem_map]
  exact and_congr
    (forall₂_congr fun a ha =>
      noErrors_orderNotes_buildWiring_iff stamp hd (hi.assignments a ha).instanceRef)
    (forall₂_congr fun e he =>
      noErrors_orderNotes_buildWiring_iff stamp hd (hi.elements e he).instanceRef)

/-- The check of the order finds no error exactly when all references go back. -/
theorem noErrors_orderingNotes_iff (hsound : d.IsSound) (hc : d.IsConsistent) :
    Note.NoErrors (orderingNotes (Scope.ofDeclared stamp d)) ↔ d.RefersBack := by
  rw [orderingNotes, Note.noErrors_flatMap, Scope.forall_mem_zipIdx_iff stamp
    (P := fun inst k => Note.NoErrors (if inst.isPlaceholder then [] else
      inst.wirings.flatMap (orderNotes (Scope.ofDeclared stamp d) k inst)))]
  refine forall₃_congr fun k i hk => ?_
  have hi := List.mem_of_getElem? hk
  rw [Model.isPlaceholder_buildNamedInstance stamp (hsound.namedInstances i hi),
    ← noErrors_orderNotes_wirings_iff stamp hd (hsound.namedInstances i hi)
      (hc.namedInstances i hi),
    ← Note.noErrors_flatMap]
  rfl

end Check

/-! ## Wirings -/

namespace Check.Scope

variable (stamp : Stamp) {d : Declared.Model} (hd : d.HasMarks)
  (hnames : ((Model.build stamp d).value.classes.map Class.qualifiedName).Nodup)

include hd hnames

/-- What the index says of the interface that an instance exposes is what the declarations say. -/
theorem exposedInterface_iff {i : Declared.NamedInstance} (hi : i.IsSound) {base : String} :
    (ofDeclared stamp d).exposedInterface? (Model.buildNamedInstance stamp i).value = some base ↔
      d.Exposes i base := by
  unfold exposedInterface? Declared.Model.Exposes
  rw [Model.interfaceType_buildNamedInstance, Model.classType_buildNamedInstance]
  cases hr : i.interfaceRef with
  | some r => simp
  | none =>
    simp only [Option.map_none, Option.bind_eq_bind, Option.bind_eq_some_iff,
      class_eq_some_iff stamp hd hnames hi.classRef.bracket_not_mem]
    constructor
    · rintro ⟨c, ⟨ns, hns, e, he, hname, rfl⟩, hexposed⟩
      exact .inr ⟨by simp, e, ⟨ns, hns, he, hname⟩, Option.map_eq_some_iff.mp hexposed⟩
    · rintro (⟨r, hr, -⟩ | ⟨-, e, ⟨ns, hns, he, hname⟩, hexposed⟩)
      · exact absurd hr (by simp)
      · exact ⟨_, ⟨ns, hns, e, he, hname, rfl⟩, Option.map_eq_some_iff.mpr hexposed⟩

/-- What the index finds for a name exposes an interface when the name stands for one. -/
theorem standsFor_iff (hsound : d.IsSound) {name base : String}
    (hname : Name.isSimple name = true) :
    (∀ i, (ofDeclared stamp d).instance? name = some i →
      (ofDeclared stamp d).exposedInterface? i = some base) ↔ d.StandsFor name base := by
  have hfind : (ofDeclared stamp d).instance? name =
      (d.namedInstances.find? fun i => i.name.value = name).map fun i =>
        (Model.buildNamedInstance stamp i).value := by
    rw [instance_eq stamp hd (Placeholder.isPlaceholder_of_isSimple hname), Model.namedInstance?]
    simp only [ofDeclared, Model.namedInstances_build, List.find?_map]
    rfl
  simp only [hfind, Option.map_eq_some_iff, Declared.Model.StandsFor]
  constructor
  · intro h i hi
    have hsound := hsound.namedInstances i (List.mem_of_find?_eq_some hi)
    exact (exposedInterface_iff stamp hd hnames hsound).mp (h _ ⟨i, hi, rfl⟩)
  · rintro h _ ⟨i, hi, rfl⟩
    have hsound := hsound.namedInstances i (List.mem_of_find?_eq_some hi)
    exact (exposedInterface_iff stamp hd hnames hsound).mpr (h i hi)

end Check.Scope

namespace Check

theorem noErrors_unassignedNotes (inst : NamedInstance) (c : Class) (assigned : List String) :
    Note.NoErrors (unassignedNotes inst c assigned) := by
  simp only [unassignedNotes, Note.NoErrors, List.forall_mem_map]
  exact fun p _ => rfl

/-- The one list of entries that an instance has is checked. -/
theorem noErrors_instanceWiringNotes_iff {s : Scope} {k : Nat} {inst : NamedInstance}
    {as : List Assignment} {es : List Element} (hnamed : inst.isPlaceholder = false)
    (hinit : inst.initialization = Model.initialization as es) (hone : as = [] ∨ es = []) :
    Note.NoErrors (instanceWiringNotes s k inst) ↔
      (∀ c, s.instanceClass? k = some c → Note.NoErrors (assignmentNotes s inst c [] as).1) ∧
      ∀ t, elementInterface? s inst = some t →
        ∀ e ∈ es, Note.NoErrors (elementNotes s inst t e) := by
  unfold instanceWiringNotes
  rw [hnamed, hinit, Model.initialization]
  by_cases ha : as = []
  · by_cases he : es = []
    · simp [ha, he, assignmentNotes]
    · cases ht : elementInterface? s inst <;> simp [ha, he, assignmentNotes]
  · obtain rfl := hone.resolve_left ha
    cases hc : s.instanceClass? k <;> simp [ha, noErrors_unassignedNotes]

variable (stamp : Stamp) {d : Declared.Model} (hd : d.HasMarks)

include hd

/-- The interface that the elements of an instance must expose is that of its declaration. -/
theorem forall_elementInterface_iff {i : Declared.NamedInstance} (hi : i.IsSound)
    {P : String → Prop} :
    (∀ t, elementInterface? (Scope.ofDeclared stamp d)
      (Model.buildNamedInstance stamp i).value = some t → P t.base) ↔
    ∀ base, d.IsArrayOf i base → P base := by
  have hdeclared := Declared.Index.hasInterface_iff hd hi.classRef.bracket_not_mem
  unfold elementInterface? Declared.Model.IsArrayOf
  rw [Model.interfaceType_buildNamedInstance, Model.classType_buildNamedInstance]
  cases hr : i.interfaceRef with
  | some r => cases harray : r.resolved.isArray <;> simp [harray]
  | none =>
    cases harray : i.classRef.resolved.isArray with
    | false => simp
    | true =>
      have hindex : (Scope.ofDeclared stamp d).index.hasInterface i.classRef.resolved.base = true ↔
          d.DeclaresInterface i.classRef.resolved.base := hdeclared
      by_cases hinterface : d.DeclaresInterface i.classRef.resolved.base
      · simp [hindex.mpr hinterface, hinterface]
      · have hnone : (Scope.ofDeclared stamp d).index.hasInterface i.classRef.resolved.base =
            false := Bool.eq_false_iff.mpr fun h => hinterface (hindex.mp h)
        simp [hnone, hinterface]

variable (hnames : ((Model.build stamp d).value.classes.map Class.qualifiedName).Nodup)
  (hsound : d.IsSound)

include hnames hsound

theorem noErrors_interfaceWiringNotes_iff {a : Declared.Assignment} (ha : a.IsSound)
    (hone : Declared.ExactlyOne a.value a.instanceRef) {t : TypeRef} :
    Note.NoErrors (interfaceWiringNotes (Scope.ofDeclared stamp d)
      (Model.buildAssignment stamp a).value t) ↔ d.Suits a t.base := by
  have hwiring : (Model.buildAssignment stamp a).value.wiring =
    (Model.buildWiring a.value a.instanceRef a.placeholder a.provenance
      (.assignment a.parameterName.value)).value.1 := rfl
  rcases Declared.exactlyOne_iff.mp hone with ⟨v, hv, hnone⟩ | ⟨f, hnone, hf⟩
  · have hvalue : (Model.buildAssignment stamp a).value.wiring = .value v.value := by
      simp [hwiring, Model.buildWiring, hv, hnone]
    rw [noErrors_interfaceWiringNotes_value hvalue]
    constructor
    · exact fun hv' => ⟨by simp [hv, hv'], by simp [hnone]⟩
    · exact fun h => h.value v hv
  · have hinstance : (Model.buildAssignment stamp a).value.wiring = .instanceOf f.value := by
      simp [hwiring, Model.buildWiring, hf, hnone]
    rw [noErrors_interfaceWiringNotes_instanceOf hinstance,
      Scope.standsFor_iff stamp hd hnames hsound (ha.instanceRef f hf).hasForm]
    constructor
    · exact fun hstands => ⟨by simp [hnone], by simp [hf, hstands]⟩
    · exact fun h => h.instanceRef f hf

theorem noErrors_elementNotes_buildElement_iff {e : Declared.Element} (he : e.IsSound)
    {inst : NamedInstance} {t : TypeRef} :
    Note.NoErrors (elementNotes (Scope.ofDeclared stamp d) inst t
      (Model.buildElement stamp e).value) ↔ ∀ f ∈ e.instanceRef, d.StandsFor f.value t.base := by
  have hwiring : ∀ {target}, (Model.buildElement stamp e).value.wiring = .instanceOf target ↔
      ∃ f ∈ e.instanceRef, f.value = target := Model.buildWiring_eq_instanceOf_iff
  rw [noErrors_elementNotes_iff]
  constructor
  · intro h f hf
    have hsimple := (he.instanceRef f hf).hasForm
    exact (Scope.standsFor_iff stamp hd hnames hsound hsimple).mp
      (h f.value (hwiring.mpr ⟨f, hf, rfl⟩) hsimple)
  · intro h target htarget hsimple
    obtain ⟨f, hf, rfl⟩ := hwiring.mp htarget
    exact (Scope.standsFor_iff stamp hd hnames hsound hsimple).mpr (h f hf)

/-- The assignments that are built fit the class that is built exactly when they are assignments to
the declared class. -/
theorem assignmentsFit_iff {i : Declared.NamedInstance} (hi : i.IsSound) (hc : i.IsConsistent)
    {namespaceName : String} {c : Declared.Class} (hclass : c.IsConsistent) :
    AssignmentsFit (Scope.ofDeclared stamp d) (Model.buildClass stamp namespaceName c).value []
      ((i.assignments.getD []).map fun a => (Model.buildAssignment stamp a).value) ↔
    d.AssignsTo i c := by
  have hparameters := Model.parameters_buildClass stamp namespaceName c
  have hnodup : ((Model.buildClass stamp namespaceName c).value.parameters.map
      Parameter.name).Nodup := by
    rw [hparameters, List.map_map]
    exact hclass.names
  have hsome : ∀ {name p},
      (Model.buildClass stamp namespaceName c).value.parameter? name = some p ↔
      ∃ e ∈ c.parameters.getD [],
        e.name.value = name ∧ (Model.buildParameter stamp e).value = p := by
    intro name p
    rw [Class.parameter_eq_some_iff hnodup, hparameters, List.mem_map]
    constructor
    · rintro ⟨⟨e, he, rfl⟩, hname⟩
      exact ⟨e, he, hname, rfl⟩
    · rintro ⟨e, he, hname, rfl⟩
      exact ⟨⟨e, he, rfl⟩, hname⟩
  have hnotes : ∀ a ∈ i.assignments.getD [], ∀ {t},
      (Note.NoErrors (interfaceWiringNotes (Scope.ofDeclared stamp d)
        (Model.buildAssignment stamp a).value t) ↔ d.Suits a t.base) := fun a ha _ =>
    noErrors_interfaceWiringNotes_iff stamp hd hnames hsound (hi.assignments a ha)
      (hc.assignments a ha)
  have honce : ((i.assignments.getD []).map fun a =>
      (Model.buildAssignment stamp a).value).map Assignment.parameterName =
      (i.assignments.getD []).map fun a => a.parameterName.value := by
    rw [List.map_map]
    rfl
  constructor
  · rintro ⟨hnamed, hnodup, -, hwired⟩
    refine ⟨?_, honce ▸ hnodup, ?_⟩
    · intro a ha
      obtain ⟨p, hp⟩ := Option.isSome_iff_exists.mp (hnamed _ (List.mem_map_of_mem ha))
      obtain ⟨e, he, hname, -⟩ := hsome.mp hp
      exact ⟨e, he, hname⟩
    · intro a ha e he hname r hr
      have htype := (Model.type_eq_interfaceType_iff stamp).mpr ⟨r, hr, rfl⟩
      exact (hnotes a ha).mp (hwired _ (List.mem_map_of_mem ha) _
        (hsome.mpr ⟨e, he, hname, rfl⟩) _ htype)
  · rintro ⟨hnamed, hnodup, hsuited⟩
    refine ⟨?_, honce.symm ▸ hnodup, by simp, ?_⟩
    · rw [List.forall_mem_map]
      intro a ha
      obtain ⟨e, he, hname⟩ := hnamed a ha
      exact Option.isSome_iff_exists.mpr ⟨_, hsome.mpr ⟨e, he, hname, rfl⟩⟩
    · rw [List.forall_mem_map]
      intro a ha p hp t ht
      obtain ⟨e, he, hname, rfl⟩ := hsome.mp hp
      obtain ⟨r, hr, rfl⟩ := (Model.type_eq_interfaceType_iff stamp).mp ht
      exact (hnotes a ha).mpr (hsuited a ha e he hname r hr)

/-- The class that is looked at is that of an instance of no primitive type. -/
theorem forall_instanceClass_iff {k : Nat} {i : Declared.NamedInstance}
    (hk : d.namedInstances[k]? = some i) {P : Class → Prop} {P' : Declared.Class → Prop}
    (hP : ∀ ns ∈ d.namespaces, ∀ e ∈ ns.classes,
      (P (Model.buildClass stamp ns.name.value e).value ↔ P' e)) :
    (∀ c, (Scope.ofDeclared stamp d).instanceClass? k = some c → P c) ↔
      (i.classRef.resolved.isPrimitive = false →
        ∀ e, d.DeclaresClass i.classRef.resolved.base e → P' e) := by
  have hi := hsound.namedInstances i (List.mem_of_getElem? hk)
  have hmodel : (Scope.ofDeclared stamp d).model.namedInstances[k]? =
      some (Model.buildNamedInstance stamp i).value := by
    simp [Scope.ofDeclared, hk]
  have hdeclared : (Scope.ofDeclared stamp d).declared.namedInstances[k]? = some i := hk
  rw [← Scope.forall_class_iff stamp hd hnames hi.classRef.bracket_not_mem hP]
  cases hprimitive : i.classRef.resolved.isPrimitive with
  | true =>
    simp [Scope.instanceClass?, hdeclared, hmodel, hprimitive]
  | false =>
    simp [Scope.instanceClass?, hdeclared, hmodel, hprimitive, hi.classRef.isUsable]

theorem noErrors_wiringNotes_instance_iff {k : Nat} {i : Declared.NamedInstance}
    (hk : d.namedInstances[k]? = some i) (hc : d.IsConsistent) :
    Note.NoErrors (instanceWiringNotes (Scope.ofDeclared stamp d) k
      (Model.buildNamedInstance stamp i).value) ↔ d.WiresSoundly i := by
  have hi := hsound.namedInstances i (List.mem_of_getElem? hk)
  have hown := hc.namedInstances i (List.mem_of_getElem? hk)
  rw [noErrors_instanceWiringNotes_iff (Model.isPlaceholder_buildNamedInstance stamp hi)
    (Model.initialization_buildNamedInstance stamp i) (by simpa using hown.oneList)]
  have hassignments := forall_instanceClass_iff stamp hd hnames hsound hk
    (P := fun c => Note.NoErrors (assignmentNotes (Scope.ofDeclared stamp d)
      (Model.buildNamedInstance stamp i).value c []
      ((i.assignments.getD []).map fun a => (Model.buildAssignment stamp a).value)).1)
    fun ns hns c hclass => (noErrors_assignmentNotes_iff (by
      rw [List.forall_mem_map]
      exact fun a ha => (hi.assignments a ha).parameterName.hasForm)).trans
      (assignmentsFit_iff stamp hd hnames hsound hi hown (hc.classes ns hns c hclass))
  have helements : ∀ t, (∀ e ∈ (i.elements.getD []).map fun e => (Model.buildElement stamp e).value,
      Note.NoErrors (elementNotes (Scope.ofDeclared stamp d)
        (Model.buildNamedInstance stamp i).value t e)) ↔
      ∀ e ∈ i.elements.getD [], ∀ f ∈ e.instanceRef, d.StandsFor f.value t.base := by
    intro t
    rw [List.forall_mem_map]
    exact forall₂_congr fun e he =>
      noErrors_elementNotes_buildElement_iff stamp hd hnames hsound (hi.elements e he)
  have harrays := forall_elementInterface_iff stamp hd hi (P := fun base =>
    ∀ e ∈ i.elements.getD [], ∀ f ∈ e.instanceRef, d.StandsFor f.value base)
  simp only [helements, hassignments, harrays]
  constructor
  · rintro ⟨hassigns, hexposed⟩
    exact ⟨hassigns, hexposed⟩
  · rintro ⟨hassigns, hexposed⟩
    exact ⟨hassigns, hexposed⟩

/-- The check of wirings finds no error exactly when all instances are wired soundly. -/
theorem noErrors_wiringNotes_iff (hc : d.IsConsistent) :
    Note.NoErrors (wiringNotes (Scope.ofDeclared stamp d)) ↔
      ∀ i ∈ d.namedInstances, d.WiresSoundly i := by
  rw [wiringNotes, Note.noErrors_flatMap, Scope.forall_mem_zipIdx_iff stamp
    (P := fun inst k => Note.NoErrors (instanceWiringNotes (Scope.ofDeclared stamp d) k inst))]
  constructor
  · intro h i hi
    obtain ⟨k, hk⟩ := List.mem_iff_getElem?.mp hi
    exact (noErrors_wiringNotes_instance_iff stamp hd hnames hsound hk hc).mp (h k i hk)
  · intro h k i hk
    exact (noErrors_wiringNotes_instance_iff stamp hd hnames hsound hk hc).mpr
      (h i (List.mem_of_getElem? hk))

end Check

/-! ## Documents that are accepted -/

/-- Declarations that were read without an error are built and checked without one exactly when they
keep all rules. -/
theorem noErrors_iff_isAdmissible (stamp : Stamp) {d : Declared.Model} (hd : d.HasMarks)
    (hsound : d.IsSound) : ((Model.build stamp d).IsClean ∧
      Note.NoErrors (notes (Scope.ofDeclared stamp d))) ↔ d.IsAdmissible := by
  rw [Model.isClean_build stamp hsound, noErrors_notes]
  have hbuilt : d.IsConsistent → (Model.build stamp d).value.IsSound := fun hc =>
    Model.build_sound stamp hsound ((Model.isClean_build stamp hsound).mpr hc)
  -- classes are found by names that are distinct, which the check for collisions has settled
  have hdistinct : d.IsConsistent → Note.NoErrors (typeCollisions (Model.build stamp d).value) →
      ((Model.build stamp d).value.classes.map Class.qualifiedName).Nodup := fun hc htypes =>
    (typeNames_nodup (hbuilt hc) htypes).sublist (Model.classNames_sublist _)
  constructor
  · rintro ⟨hc, htypes, hinstances, hkeys, hresolution, hordering, hwiring⟩
    have hnames := hdistinct hc htypes
    exact
      { consistent := hc
        names := (Model.noErrors_nameNotes_iff stamp hsound (hbuilt hc)).mp
          ⟨htypes, hinstances, hkeys⟩
        types := (noErrors_resolutionNotes_iff stamp hd hnames hsound).mp hresolution
        order := (noErrors_orderingNotes_iff stamp hd hsound hc).mp hordering
        wirings := (noErrors_wiringNotes_iff stamp hd hnames hsound hc).mp hwiring }
  · rintro ⟨hc, hrules, hresolves, hback, hwires⟩
    obtain ⟨htypes, hinstances, hkeys⟩ :=
      (Model.noErrors_nameNotes_iff stamp hsound (hbuilt hc)).mpr hrules
    have hnames := hdistinct hc htypes
    exact ⟨hc, htypes, hinstances, hkeys,
      (noErrors_resolutionNotes_iff stamp hd hnames hsound).mpr hresolves,
      (noErrors_orderingNotes_iff stamp hd hsound hc).mpr hback,
      (noErrors_wiringNotes_iff stamp hd hnames hsound hc).mpr hwires⟩

namespace Model

/-- A document is accepted exactly when it is read without an error and its declarations keep all
rules. -/
theorem ofNode_isGeneratable_iff (options : Options) (source : String) (root : Node) :
    (ofNode options source root).isGeneratable = true ↔
      ∃ declared, (Declared.Reading.mk source (options.stamp .extract)).readDocument root =
          .ok declared ∧
        Diagnostic.hasErrors (declared.notes.map Note.diagnostic) = false ∧
        declared.value.IsAdmissible := by
  unfold ofNode
  cases hread : (Declared.Reading.mk source (options.stamp .extract)).readDocument root with
  | error cause =>
    simp [not_isGeneratable_refused (Declared.Reading.cause_of_readDocument _ hread).1]
  | ok declared =>
    have hmarks := Declared.Reading.readDocument_marked _ hread
    have hsound := fun hclean => Declared.Reading.readDocument_sound _ hread hclean
    simp only [isGeneratable_ofDeclared_iff, Except.ok.injEq, exists_eq_left',
      Note.hasErrors_diagnostics]
    exact and_congr_right fun hclean =>
      noErrors_iff_isAdmissible (options.stamp .transform) hmarks (hsound hclean)

end Model

end DependencyWiring
