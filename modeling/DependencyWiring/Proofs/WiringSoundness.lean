import DependencyWiring.Proofs.DependencyOrder
import DependencyWiring.Proofs.UniqueNames

/-!
# Soundness of wirings

Three checks look at a wiring: references are resolved in order, the interface of an instance is
compared with that of its class, and the interface that is wanted with the one that is declared.
Each of them passes over what another one refuses. In a generatable model nothing is left to pass
over, and what is wired into an interface exposes it.
-/
namespace DependencyWiring

open Check

/-! ## What is promised -/

namespace Model

/-- An instance declares the interface, or leaves it to its class, which exposes it. -/
def Exposes (m : Model) (i : NamedInstance) (base : String) : Prop :=
  (∃ t, i.interfaceType = some t ∧ t.base = base) ∨
    (i.interfaceType = none ∧
      ∃ c ∈ m.classes, c.qualifiedName = i.classType.base ∧ c.interfaceName = some base)

/-- The first instance of a name exposes the interface, and what its class returns is of that
interface. -/
def StandsFor (m : Model) (name base : String) : Prop :=
  ∃ i, m.namedInstance? name = some i ∧ m.Exposes i base ∧
    ∀ c ∈ m.classes, c.qualifiedName = i.classType.base → c.effectiveReturnType = base

/-- An instance is initialized by assignments to the parameters of a declared class. -/
structure Assigns (m : Model) (i : NamedInstance) (items : List Assignment) (c : Class) :
    Prop where
  mem : i ∈ m.namedInstances
  initialization : i.initialization = .assignments items
  notPrimitive : i.classType.isPrimitive = false
  declared : c ∈ m.classes
  qualifiedName : c.qualifiedName = i.classType.base

/-- The interface that the elements of an instance must expose: the one that the instance declares
as an array, or that its class type is an array of. -/
def IsArrayOf (m : Model) (i : NamedInstance) (t : TypeRef) : Prop :=
  t.isArray = true ∧ (i.interfaceType = some t ∨
    (i.interfaceType = none ∧ i.classType = t ∧
      ∃ j ∈ m.interfaces, j.qualifiedName = t.base))

end Model

/-! ## The three checks -/

namespace Check

/-- A base that was accepted has no bracket in it. -/
theorem bracket_not_mem_of_fitsRole {t : TypeRef} {role : ReferenceRole}
    (h : Declared.Reading.fitsRole t role = true) : '<' ∉ t.base.toList := by
  have hbase : t.isPrimitive = true ∨ Name.isQualified t.base = true := by
    cases role <;> simp_all [Declared.Reading.fitsRole]
  rcases hbase with hprimitive | hqualified
  · exact Name.bracket_not_mem_of_isPrimitive hprimitive
  · exact Name.bracket_not_mem (Name.isSimpleOrQualified_of_isQualified hqualified)

/-- What the assignments before and among some leave to be assigned: each is to a parameter of the
class, no parameter is assigned twice, and an interface takes what it may take. -/
structure AssignmentsFit (s : Scope) (c : Class) (assigned : List String)
    (items : List Assignment) : Prop where
  named : ∀ a ∈ items, (c.parameter? a.parameterName).isSome = true
  nodup : (items.map Assignment.parameterName).Nodup
  fresh : ∀ a ∈ items, a.parameterName ∉ assigned
  wired : ∀ a ∈ items, ∀ p, c.parameter? a.parameterName = some p → ∀ t,
    p.type = .interfaceType t → Note.NoErrors (interfaceWiringNotes s a t)

section

variable {s : Scope} {inst : NamedInstance} {c : Class} {assigned : List String} {a : Assignment}
  {as : List Assignment}

/-- What it means that the first of some assignments is not noted. -/
theorem noErrors_assignmentNotes_cons_iff (ha : Name.isSimple a.parameterName = true) :
    Note.NoErrors (assignmentNotes s inst c assigned (a :: as)).1 ↔
      (∃ p, c.parameter? a.parameterName = some p ∧
        ∀ t, p.type = .interfaceType t → Note.NoErrors (interfaceWiringNotes s a t)) ∧
      a.parameterName ∉ assigned ∧
      Note.NoErrors (assignmentNotes s inst c (a.parameterName :: assigned) as).1 := by
  simp only [assignmentNotes, isLookedUp, ha, Bool.not_true, Bool.false_eq_true, if_false]
  cases c.parameter? a.parameterName with
  | none => simp
  | some p =>
    by_cases hassigned : a.parameterName ∈ assigned
    · simp [hassigned]
    · cases htype : p.type <;> simp [hassigned, htype]

/-- Some assignments fit when the first of them does and the others do after it. -/
theorem assignmentsFit_cons_iff : AssignmentsFit s c assigned (a :: as) ↔
    (∃ p, c.parameter? a.parameterName = some p ∧
      ∀ t, p.type = .interfaceType t → Note.NoErrors (interfaceWiringNotes s a t)) ∧
    a.parameterName ∉ assigned ∧ AssignmentsFit s c (a.parameterName :: assigned) as := by
  constructor
  · rintro ⟨hnamed, hnodup, hfresh, hwired⟩
    rw [List.forall_mem_cons] at hnamed hfresh hwired
    rw [List.map_cons, List.nodup_cons] at hnodup
    obtain ⟨p, hp⟩ := Option.isSome_iff_exists.mp hnamed.1
    refine ⟨⟨p, hp, hwired.1 p hp⟩, hfresh.1, hnamed.2, hnodup.2, ?_, hwired.2⟩
    intro b hb hmem
    rcases List.mem_cons.mp hmem with hsame | hmem
    · exact hnodup.1 (hsame ▸ List.mem_map_of_mem hb)
    · exact hfresh.2 b hb hmem
  · rintro ⟨⟨p, hp, hwires⟩, hnew, hnamed, hnodup, hfresh, hwired⟩
    refine ⟨List.forall_mem_cons.mpr ⟨by simp [hp], hnamed⟩, ?_, ?_, ?_⟩
    · rw [List.map_cons, List.nodup_cons]
      refine ⟨fun hmem => ?_, hnodup⟩
      obtain ⟨b, hb, hsame⟩ := List.mem_map.mp hmem
      exact hfresh b hb (by simp [hsame])
    · exact List.forall_mem_cons.mpr
        ⟨hnew, fun b hb hmem => hfresh b hb (List.mem_cons_of_mem _ hmem)⟩
    · refine List.forall_mem_cons.mpr ⟨fun q hq => ?_, hwired⟩
      obtain rfl := Option.some.inj (hp.symm.trans hq)
      exact hwires

theorem noErrors_assignmentNotes_iff {items : List Assignment}
    (hitems : ∀ a ∈ items, Name.isSimple a.parameterName = true) :
    Note.NoErrors (assignmentNotes s inst c assigned items).1 ↔
      AssignmentsFit s c assigned items := by
  induction items generalizing assigned with
  | nil => exact ⟨fun _ => ⟨by simp, by simp, by simp, by simp⟩, fun _ => Note.noErrors_nil⟩
  | cons a as ih =>
    rw [noErrors_assignmentNotes_cons_iff (hitems a (by simp)), assignmentsFit_cons_iff,
      ih fun b hb => hitems b (by simp [hb])]

end

/-- A literal may be put into an interface when it looks like a placeholder. -/
theorem noErrors_interfaceWiringNotes_value {s : Scope} {a : Assignment} {t : TypeRef}
    {v : String} (ha : a.wiring = .value v) :
    Note.NoErrors (interfaceWiringNotes s a t) ↔ Placeholder.isPlaceholder v = true := by
  rw [interfaceWiringNotes, ha]
  cases hv : Placeholder.isPlaceholder v <;> simp [hv]

/-- An instance may be put into an interface when it exposes it as far as the index knows. -/
theorem noErrors_interfaceWiringNotes_instanceOf {s : Scope} {a : Assignment} {t : TypeRef}
    {target : String} (ha : a.wiring = .instanceOf target) :
    Note.NoErrors (interfaceWiringNotes s a t) ↔
      ∀ i, s.instance? target = some i → s.exposedInterface? i = some t.base := by
  rw [interfaceWiringNotes, ha]
  cases hi : s.instance? target with
  | none => simp [hi]
  | some i => by_cases hexposed : s.exposedInterface? i = some t.base <;> simp [hi, hexposed]

theorem noErrors_elementNotes_iff {s : Scope} {inst : NamedInstance} {e : Element} {t : TypeRef} :
    Note.NoErrors (elementNotes s inst t e) ↔
      ∀ target, e.wiring = .instanceOf target → Name.isSimple target = true →
        ∀ i, s.instance? target = some i → s.exposedInterface? i = some t.base := by
  unfold elementNotes
  cases e.wiring with
  | value text => simp
  | instanceOf target =>
    cases hsimple : Name.isSimple target with
    | false => simp [isLookedUp, hsimple]
    | true =>
      cases hi : s.instance? target with
      | none => simp [isLookedUp, hsimple, hi]
      | some i =>
        by_cases hexposed : s.exposedInterface? i = some t.base <;>
          simp [isLookedUp, hsimple, hi, hexposed]

/-- The interface that an instance may declare is the one that its class exposes. -/
theorem interfaceName_of_interfaceTypeNotes {s : Scope} {i : NamedInstance} {t : TypeRef}
    {r : Declared.Reference} {c : Class} (hr : r.isUsable = true)
    (hc : s.class? i.classType.base = some c)
    (h : Note.NoErrors (interfaceTypeNotes s i t r)) : c.interfaceName = some t.base := by
  by_contra hne
  by_cases hinterface : s.index.hasInterface t.base = true
  · simp [interfaceTypeNotes, hr, hinterface, hc, mismatches, hne] at h
  · simp [interfaceTypeNotes, hr, hinterface] at h

end Check

/-! ## What they leave -/

namespace Accepted

variable {stamp : Stamp} {d : Declared.Model} (h : Accepted stamp d)

include h

theorem instanceTypeNotes {i : Declared.NamedInstance} (hi : i ∈ d.namedInstances) :
    Note.NoErrors (instanceTypeNotes (Scope.ofDeclared stamp d)
      (Model.buildNamedInstance stamp i).value i) := by
  have hnotes := h.resolutionNotes
  simp only [Check.resolutionNotes, Note.noErrors_append, Note.noErrors_flatMap] at hnotes
  refine hnotes.2 ((Model.buildNamedInstance stamp i).value, i) ?_
  show _ ∈ (Model.build stamp d).value.namedInstances.zip d.namedInstances
  rw [Model.namedInstances_build, ← List.map_prod_right_eq_zip]
  exact List.mem_map_of_mem hi

/-- The index finds the class of an instance. -/
theorem class_of_base {i : NamedInstance}
    (hi : i ∈ (Scope.ofDeclared stamp d).model.namedInstances) {c : Class} :
    (Scope.ofDeclared stamp d).class? i.classType.base = some c ↔
      c ∈ (Scope.ofDeclared stamp d).model.classes ∧ c.qualifiedName = i.classType.base := by
  rw [Scope.class_eq stamp h.marks
    (bracket_not_mem_of_fitsRole (h.model.namedInstances i hi).classType)]
  exact Model.class_eq_some_iff h.classNames_nodup

/-- An instance declares no interface but the one that its class exposes. -/
theorem interfaceName_eq {i : NamedInstance}
    (hi : i ∈ (Scope.ofDeclared stamp d).model.namedInstances) {t : TypeRef}
    (ht : i.interfaceType = some t) {c : Class}
    (hc : c ∈ (Scope.ofDeclared stamp d).model.classes)
    (hname : c.qualifiedName = i.classType.base) : c.interfaceName = some t.base := by
  have hclass := (h.class_of_base hi).mpr ⟨hc, hname⟩
  have hnamed := h.isPlaceholder_eq_false hi
  obtain ⟨e, he, rfl⟩ : ∃ e ∈ d.namedInstances, (Model.buildNamedInstance stamp e).value = i := by
    simpa [Scope.ofDeclared] using hi
  have hnotes := h.instanceTypeNotes he
  rw [Model.interfaceType_buildNamedInstance] at ht
  obtain ⟨r, hr, rfl⟩ := Option.map_eq_some_iff.mp ht
  have husable := ((h.declared.namedInstances e he).interfaceRef r hr).isUsable
  simp only [Check.instanceTypeNotes, hnamed, Bool.false_eq_true, if_false,
    Model.interfaceType_buildNamedInstance, hr, Option.map_some, Note.noErrors_append] at hnotes
  exact interfaceName_of_interfaceTypeNotes husable hclass hnotes.2

theorem effectiveReturnType_eq {c : Class}
    (hc : c ∈ (Scope.ofDeclared stamp d).model.classes) {base : String}
    (hbase : c.interfaceName = some base) : c.effectiveReturnType = base := by
  obtain ⟨ns, hns, hmem⟩ := List.mem_flatMap.mp hc
  rw [((h.model.namespaces ns hns).classes c hmem).effectiveReturnType, hbase]
  rfl

/-- What is wired is an instance that the index finds. -/
theorem exists_instance {i : NamedInstance}
    (hi : i ∈ (Scope.ofDeclared stamp d).model.namedInstances) {target : String} {p : Provenance}
    (hwired : (Wiring.instanceOf target, p) ∈ i.wirings) :
    ∃ j, (Scope.ofDeclared stamp d).instance? target = some j := by
  obtain ⟨n, hn⟩ := List.mem_iff_getElem?.mp hi
  obtain ⟨k, -, hk⟩ := exists_earlier h hn hwired
  obtain ⟨hlt, -⟩ := List.findIdx?_eq_some_iff_getElem.mp hk
  have hsimple := (h.model.namedInstances i hi).targets _ hwired target rfl
  refine ⟨(Scope.ofDeclared stamp d).model.namedInstances[k], ?_⟩
  rw [Scope.instance?, Scope.instancePosition_eq stamp h.marks
    (Placeholder.isPlaceholder_of_isSimple hsimple), hk]
  exact List.getElem?_eq_getElem hlt

/-- What exposes an interface as far as the index knows stands for it. -/
theorem standsFor {target base : String} {i : NamedInstance}
    (hsimple : Name.isSimple target = true)
    (hi : (Scope.ofDeclared stamp d).instance? target = some i)
    (hexposed : (Scope.ofDeclared stamp d).exposedInterface? i = some base) :
    (Scope.ofDeclared stamp d).model.StandsFor target base := by
  rw [Scope.instance_eq stamp h.marks (Placeholder.isPlaceholder_of_isSimple hsimple)] at hi
  have hmem : i ∈ (Scope.ofDeclared stamp d).model.namedInstances :=
    List.mem_of_find?_eq_some hi
  refine ⟨i, hi, ?_⟩
  cases ht : i.interfaceType with
  | some t =>
    obtain rfl : t.base = base := by simpa [Scope.exposedInterface?, ht] using hexposed
    exact ⟨.inl ⟨t, ht, rfl⟩, fun c hc hname =>
      h.effectiveReturnType_eq hc (h.interfaceName_eq hmem ht hc hname)⟩
  | none =>
    simp only [Scope.exposedInterface?, ht, Option.bind_eq_bind,
      Option.bind_eq_some_iff] at hexposed
    obtain ⟨c, hclass, hbase⟩ := hexposed
    obtain ⟨hc, hname⟩ := (h.class_of_base hmem).mp hclass
    refine ⟨.inr ⟨ht, c, hc, hname, hbase⟩, ?_⟩
    intro c' hc' hname'
    have hsame := hclass.symm.trans ((h.class_of_base hmem).mpr ⟨hc', hname'⟩)
    exact h.effectiveReturnType_eq hc' (Option.some.inj hsame ▸ hbase)

/-- A wiring is to what stands for an interface when every instance it can be exposes the
interface. -/
theorem standsFor_of_wired {i : NamedInstance}
    (hi : i ∈ (Scope.ofDeclared stamp d).model.namedInstances) {target base : String}
    {p : Provenance} (hwired : (Wiring.instanceOf target, p) ∈ i.wirings)
    (hexposed : ∀ j, (Scope.ofDeclared stamp d).instance? target = some j →
      (Scope.ofDeclared stamp d).exposedInterface? j = some base) :
    (Scope.ofDeclared stamp d).model.StandsFor target base := by
  have hsimple := (h.model.namedInstances i hi).targets _ hwired target rfl
  obtain ⟨j, hj⟩ := h.exists_instance hi hwired
  exact h.standsFor hsimple hj (hexposed j hj)

theorem instanceWiringNotes {n : Nat} {i : NamedInstance}
    (hn : (Scope.ofDeclared stamp d).model.namedInstances[n]? = some i) :
    Note.NoErrors (instanceWiringNotes (Scope.ofDeclared stamp d) n i) := by
  have hnotes := h.wiringNotes
  rw [Check.wiringNotes, Note.noErrors_flatMap] at hnotes
  exact hnotes (i, n) (List.mem_zipIdx_iff_getElem?.mpr hn)

/-- The class of an instance that is initialized by assignments is looked at. -/
theorem instanceClass_eq {i : NamedInstance} {items : List Assignment} {c : Class}
    (ha : (Scope.ofDeclared stamp d).model.Assigns i items c) {n : Nat}
    (hn : (Scope.ofDeclared stamp d).model.namedInstances[n]? = some i) :
    (Scope.ofDeclared stamp d).instanceClass? n = some c := by
  have hclass := (h.class_of_base ha.mem).mpr ⟨ha.declared, ha.qualifiedName⟩
  obtain ⟨e, he, rfl⟩ : ∃ e, d.namedInstances[n]? = some e ∧
      (Model.buildNamedInstance stamp e).value = i := by
    simpa [Scope.ofDeclared] using hn
  have husable := (h.declared.namedInstances e (List.mem_of_getElem? he)).classRef.isUsable
  have hdeclared : (Scope.ofDeclared stamp d).declared.namedInstances[n]? = some e := he
  have hprimitive := ha.notPrimitive
  simp only [Scope.instanceClass?, hdeclared, hn, Option.bind_eq_bind, Option.bind_some, husable,
    hprimitive, Bool.not_true, Bool.or_false, Bool.false_eq_true, if_false]
  exact hclass

theorem assignments_fit {i : NamedInstance} {items : List Assignment} {c : Class}
    (ha : (Scope.ofDeclared stamp d).model.Assigns i items c) :
    AssignmentsFit (Scope.ofDeclared stamp d) c [] items := by
  obtain ⟨n, hn⟩ := List.mem_iff_getElem?.mp ha.mem
  have hnotes := h.instanceWiringNotes hn
  simp only [Check.instanceWiringNotes, h.isPlaceholder_eq_false ha.mem, Bool.false_eq_true,
    if_false, ha.initialization, h.instanceClass_eq ha hn, Note.noErrors_append] at hnotes
  exact (noErrors_assignmentNotes_iff
    ((h.model.namedInstances i ha.mem).parameterNames items ha.initialization)).mp hnotes.1

/-- What is assigned to a parameter of an interface is not noted. -/
theorem interfaceWiringNotes {i : NamedInstance} {items : List Assignment} {c : Class}
    (ha : (Scope.ofDeclared stamp d).model.Assigns i items c) {a : Assignment} (hmem : a ∈ items)
    {p : Parameter} (hp : p ∈ c.parameters) (hname : p.name = a.parameterName) {t : TypeRef}
    (ht : p.type = .interfaceType t) :
    Note.NoErrors (interfaceWiringNotes (Scope.ofDeclared stamp d) a t) := by
  have hparameter := (Class.parameter_eq_some_iff (h.parameterNames_nodup ha.declared)).mpr
    ⟨hp, hname⟩
  exact (h.assignments_fit ha).wired a hmem p hparameter t ht

theorem elements_fit {i : NamedInstance} {items : List Element} {t : TypeRef}
    (hi : i ∈ (Scope.ofDeclared stamp d).model.namedInstances)
    (hitems : i.initialization = .elements items)
    (ht : (Scope.ofDeclared stamp d).model.IsArrayOf i t) :
    ∀ e ∈ items, Note.NoErrors (elementNotes (Scope.ofDeclared stamp d) i t e) := by
  obtain ⟨n, hn⟩ := List.mem_iff_getElem?.mp hi
  have hinterface : elementInterface? (Scope.ofDeclared stamp d) i = some t := by
    obtain ⟨harray, htype | ⟨htype, rfl, hdeclared⟩⟩ := ht
    · simp [elementInterface?, htype, harray]
    · have hbase := bracket_not_mem_of_fitsRole (h.model.namedInstances i hi).classType
      simp [elementInterface?, htype, harray,
        (Scope.hasInterface_iff stamp h.marks hbase).mpr hdeclared]
  have hnotes := h.instanceWiringNotes hn
  simpa only [Check.instanceWiringNotes, h.isPlaceholder_eq_false hi, Bool.false_eq_true, if_false,
    hitems, hinterface, Note.noErrors_flatMap] using hnotes

end Accepted

/-! ## Wirings of generatable models -/

theorem Sample.assigns_linked :
    (Sample.linked "First").Assigns (second (.instanceOf "First"))
      [assigned (.instanceOf "First")] node :=
  { mem := by simp [namedInstances_linked]
    initialization := rfl
    notPrimitive := by rfl
    declared := by simp [classes_linked]
    qualifiedName := rfl }

namespace Model

/-- Assignments are to parameters of the class, each to one of its own, and what is wired into an
interface, as a parameter or as an element, stands for it. -/
structure WiresSoundly (m : Model) : Prop where
  named : ∀ i items c, m.Assigns i items c →
    ∀ a ∈ items, ∃ p ∈ c.parameters, p.name = a.parameterName
  once : ∀ i items c, m.Assigns i items c → (items.map Assignment.parameterName).Nodup
  assignments : ∀ i items c, m.Assigns i items c →
    ∀ a ∈ items, ∀ p ∈ c.parameters, p.name = a.parameterName →
      ∀ t, p.type = .interfaceType t → ∀ n, a.wiring = .instanceOf n → m.StandsFor n t.base
  elements : ∀ i ∈ m.namedInstances, ∀ items, i.initialization = .elements items →
    ∀ t, m.IsArrayOf i t → ∀ e ∈ items, ∀ n, e.wiring = .instanceOf n → m.StandsFor n t.base

theorem wiresSoundly_of_accepted {stamp : Stamp} {d : Declared.Model} (h : Accepted stamp d) :
    (Scope.ofDeclared stamp d).model.WiresSoundly := by
  refine ⟨?_, ?_, ?_, ?_⟩
  · intro i items c hassigns a ha
    obtain ⟨p, hp⟩ := Option.isSome_iff_exists.mp ((h.assignments_fit hassigns).named a ha)
    have hnodup := h.parameterNames_nodup hassigns.declared
    exact ⟨p, (Class.parameter_eq_some_iff hnodup).mp hp⟩
  · intro i items c hassigns
    exact (h.assignments_fit hassigns).nodup
  · intro i items c hassigns a ha p hp hname t ht n hn
    have hnotes := h.interfaceWiringNotes hassigns ha hp hname ht
    have hwired : (Wiring.instanceOf n, a.provenance) ∈ i.wirings := by
      simp only [NamedInstance.wirings, hassigns.initialization]
      exact hn ▸ List.mem_map_of_mem ha
    exact h.standsFor_of_wired hassigns.mem hwired
      ((noErrors_interfaceWiringNotes_instanceOf hn).mp hnotes)
  · intro i hi items hitems t ht e he n hn
    have hwired : (Wiring.instanceOf n, e.provenance) ∈ i.wirings := by
      simp only [NamedInstance.wirings, hitems]
      exact hn ▸ List.mem_map_of_mem he
    have hsimple := (h.model.namedInstances i hi).targets _ hwired n rfl
    exact h.standsFor_of_wired hi hwired
      (noErrors_elementNotes_iff.mp (h.elements_fit hi hitems ht e he) n hn hsimple)

theorem assigns_withDiagnostics {m : Model} {diagnostics : List Diagnostic} {i : NamedInstance}
    {items : List Assignment} {c : Class} :
    Assigns { m with diagnostics := diagnostics } i items c ↔ m.Assigns i items c :=
  ⟨fun h => ⟨h.mem, h.initialization, h.notPrimitive, h.declared, h.qualifiedName⟩,
    fun h => ⟨h.mem, h.initialization, h.notPrimitive, h.declared, h.qualifiedName⟩⟩

/-- The wirings of a generatable model are sound. -/
theorem ofNode_wiresSoundly {options : Options} {source : String} {root : Node}
    (h : (ofNode options source root).isGeneratable = true) :
    (ofNode options source root).WiresSoundly := by
  obtain ⟨d, haccepted, diagnostics, he⟩ := exists_accepted h
  have hsound := wiresSoundly_of_accepted haccepted
  rw [he]
  exact
    { named := fun i items c ha => hsound.named i items c (assigns_withDiagnostics.mp ha)
      once := fun i items c ha => hsound.once i items c (assigns_withDiagnostics.mp ha)
      assignments := fun i items c ha =>
        hsound.assignments i items c (assigns_withDiagnostics.mp ha)
      elements := hsound.elements }

/-- In the sample the name of the first node stands for the interface of nodes. -/
theorem linked_wiresSoundly : (Sample.linked "First").StandsFor "First" "App.INode" :=
  (ofNode_wiresSoundly Sample.isGeneratable_linked).assignments
    (Sample.second (.instanceOf "First")) [Sample.assigned (.instanceOf "First")] Sample.node
    Sample.assigns_linked (Sample.assigned (.instanceOf "First")) (List.mem_singleton.mpr rfl)
    Sample.next (List.mem_singleton.mpr rfl) rfl (.named "App.INode") rfl "First" rfl

end Model

end DependencyWiring
