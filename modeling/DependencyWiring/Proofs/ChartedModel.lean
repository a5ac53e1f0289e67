import DependencyWiring.Model.Compilation
import DependencyWiring.Proofs.ChartedReading
import DependencyWiring.Proofs.Slots

/-!
# Charted models

Building and checking make up no places. Each takes the places that it names from what was made
before it: the builder from the declarations, and the checks from the entities of the model and from
the references of the declarations. So what holds of those places holds of every place in the notes.
-/
namespace DependencyWiring

/-! ## Places of what is built -/

namespace Model

open Report

variable {P : Origin → Prop} {stamp : Stamp}

theorem gives_recheck {f : Declared.Field} {form : NameForm} (h : f.isValid = true → P f.origin) :
    (recheck f form).Gives P fun _ => True := by
  unfold recheck
  extract_lets hasForm
  split
  · exact .pure trivial
  · rename_i hvalid
    split
    · exact .pure trivial
    · exact .bind (.note (h (by simpa using hvalid))) fun _ _ => .pure trivial

theorem gives_buildCodeGen {d : Declared.CodeGen} (h : d.LiesIn P) :
    (buildCodeGen stamp d).Gives P fun _ => True := by
  refine .bind (gives_recheck h.registryClassName) fun _ _ => ?_
  refine .bind (gives_recheck h.namespaceName) fun _ _ => ?_
  exact .bind (gives_recheck h.initializerName) fun _ _ => .pure trivial

theorem gives_buildInterface {namespaceName : String} {d : Declared.Interface} (h : d.LiesIn P) :
    (buildInterface stamp namespaceName d).Gives P fun _ => True := by
  refine .bind (gives_recheck fun _ => h.name) fun _ _ => ?_
  exact .bind (.noteIf fun _ => h.name) fun _ _ => .pure trivial

theorem gives_parameterType {d : Declared.Parameter} (h : d.LiesIn P) :
    (parameterType d).Gives P fun _ => True := by
  unfold parameterType
  split
  · exact .bind (.note h.entity) fun _ _ => .pure trivial
  · exact .bind (.noteIf fun _ => h.entity) fun _ _ => .pure trivial
  · exact .pure trivial
  · exact .pure trivial

theorem gives_buildParameter {d : Declared.Parameter} (h : d.LiesIn P) :
    (buildParameter stamp d).Gives P fun _ => True := by
  refine .bind (gives_recheck fun _ => h.name) fun _ _ => ?_
  exact .bind (gives_parameterType h) fun _ _ => .pure trivial

theorem gives_buildParameters {className : String} {seen : List String}
    {ds : List Declared.Parameter} (h : ∀ d ∈ ds, d.LiesIn P) :
    (buildParameters stamp className seen ds).Gives P fun _ => True := by
  induction ds generalizing seen with
  | nil => exact .pure trivial
  | cons d ds ih =>
    have hd := h d List.mem_cons_self
    refine .bind (.noteIf fun _ => hd.name) fun _ _ => ?_
    refine .bind (gives_buildParameter hd) fun _ _ => ?_
    exact .bind (ih fun d' hd' => h d' (List.mem_cons_of_mem d hd')) fun _ _ => .pure trivial

theorem gives_buildClass {namespaceName : String} {d : Declared.Class} (h : d.LiesIn P) :
    (buildClass stamp namespaceName d).Gives P fun _ => True := by
  refine .bind (gives_recheck fun _ => h.name) fun _ _ => ?_
  refine .bind (.noteIf fun _ => h.name) fun _ _ => ?_
  exact .bind (gives_buildParameters h.parameters) fun _ _ => .pure trivial

theorem gives_buildNamespace {d : Declared.Namespace} (h : d.LiesIn P) :
    (buildNamespace stamp d).Gives P fun _ => True := by
  refine .bind (gives_recheck fun _ => h.name) fun _ _ => ?_
  refine .bind (.noteIf fun _ => h.entity) fun _ _ => ?_
  refine .bind (.forEach fun i hi => gives_buildInterface (h.interfaces i hi)) fun _ _ => ?_
  exact .bind (.forEach fun c hc => gives_buildClass (h.classes c hc)) fun _ _ => .pure trivial

theorem gives_buildWiring {value instanceRef : Option Declared.Field} {placeholder : Bool}
    {provenance : Provenance} {site : WiringSite} (h : P provenance.origin) :
    (buildWiring value instanceRef placeholder provenance site).Gives P fun _ => True := by
  unfold buildWiring
  split
  · exact .bind (.note h) fun _ _ => .pure trivial
  · exact .bind (.noteIf fun _ => h) fun _ _ => .pure trivial
  · exact .pure trivial
  · exact .pure trivial

theorem gives_buildAssignment {d : Declared.Assignment} (h : d.LiesIn P) :
    (buildAssignment stamp d).Gives P fun _ => True := by
  refine .bind (gives_recheck fun _ => h.parameterName) fun _ _ => ?_
  exact .bind (gives_buildWiring h.entity) fun _ _ => .pure trivial

theorem gives_buildElement {d : Declared.Element} (h : d.LiesIn P) :
    (buildElement stamp d).Gives P fun _ => True :=
  .bind (gives_buildWiring h.entity) fun _ _ => .pure trivial

theorem gives_buildNamedInstance {d : Declared.NamedInstance} (h : d.LiesIn P) :
    (buildNamedInstance stamp d).Gives P fun _ => True := by
  refine .bind (gives_recheck fun _ => h.name) fun _ _ => ?_
  refine .bind (.noteIf fun _ => h.entity) fun _ _ => ?_
  refine .bind (.noteIf fun _ => h.entity) fun _ _ => ?_
  refine .bind (.forEach fun a ha => gives_buildAssignment (h.assignments a ha)) fun _ _ => ?_
  exact .bind (.forEach fun e he => gives_buildElement (h.elements e he)) fun _ _ => .pure trivial

theorem gives_build {d : Declared.Model} (h : d.LiesIn P) :
    (build stamp d).Gives P fun _ => True := by
  refine .bind (gives_buildCodeGen h.codeGen) fun _ _ => ?_
  refine .bind (.forEach fun ns hns => gives_buildNamespace (h.namespaces ns hns)) fun _ _ => ?_
  exact .bind (.forEach fun i hi => gives_buildNamedInstance (h.namedInstances i hi))
    fun _ _ => .pure trivial

end Model

/-! ## Places of what is checked -/

theorem Namespace.provenance_mem_of_interfaces {ns : Namespace} {i : Interface}
    (hi : i ∈ ns.interfaces) : i.provenance ∈ ns.provenances :=
  List.mem_cons_of_mem _ (List.mem_append_left _ (List.mem_map_of_mem hi))

theorem Namespace.provenance_mem_of_classes {ns : Namespace} {c : Class} (hc : c ∈ ns.classes) :
    c.provenance ∈ ns.provenances :=
  List.mem_cons_of_mem _ (List.mem_append_right _
    (List.mem_flatMap.mpr ⟨c, hc, List.mem_cons_self⟩))

theorem NamedInstance.provenance_mem_of_wirings {i : NamedInstance} {w : Wiring × Provenance}
    (hw : w ∈ i.wirings) : w.2 ∈ i.provenances :=
  List.mem_cons_of_mem _ (List.mem_map_of_mem hw)

namespace Model

variable {m : Model}

theorem provenances_namespaces_subset {ns : Namespace} (hns : ns ∈ m.namespaces) :
    ns.provenances ⊆ m.provenances := fun p hp => by
  have hall : p ∈ m.namespaces.flatMap Namespace.provenances := List.mem_flatMap.mpr ⟨ns, hns, hp⟩
  simp [provenances, hall]

theorem provenances_namedInstances_subset {i : NamedInstance} (hi : i ∈ m.namedInstances) :
    i.provenances ⊆ m.provenances := fun p hp => by
  have hall : p ∈ m.namedInstances.flatMap NamedInstance.provenances :=
    List.mem_flatMap.mpr ⟨i, hi, hp⟩
  simp [provenances, hall]

end Model

namespace Check

open Note

variable {s : Scope} {P : Origin → Prop} (hm : ∀ p ∈ s.model.provenances, P p.origin)

section

include hm

theorem origin_of_mem_interfaces {ns : Namespace} (hns : ns ∈ s.model.namespaces) {i : Interface}
    (hi : i ∈ ns.interfaces) : P i.provenance.origin :=
  hm _ (Model.provenances_namespaces_subset hns (Namespace.provenance_mem_of_interfaces hi))

theorem origin_of_mem_classes {ns : Namespace} (hns : ns ∈ s.model.namespaces) {c : Class}
    (hc : c ∈ ns.classes) : P c.provenance.origin :=
  hm _ (Model.provenances_namespaces_subset hns (Namespace.provenance_mem_of_classes hc))

theorem origin_of_mem_namedInstances {i : NamedInstance} (hi : i ∈ s.model.namedInstances) :
    P i.provenance.origin :=
  hm _ (Model.provenances_namedInstances_subset hi List.mem_cons_self)

theorem origin_of_mem_wirings {i : NamedInstance} (hi : i ∈ s.model.namedInstances)
    {w : Wiring × Provenance} (hw : w ∈ i.wirings) : P w.2.origin :=
  hm _ (Model.provenances_namedInstances_subset hi (NamedInstance.provenance_mem_of_wirings hw))

theorem origin_of_mem_typeEntries {e : TypeEntry} (he : e ∈ typeEntries s.model) :
    P e.provenance.origin := by
  obtain ⟨ns, hns, hentry⟩ := List.mem_flatMap.mp he
  unfold typeEntriesOf at hentry
  split at hentry
  · exact absurd hentry List.not_mem_nil
  · rcases List.mem_append.mp hentry with hentry | hentry
    · obtain ⟨i, hi, rfl⟩ := List.mem_map.mp hentry
      exact origin_of_mem_interfaces hm hns (List.mem_filter.mp hi).1
    · obtain ⟨c, hc, rfl⟩ := List.mem_map.mp hentry
      exact origin_of_mem_classes hm hns (List.mem_filter.mp hc).1

theorem allAt_typeCollisions : AllAt (typeCollisions s.model) P := by
  refine .filterMap fun e he n hn => ?_
  obtain ⟨-, hnote⟩ := Option.ite_none_right_eq_some.mp hn
  exact Option.some.inj hnote ▸ origin_of_mem_typeEntries hm he

theorem allAt_instanceCollisions : AllAt (instanceCollisions s.model) P := by
  refine .filterMap fun i hi n hn => ?_
  obtain ⟨-, hnote⟩ := Option.ite_none_right_eq_some.mp hn
  exact Option.some.inj hnote ▸ origin_of_mem_namedInstances hm (List.mem_filter.mp hi).1

theorem allAt_invokerKeyNotes : AllAt (invokerKeyNotes s.model) P := by
  refine .flatMap fun c hc => ?_
  obtain ⟨ns, hns, hclass⟩ := List.mem_flatMap.mp hc
  have hplace : P c.provenance.origin :=
    origin_of_mem_classes hm (List.mem_filter.mp hns).1 (List.mem_filter.mp hclass).1
  exact .append (.ite (.single hplace) .nil) (.ite .nil (.single hplace))

theorem allAt_orderingNotes : AllAt (orderingNotes s) P := by
  refine .flatMap fun ⟨i, k⟩ hi => .ite .nil (.flatMap fun w hw => ?_)
  have hplace := origin_of_mem_wirings hm (List.fst_mem_of_mem_zipIdx hi) hw
  unfold orderNotes
  cases w.1 with
  | value => exact .nil
  | instanceOf target =>
    refine .ite .nil ?_
    cases s.index.instancePosition? target with
    | none => exact .single hplace
    | some j => exact .ite (.single hplace) .nil

end

/-! ### References of the declarations -/

theorem allAt_exposedInterfaceNotes {c : Declared.Class} (h : c.LiesIn P) :
    AllAt (exposedInterfaceNotes s c) P := by
  unfold exposedInterfaceNotes
  cases href : c.interfaceRef with
  | none => exact .nil
  | some ref => exact .ite (.single (h.interfaceRef ref href)) .nil

theorem allAt_interfaceTypeNotes {i : NamedInstance} {t : TypeRef} {ref : Declared.Reference}
    (h : P ref.text.origin) : AllAt (interfaceTypeNotes s i t ref) P := by
  refine .ite .nil (.ite (.single h) ?_)
  cases s.class? i.classType.base with
  | none => exact .nil
  | some c => exact .ite (.single h) .nil

theorem allAt_instanceTypeNotes {i : NamedInstance} {d : Declared.NamedInstance}
    (h : d.LiesIn P) : AllAt (instanceTypeNotes s i d) P := by
  refine .ite .nil (.append (.ite (.single h.classRef) .nil) ?_)
  cases i.interfaceType with
  | none => exact .nil
  | some t =>
    cases href : d.interfaceRef with
    | none => exact .nil
    | some ref => exact allAt_interfaceTypeNotes (h.interfaceRef ref href)

theorem allAt_resolutionNotes (hd : s.declared.LiesIn P) : AllAt (resolutionNotes s) P := by
  apply AllAt.append
  · refine .flatMap fun ns hns => .flatMap fun c hc => ?_
    exact allAt_exposedInterfaceNotes ((hd.namespaces ns hns).classes c hc)
  · refine .flatMap fun ⟨i, d⟩ hpair => ?_
    exact allAt_instanceTypeNotes (hd.namedInstances d (List.of_mem_zip hpair).2)

/-! ### Wirings -/

theorem allAt_interfaceWiringNotes {a : Assignment} {expected : TypeRef}
    (h : P a.provenance.origin) : AllAt (interfaceWiringNotes s a expected) P := by
  unfold interfaceWiringNotes
  cases a.wiring with
  | value literal => exact .ite .nil (.single h)
  | instanceOf target =>
    dsimp only
    cases s.instance? target with
    | none => exact .nil
    | some i => exact .ite (.single h) .nil

theorem allAt_assignmentNotes {inst : NamedInstance} {c : Class} {assigned : List String}
    {items : List Assignment} (h : ∀ a ∈ items, P a.provenance.origin) :
    AllAt (assignmentNotes s inst c assigned items).1 P := by
  induction items generalizing assigned with
  | nil => exact .nil
  | cons a items ih =>
    have ha := h a List.mem_cons_self
    -- What was assigned before decides which notes are made, but not where.
    have hrest : ∀ assigned, AllAt (assignmentNotes s inst c assigned items).1 P := fun assigned =>
      ih fun b hb => h b (List.mem_cons_of_mem a hb)
    unfold assignmentNotes
    split
    · exact hrest assigned
    · split
      · exact .append (.single ha) (hrest assigned)
      · split
        · exact .append (.single ha) (hrest assigned)
        · refine .append ?_ (hrest _)
          split
          · exact allAt_interfaceWiringNotes ha
          · exact .nil

theorem allAt_elementNotes {inst : NamedInstance} {expected : TypeRef} {e : Element}
    (h : P e.provenance.origin) : AllAt (elementNotes s inst expected e) P := by
  unfold elementNotes
  cases e.wiring with
  | value => exact .nil
  | instanceOf target =>
    refine .ite .nil ?_
    cases s.instance? target with
    | none => exact .nil
    | some i => exact .ite (.single h) .nil

theorem allAt_unassignedNotes {inst : NamedInstance} {c : Class} {assigned : List String}
    (h : P inst.provenance.origin) : AllAt (unassignedNotes inst c assigned) P := by
  intro n hn
  obtain ⟨p, -, rfl⟩ := List.mem_map.mp hn
  exact h

include hm

theorem allAt_instanceWiringNotes {i : Nat} {inst : NamedInstance}
    (hi : inst ∈ s.model.namedInstances) : AllAt (instanceWiringNotes s i inst) P := by
  have hwirings : ∀ w ∈ inst.wirings, P w.2.origin := fun w hw => origin_of_mem_wirings hm hi hw
  unfold NamedInstance.wirings at hwirings
  refine .ite .nil ?_
  cases hinit : inst.initialization with
  | assignments items =>
    rw [hinit, List.forall_mem_map] at hwirings
    dsimp only
    cases s.instanceClass? i with
    | none => exact .nil
    | some c =>
      exact .append (allAt_assignmentNotes hwirings)
        (allAt_unassignedNotes (origin_of_mem_namedInstances hm hi))
  | elements items =>
    rw [hinit, List.forall_mem_map] at hwirings
    dsimp only
    cases elementInterface? s inst with
    | none => exact .nil
    | some t => exact .flatMap fun e he => allAt_elementNotes (hwirings e he)
  | default => exact .nil

/-- The checks name entities of the model and references of the declarations. -/
theorem allAt_notes (hd : s.declared.LiesIn P) : AllAt (Check.notes s) P := by
  have hwiring : AllAt (wiringNotes s) P :=
    .flatMap fun ⟨_, _⟩ hi => allAt_instanceWiringNotes hm (List.fst_mem_of_mem_zipIdx hi)
  exact (allAt_typeCollisions hm).append (allAt_instanceCollisions hm)
    |>.append (allAt_invokerKeyNotes hm) |>.append (allAt_resolutionNotes hd)
    |>.append (allAt_orderingNotes hm) |>.append hwiring

end Check

end DependencyWiring
