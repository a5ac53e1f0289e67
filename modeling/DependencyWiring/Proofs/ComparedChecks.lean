import DependencyWiring.Model.Compilation
import DependencyWiring.Proofs.ComparedModel

/-!
# Compared checks

The checks look at names and at positions in lists, and only name the places of what they judge. A
model elsewhere has the same names at the same positions, so what is noted on it compares, whatever
the comparison. With what is said of the builder, all that is made of declarations elsewhere is what
is made of them here.
-/
namespace DependencyWiring

namespace Check

variable (c : Comparison)

/-- What the checks look at, elsewhere. Positions in lists stay the same, so the index does too. -/
def Scope.relocate (m : Relocation) (s : Scope) : Scope :=
  ⟨s.model.relocate m, s.declared.relocate m, s.index⟩

theorem notes_noteOn {finding : Finding} (hf : finding.isUnknownKey = false) (p : Provenance) :
    c.notes [noteOn finding p] [noteOn finding (c.provenance p)] := by
  unfold noteOn
  rw [c.origin_provenance]
  exact c.single p.origin hf

/-! ## Collisions and keys -/

def TypeEntry.relocate (m : Relocation) (e : TypeEntry) : TypeEntry :=
  { e with provenance := m.provenance e.provenance }

theorem typeEntries_relocate (m : Relocation) (x : Model) :
    typeEntries (x.relocate m) = (typeEntries x).map (TypeEntry.relocate m) := by
  have hentries : ∀ ns : Namespace,
      typeEntriesOf (ns.relocate m) = (typeEntriesOf ns).map (TypeEntry.relocate m) := by
    intro ns
    have hname : (ns.relocate m).name = ns.name := rfl
    unfold typeEntriesOf
    rw [hname]
    split
    · rfl
    · simp only [Namespace.relocate, List.filter_map, List.map_map, List.map_append]
      rfl
  simp only [typeEntries, Model.relocate, List.flatMap_map, List.map_flatMap, hentries]

theorem notes_typeCollisions (x : Model) :
    c.notes (typeCollisions x) (typeCollisions (x.relocate c.toRelocation)) := by
  unfold typeCollisions
  rw [typeEntries_relocate]
  refine c.notes_filterMap fun e _ => ?_
  have hcount : ((typeEntries x).map (TypeEntry.relocate c.toRelocation)).countP
      (e.relocate c.toRelocation).collides = (typeEntries x).countP e.collides := by
    rw [List.countP_map]
    rfl
  rw [hcount]
  dsimp only
  split
  · exact notes_noteOn c rfl e.provenance
  · exact c.nil

theorem namedOnes_relocate (m : Relocation) (x : Model) :
    namedOnes (x.relocate m) = (namedOnes x).map (NamedInstance.relocate m) := by
  simp only [namedOnes, Model.relocate, List.filter_map]
  rfl

theorem notes_instanceCollisions (x : Model) :
    c.notes (instanceCollisions x) (instanceCollisions (x.relocate c.toRelocation)) := by
  unfold instanceCollisions
  rw [namedOnes_relocate]
  refine c.notes_filterMap fun i _ => ?_
  have hcount : ((namedOnes x).map (NamedInstance.relocate c.toRelocation)).countP
      (instancesCollide (i.relocate c.toRelocation)) =
      (namedOnes x).countP (instancesCollide i) := by
    rw [List.countP_map]
    rfl
  rw [hcount]
  split
  · exact notes_noteOn c rfl i.provenance
  · exact c.nil

theorem invokedClasses_relocate (m : Relocation) (x : Model) :
    invokedClasses (x.relocate m) = (invokedClasses x).map (Class.relocate m) := by
  have hclasses : ∀ ns : Namespace, ((ns.relocate m).classes.filter fun d => !d.isPlaceholder) =
      (ns.classes.filter fun d => !d.isPlaceholder).map (Class.relocate m) := by
    intro ns
    simp only [Namespace.relocate, List.filter_map]
    rfl
  have hnamed : ((fun ns : Namespace => !Placeholder.isPlaceholder ns.name) ∘
      Namespace.relocate m) = fun ns => !Placeholder.isPlaceholder ns.name := rfl
  simp only [invokedClasses, Model.relocate, List.filter_map, List.flatMap_map, List.map_flatMap,
    hclasses, hnamed]

theorem otherOwners_relocate (m : Relocation) (classes : List Class) (d : Class) :
    otherOwners (classes.map (Class.relocate m)) (d.relocate m) = otherOwners classes d := by
  simp only [otherOwners, List.filter_map, List.map_map]
  rfl

theorem notes_invokerKeyNotes (x : Model) :
    c.notes (invokerKeyNotes x) (invokerKeyNotes (x.relocate c.toRelocation)) := by
  unfold invokerKeyNotes
  rw [invokedClasses_relocate]
  refine c.notes_flatMap fun d _ => ?_
  rw [otherOwners_relocate]
  apply c.append
  · exact c.notes_ite (notes_noteOn c rfl d.provenance) c.nil
  · exact c.notes_ite c.nil (notes_noteOn c rfl d.provenance)

/-! ## Lookups -/

section

variable (m : Relocation) (s : Scope)

theorem class_relocate (qualifiedName : String) :
    (s.relocate m).class? qualifiedName = (s.class? qualifiedName).map (Class.relocate m) := by
  unfold Scope.class?
  have hindex : (s.relocate m).index = s.index := rfl
  rw [hindex]
  cases s.index.classes.lookup qualifiedName with
  | none => rfl
  | some position =>
    obtain ⟨n, k⟩ := position
    simp only [Scope.relocate, Model.relocate, Option.bind_eq_bind, Option.bind_some,
      List.getElem?_map]
    cases s.model.namespaces[n]? with
    | none => rfl
    | some ns => simp [Namespace.relocate]

theorem instance_relocate (name : String) :
    (s.relocate m).instance? name = (s.instance? name).map (NamedInstance.relocate m) := by
  unfold Scope.instance?
  have hindex : (s.relocate m).index = s.index := rfl
  rw [hindex]
  cases s.index.instancePosition? name <;> simp [Scope.relocate, Model.relocate]

theorem exposedInterface_relocate (i : NamedInstance) :
    (s.relocate m).exposedInterface? (i.relocate m) = s.exposedInterface? i := by
  obtain ⟨name, classType, interfaceType, initialization, isValid, provenance⟩ := i
  unfold Scope.exposedInterface?
  cases interfaceType with
  | some t => rfl
  | none =>
    simp only [NamedInstance.relocate, class_relocate, Option.bind_eq_bind]
    cases s.class? classType.base <;> rfl

theorem instanceClass_relocate (i : Nat) :
    (s.relocate m).instanceClass? i = (s.instanceClass? i).map (Class.relocate m) := by
  unfold Scope.instanceClass?
  simp only [Option.bind_eq_bind]
  have hdeclared : (s.relocate m).declared.namedInstances[i]? =
      (s.declared.namedInstances[i]?).map (Declared.NamedInstance.relocate m) := List.getElem?_map
  have hmodel : (s.relocate m).model.namedInstances[i]? =
      (s.model.namedInstances[i]?).map (NamedInstance.relocate m) := List.getElem?_map
  rw [hdeclared, hmodel]
  cases s.declared.namedInstances[i]? with
  | none => rfl
  | some d =>
    cases s.model.namedInstances[i]? with
    | none => rfl
    | some inst =>
      simp only [Option.map_some, Option.bind_some]
      have husable : (d.relocate m).classRef.isUsable = d.classRef.isUsable := rfl
      have htype : (inst.relocate m).classType = inst.classType := rfl
      rw [husable, htype, class_relocate]
      split <;> rfl

theorem elementInterface_relocate (inst : NamedInstance) :
    elementInterface? (s.relocate m) (inst.relocate m) = elementInterface? s inst := rfl

theorem wirings_relocate (i : NamedInstance) :
    (i.relocate m).wirings = i.wirings.map fun w => (w.1, m.provenance w.2) := by
  obtain ⟨name, classType, interfaceType, initialization, isValid, provenance⟩ := i
  cases initialization <;>
    simp [NamedInstance.wirings, NamedInstance.relocate, Initialization.relocate,
      Assignment.relocate, Element.relocate]

end

/-! ## References and order -/

variable (s : Scope)

theorem notes_exposedInterfaceNotes (d : Declared.Class) :
    c.notes (exposedInterfaceNotes s d)
      (exposedInterfaceNotes (s.relocate c.toRelocation) (d.relocate c.toRelocation)) := by
  obtain ⟨name, interfaceRef, parameters, placeholder, provenance⟩ := d
  cases interfaceRef with
  | none => exact c.nil
  | some ref => exact c.notes_ite (c.single _ rfl) c.nil

theorem notes_classTypeNotes (i : NamedInstance) (ref : Declared.Reference) :
    c.notes (classTypeNotes s i ref)
      (classTypeNotes (s.relocate c.toRelocation) (i.relocate c.toRelocation)
        (ref.relocate c.toRelocation)) :=
  c.notes_ite (c.single _ rfl) c.nil

theorem notes_interfaceTypeNotes (i : NamedInstance) (t : TypeRef) (ref : Declared.Reference) :
    c.notes (interfaceTypeNotes s i t ref)
      (interfaceTypeNotes (s.relocate c.toRelocation) (i.relocate c.toRelocation) t
        (ref.relocate c.toRelocation)) := by
  refine c.notes_ite c.nil (c.notes_ite (c.single _ rfl) ?_)
  have htype : (i.relocate c.toRelocation).classType = i.classType := rfl
  rw [htype, class_relocate]
  cases s.class? i.classType.base with
  | none => exact c.nil
  | some d => exact c.notes_ite (c.single _ rfl) c.nil

theorem notes_instanceTypeNotes (i : NamedInstance) (d : Declared.NamedInstance) :
    c.notes (instanceTypeNotes s i d)
      (instanceTypeNotes (s.relocate c.toRelocation) (i.relocate c.toRelocation)
        (d.relocate c.toRelocation)) := by
  refine c.notes_ite c.nil (c.append (notes_classTypeNotes c s i d.classRef) ?_)
  obtain ⟨name, classType, interfaceType, initialization, isValid, provenance⟩ := i
  obtain ⟨name', classRef, interfaceRef, assignments, elements, placeholder, provenance'⟩ := d
  cases interfaceType with
  | none => exact c.nil
  | some t =>
    cases interfaceRef with
    | none => exact c.nil
    | some ref => exact notes_interfaceTypeNotes c s _ t ref

theorem notes_resolutionNotes :
    c.notes (resolutionNotes s) (resolutionNotes (s.relocate c.toRelocation)) := by
  apply c.append
  · refine c.notes_flatMap fun ns _ => ?_
    exact c.notes_flatMap fun d _ => notes_exposedInterfaceNotes c s d
  · have hzip : (s.relocate c.toRelocation).model.namedInstances.zip
        (s.relocate c.toRelocation).declared.namedInstances =
        (s.model.namedInstances.zip s.declared.namedInstances).map
          (Prod.map (NamedInstance.relocate c.toRelocation)
            (Declared.NamedInstance.relocate c.toRelocation)) := List.zip_map
    rw [hzip]
    refine c.notes_flatMap fun p _ => ?_
    exact notes_instanceTypeNotes c s p.1 p.2

/-- The instances elsewhere are at the same positions. -/
theorem zipIdx_namedInstances_relocate (m : Relocation) :
    (s.relocate m).model.namedInstances.zipIdx =
      s.model.namedInstances.zipIdx.map (Prod.map (NamedInstance.relocate m) id) := by
  simp only [Scope.relocate, Model.relocate, List.zipIdx_map]

theorem notes_orderNotes (i : Nat) (inst : NamedInstance) (w : Wiring × Provenance) :
    c.notes (orderNotes s i inst w)
      (orderNotes (s.relocate c.toRelocation) i (inst.relocate c.toRelocation)
        (w.1, c.provenance w.2)) := by
  obtain ⟨wiring, provenance⟩ := w
  unfold orderNotes
  cases wiring with
  | value => exact c.nil
  | instanceOf target =>
    refine c.notes_ite c.nil ?_
    have hindex : (s.relocate c.toRelocation).index = s.index := rfl
    rw [hindex]
    cases s.index.instancePosition? target with
    | none => exact notes_noteOn c rfl provenance
    | some j => exact c.notes_ite (notes_noteOn c rfl provenance) c.nil

theorem notes_orderingNotes :
    c.notes (orderingNotes s) (orderingNotes (s.relocate c.toRelocation)) := by
  unfold orderingNotes
  rw [zipIdx_namedInstances_relocate]
  refine c.notes_flatMap fun p _ => c.notes_ite c.nil ?_
  rw [wirings_relocate]
  exact c.notes_flatMap fun w _ => notes_orderNotes c s p.2 p.1 w

/-! ## Wirings -/

theorem notes_interfaceWiringNotes (a : Assignment) (expected : TypeRef) :
    c.notes (interfaceWiringNotes s a expected)
      (interfaceWiringNotes (s.relocate c.toRelocation) (a.relocate c.toRelocation) expected) := by
  obtain ⟨parameterName, wiring, isValid, provenance⟩ := a
  unfold interfaceWiringNotes
  cases wiring with
  | value literal => exact c.notes_ite c.nil (notes_noteOn c rfl provenance)
  | instanceOf target =>
    simp only [Assignment.relocate, instance_relocate]
    cases s.instance? target with
    | none => exact c.nil
    | some i =>
      simp only [Option.map_some, exposedInterface_relocate]
      exact c.notes_ite (notes_noteOn c rfl provenance) c.nil

theorem parameter_relocate (m : Relocation) (d : Class) (name : String) :
    (d.relocate m).parameter? name = (d.parameter? name).map (Parameter.relocate m) := by
  simp only [Class.parameter?, Class.relocate, List.find?_map]
  rfl

/-- The names that were assigned stay the same, and with them which notes are made. -/
theorem notes_assignmentNotes (inst : NamedInstance) (d : Class) (assigned : List String)
    (items : List Assignment) :
    c.notes (assignmentNotes s inst d assigned items).1
        (assignmentNotes (s.relocate c.toRelocation) (inst.relocate c.toRelocation)
          (d.relocate c.toRelocation) assigned
          (items.map (Assignment.relocate c.toRelocation))).1 ∧
      (assignmentNotes (s.relocate c.toRelocation) (inst.relocate c.toRelocation)
          (d.relocate c.toRelocation) assigned
          (items.map (Assignment.relocate c.toRelocation))).2 =
        (assignmentNotes s inst d assigned items).2 := by
  induction items generalizing assigned with
  | nil => exact ⟨c.nil, rfl⟩
  | cons a items ih =>
    have hname : (a.relocate c.toRelocation).parameterName = a.parameterName := rfl
    rw [List.map_cons]
    unfold assignmentNotes
    rw [hname, parameter_relocate]
    split
    · exact ih assigned
    · cases d.parameter? a.parameterName with
      | none => exact ⟨c.append (notes_noteOn c rfl a.provenance) (ih assigned).1, (ih assigned).2⟩
      | some p =>
        simp only [Option.map_some]
        split
        · exact ⟨c.append (notes_noteOn c rfl a.provenance) (ih assigned).1, (ih assigned).2⟩
        · refine ⟨c.append ?_ (ih _).1, (ih _).2⟩
          obtain ⟨name, type, isValid, provenance⟩ := p
          cases type with
          | classType t => exact c.nil
          | interfaceType t => exact notes_interfaceWiringNotes c s a t

theorem notes_unassignedNotes (inst : NamedInstance) (d : Class) (assigned : List String) :
    c.notes (unassignedNotes inst d assigned)
      (unassignedNotes (inst.relocate c.toRelocation) (d.relocate c.toRelocation) assigned) := by
  have hflatMap : ∀ (inst : NamedInstance) (d : Class), unassignedNotes inst d assigned =
      (d.parameters.filter fun p =>
        !(Placeholder.isPlaceholder p.name || assigned.contains p.name)).flatMap
        fun p => [noteOn (.unassignedParameter p.name d.qualifiedName inst.name)
          inst.provenance] := by
    intro inst d
    rw [unassignedNotes, List.map_eq_flatMap]
  rw [hflatMap, hflatMap]
  simp only [Class.relocate, List.filter_map]
  refine c.notes_flatMap fun p _ => ?_
  exact notes_noteOn c rfl inst.provenance

theorem notes_elementNotes (inst : NamedInstance) (expected : TypeRef) (e : Element) :
    c.notes (elementNotes s inst expected e)
      (elementNotes (s.relocate c.toRelocation) (inst.relocate c.toRelocation) expected
        (e.relocate c.toRelocation)) := by
  obtain ⟨wiring, isValid, provenance⟩ := e
  unfold elementNotes
  cases wiring with
  | value => exact c.nil
  | instanceOf target =>
    simp only [Element.relocate, instance_relocate]
    refine c.notes_ite c.nil ?_
    cases s.instance? target with
    | none => exact c.nil
    | some i =>
      simp only [Option.map_some, exposedInterface_relocate]
      exact c.notes_ite (notes_noteOn c rfl provenance) c.nil

theorem notes_instanceWiringNotes (i : Nat) (inst : NamedInstance) :
    c.notes (instanceWiringNotes s i inst)
      (instanceWiringNotes (s.relocate c.toRelocation) i (inst.relocate c.toRelocation)) := by
  refine c.notes_ite c.nil ?_
  obtain ⟨name, classType, interfaceType, initialization, isValid, provenance⟩ := inst
  cases initialization with
  | default => exact c.nil
  | assignments items =>
    simp only [NamedInstance.relocate, Initialization.relocate, instanceClass_relocate]
    cases s.instanceClass? i with
    | none => exact c.nil
    | some d =>
      obtain ⟨hnotes, hassigned⟩ := notes_assignmentNotes c s
        ⟨name, classType, interfaceType, .assignments items, isValid, provenance⟩ d [] items
      refine c.append hnotes ?_
      simp only [NamedInstance.relocate, Initialization.relocate] at hassigned
      rw [hassigned]
      exact notes_unassignedNotes c _ d _
  | elements items =>
    have hinterface := elementInterface_relocate c.toRelocation s
      ⟨name, classType, interfaceType, .elements items, isValid, provenance⟩
    simp only [NamedInstance.relocate, Initialization.relocate] at hinterface ⊢
    rw [hinterface]
    cases elementInterface? s
        ⟨name, classType, interfaceType, .elements items, isValid, provenance⟩ with
    | none => exact c.nil
    | some t => exact c.notes_flatMap fun e _ => notes_elementNotes c s _ t e

theorem notes_wiringNotes :
    c.notes (wiringNotes s) (wiringNotes (s.relocate c.toRelocation)) := by
  unfold wiringNotes
  rw [zipIdx_namedInstances_relocate]
  exact c.notes_flatMap fun p _ => notes_instanceWiringNotes c s p.2 p.1

/-- The checks note elsewhere what they note here. -/
theorem notes_relocate : c.notes (Check.notes s) (Check.notes (s.relocate c.toRelocation)) := by
  apply c.append
  · apply c.append
    · apply c.append
      · apply c.append
        · exact c.append (notes_typeCollisions c s.model) (notes_instanceCollisions c s.model)
        · exact notes_invokerKeyNotes c s.model
      · exact notes_resolutionNotes c s
    · exact notes_orderingNotes c s
  · exact notes_wiringNotes c s

end Check

/-! ## Judging -/

/-- The index holds names and positions, which stay the same. -/
theorem Declared.Index.ofModel_relocate (m : Relocation) (d : Declared.Model) :
    ofModel (d.relocate m) = ofModel d := by
  have hclasses : ∀ (k : Nat) (ns : Namespace),
      classEntries k (ns.relocate m) = classEntries k ns := by
    intro k ns
    simp only [classEntries, Namespace.relocate, List.zipIdx_map, List.filterMap_map]
    rfl
  have hinterfaces : ∀ (k : Nat) (ns : Namespace),
      interfaceEntries k (ns.relocate m) = interfaceEntries k ns := by
    intro k ns
    simp only [interfaceEntries, Namespace.relocate, List.zipIdx_map, List.filterMap_map]
    rfl
  have hinstances : instanceEntries (d.relocate m).namedInstances =
      instanceEntries d.namedInstances := by
    simp only [instanceEntries, Model.relocate, List.zipIdx_map, List.filterMap_map]
    rfl
  unfold ofModel
  rw [hinstances]
  simp only [Model.relocate, List.zipIdx_map, List.flatMap_map, Prod.map, id, hclasses, hinterfaces]

/-- What is made of declarations elsewhere is what is made of them here, elsewhere. -/
theorem Model.judge_relocate (c : Comparison) {options options' : Options}
    (h : c.Carries (options.stamp .transform) (options'.stamp .transform)) (d : Declared.Model) :
    (judge options' (d.relocate c.toRelocation)).model =
        (judge options d).model.relocate c.toRelocation ∧
      c.notes (judge options d).built (judge options' (d.relocate c.toRelocation)).built ∧
      c.notes (judge options d).checked (judge options' (d.relocate c.toRelocation)).checked := by
  have hbuilt := matches_build h d
  have hchecked := Check.notes_relocate c
    ⟨(judge options d).model, d, Declared.Index.ofModel d⟩
  refine ⟨hbuilt.value, hbuilt.notes, ?_⟩
  have hscope : (⟨(judge options' (d.relocate c.toRelocation)).model, d.relocate c.toRelocation,
      Declared.Index.ofModel (d.relocate c.toRelocation)⟩ : Check.Scope) =
      Check.Scope.relocate c.toRelocation
        ⟨(judge options d).model, d, Declared.Index.ofModel d⟩ := by
    rw [Declared.Index.ofModel_relocate]
    exact congrArg (fun x => Check.Scope.mk x _ _) hbuilt.value
  rw [← hscope] at hchecked
  exact hchecked

end DependencyWiring
