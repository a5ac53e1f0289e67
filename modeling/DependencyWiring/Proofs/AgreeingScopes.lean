import DependencyWiring.Check
import Mathlib.Data.List.Basic

/-!
# Scopes that find the same

The checks of instances see the types of a document through lookups alone. Two scopes that have the
same instances, and find the same for the types these refer to, get the same notes from them.
-/
namespace DependencyWiring.Check

namespace Scope

/-- The scopes have the same instances, and find the same for the types these refer to. -/
structure FindsAlike (s s' : Scope) : Prop where
  positions : s'.index.instances = s.index.instances
  namedInstances : s'.model.namedInstances = s.model.namedInstances
  declared : s'.declared.namedInstances = s.declared.namedInstances
  class_eq : ∀ i ∈ s.model.namedInstances,
    s'.class? i.classType.base = s.class? i.classType.base
  hasClass : ∀ i ∈ s.model.namedInstances,
    s'.index.hasClass i.classType.base = s.index.hasClass i.classType.base
  hasInterface : ∀ i ∈ s.model.namedInstances,
    s'.index.hasInterface i.classType.base = s.index.hasInterface i.classType.base
  hasInterfaceType : ∀ i ∈ s.model.namedInstances, ∀ t ∈ i.interfaceType,
    s'.index.hasInterface t.base = s.index.hasInterface t.base

namespace FindsAlike

variable {s s' : Scope} (h : s.FindsAlike s')

include h

theorem instancePosition_eq (name : String) :
    s'.index.instancePosition? name = s.index.instancePosition? name := by
  rw [Declared.Index.instancePosition?, Declared.Index.instancePosition?, h.positions]

theorem instance_eq (name : String) : s'.instance? name = s.instance? name := by
  rw [instance?, instance?, h.instancePosition_eq, h.namedInstances]

omit h in
theorem mem_of_instance {name : String} {i : NamedInstance} (hi : s.instance? name = some i) :
    i ∈ s.model.namedInstances := by
  obtain ⟨k, -, hk⟩ := Option.bind_eq_some_iff.mp hi
  exact List.mem_of_getElem? hk

theorem instanceClass_eq (k : Nat) : s'.instanceClass? k = s.instanceClass? k := by
  unfold instanceClass?
  rw [h.declared, h.namedInstances]
  cases s.declared.namedInstances[k]? with
  | none => rfl
  | some d =>
    cases hk : s.model.namedInstances[k]? with
    | none => rfl
    | some i =>
      change (if _ then none else s'.class? i.classType.base) = if _ then none else _
      rw [h.class_eq i (List.mem_of_getElem? hk)]

variable {i : NamedInstance} (hi : i ∈ s.model.namedInstances)

include hi

theorem exposedInterface_eq : s'.exposedInterface? i = s.exposedInterface? i := by
  unfold exposedInterface?
  rw [h.class_eq i hi]

end FindsAlike

end Scope

variable {s s' : Scope} (h : s.FindsAlike s')

include h

/-! ## Types of instances -/

theorem instanceTypeNotes_eq {i : NamedInstance} (hi : i ∈ s.model.namedInstances)
    (d : Declared.NamedInstance) : instanceTypeNotes s' i d = instanceTypeNotes s i d := by
  have hclass (r : Declared.Reference) : classTypeNotes s' i r = classTypeNotes s i r := by
    unfold classTypeNotes isDeclaredType
    rw [h.hasClass i hi, h.hasInterface i hi]
  unfold instanceTypeNotes
  rw [hclass]
  cases ht : i.interfaceType with
  | none => rfl
  | some t =>
    cases d.interfaceRef with
    | none => rfl
    | some r =>
      dsimp only
      unfold interfaceTypeNotes
      rw [h.hasInterfaceType i hi t ht, h.class_eq i hi]

/-! ## Order -/

theorem orderingNotes_eq : orderingNotes s' = orderingNotes s := by
  have horder (k : Nat) (inst : NamedInstance) (w : Wiring × Provenance) :
      orderNotes s' k inst w = orderNotes s k inst w := by
    unfold orderNotes
    simp only [h.instancePosition_eq]
  unfold orderingNotes
  rw [h.namedInstances]
  have hnotes : orderNotes s' = orderNotes s :=
    funext fun k => funext fun inst => funext fun w => horder k inst w
  rw [hnotes]

/-! ## Wirings -/

theorem interfaceWiringNotes_eq (a : Assignment) (t : TypeRef) :
    interfaceWiringNotes s' a t = interfaceWiringNotes s a t := by
  unfold interfaceWiringNotes
  cases a.wiring with
  | value literal => rfl
  | instanceOf target =>
    dsimp only
    rw [h.instance_eq]
    cases htarget : s.instance? target with
    | none => rfl
    | some i =>
      dsimp only
      rw [h.exposedInterface_eq (Scope.FindsAlike.mem_of_instance htarget)]

theorem elementNotes_eq (inst : NamedInstance) (t : TypeRef) (e : Element) :
    elementNotes s' inst t e = elementNotes s inst t e := by
  unfold elementNotes
  cases e.wiring with
  | value literal => rfl
  | instanceOf target =>
    dsimp only
    rw [h.instance_eq]
    cases htarget : s.instance? target with
    | none => rfl
    | some i =>
      dsimp only
      rw [h.exposedInterface_eq (Scope.FindsAlike.mem_of_instance htarget)]

theorem assignmentNotes_eq (inst : NamedInstance) (c : Class) (assigned : List String)
    (items : List Assignment) :
    assignmentNotes s' inst c assigned items = assignmentNotes s inst c assigned items := by
  induction items generalizing assigned with
  | nil => rfl
  | cons a items ih =>
    unfold assignmentNotes
    simp only [ih, interfaceWiringNotes_eq h]

theorem instanceWiringNotes_eq {inst : NamedInstance} (hinst : inst ∈ s.model.namedInstances)
    (k : Nat) : instanceWiringNotes s' k inst = instanceWiringNotes s k inst := by
  have helement : elementInterface? s' inst = elementInterface? s inst := by
    unfold elementInterface?
    rw [h.hasInterface inst hinst]
  unfold instanceWiringNotes
  simp only [h.instanceClass_eq, assignmentNotes_eq h, helement, funext (elementNotes_eq h inst _)]

theorem wiringNotes_eq : wiringNotes s' = wiringNotes s := by
  unfold wiringNotes
  rw [h.namedInstances]
  exact List.flatMap_congr fun p hp =>
    instanceWiringNotes_eq h (List.fst_mem_of_mem_zipIdx hp) p.2

end DependencyWiring.Check
