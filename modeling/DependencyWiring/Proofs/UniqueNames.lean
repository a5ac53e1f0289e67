import DependencyWiring.Proofs.AcceptedDocuments
import Mathlib.Data.List.Flatten
import Mathlib.Data.List.Nodup

/-!
# Unique names

Collisions of types are searched for by namespace and short name, and shared keys of invokers by
qualified name. Neither search compares the qualified names of two types. They are distinct all the
same, because a qualified name determines the two parts it is made of, and then a key that no other
name has belongs to one class.
-/
namespace DependencyWiring

/-! ## Searching by unique names -/

/-- Where no two things share a key, a search for a key finds the thing that has it. -/
theorem find_key_eq_some_iff {α : Type} {key : α → String} {as : List α}
    (has : (as.map key).Nodup) {k : String} {a : α} :
    as.find? (fun x => key x = k) = some a ↔ a ∈ as ∧ key a = k := by
  constructor
  · intro h
    exact ⟨List.mem_of_find?_eq_some h, by simpa using List.find?_some h⟩
  · rintro ⟨ha, rfl⟩
    cases hfound : as.find? (fun x => key x = key a) with
    | none => exact absurd (List.find?_eq_none.mp hfound a ha) (by simp)
    | some b =>
      have hkey : key b = key a := by simpa using List.find?_some hfound
      rw [List.inj_on_of_nodup_map has (List.mem_of_find?_eq_some hfound) ha hkey]

theorem Model.class_eq_some_iff {m : Model} (h : (m.classes.map Class.qualifiedName).Nodup)
    {q : String} {c : Class} : m.class? q = some c ↔ c ∈ m.classes ∧ c.qualifiedName = q :=
  find_key_eq_some_iff h

theorem Class.parameter_eq_some_iff {c : Class} (h : (c.parameters.map Parameter.name).Nodup)
    {name : String} {p : Parameter} :
    c.parameter? name = some p ↔ p ∈ c.parameters ∧ p.name = name :=
  find_key_eq_some_iff h

/-- Where every element is counted once among those of its key, the keys are distinct. -/
theorem forall_countP_key_le_one_iff {α κ : Type} [DecidableEq κ] (key : α → κ) (as : List α) :
    (∀ a ∈ as, as.countP (fun b => decide (key a = key b)) ≤ 1) ↔ (as.map key).Nodup := by
  have hcount : ∀ a, (as.map key).count (key a) = as.countP fun b => decide (key a = key b) := by
    intro a
    rw [List.count, List.countP_map]
    refine List.countP_congr fun b _ => ?_
    simpa using eq_comm
  rw [List.nodup_iff_count_le_one]
  constructor
  · intro h k
    by_cases hk : k ∈ as.map key
    · obtain ⟨a, ha, rfl⟩ := List.mem_map.mp hk
      exact hcount a ▸ h a ha
    · simp [List.count_eq_zero_of_not_mem hk]
  · intro h a _
    exact hcount a ▸ h (key a)

/-! ## Names of types -/

namespace Model

/-- The qualified names of all types, block by block, with the repeated ones. -/
def typeNames (m : Model) : List String :=
  m.namespaces.flatMap fun ns =>
    ns.interfaces.map Interface.qualifiedName ++ ns.classes.map Class.qualifiedName

/-- The names of classes are some of the names of types. -/
theorem classNames_sublist (m : Model) :
    (m.classes.map Class.qualifiedName).Sublist m.typeNames := by
  rw [classes, List.map_flatMap, typeNames]
  exact List.Sublist.flatMap_right _ fun ns _ => List.sublist_append_right _ _

end Model

namespace Check

/-- The names of an entry are parts of a qualified name. -/
structure TypeEntry.IsSound (e : TypeEntry) : Prop where
  namespaceName : Name.isSimpleOrQualified e.namespaceName = true
  name : Name.isSimple e.name = true
  qualifiedName : e.qualifiedName = Name.qualify e.namespaceName e.name

/-- Entries with one qualified name have the same names. -/
theorem TypeEntry.IsSound.names_eq {a b : TypeEntry} (ha : a.IsSound) (hb : b.IsSound)
    (h : a.qualifiedName = b.qualifiedName) :
    (a.namespaceName, a.name) = (b.namespaceName, b.name) := by
  rw [ha.qualifiedName, hb.qualifiedName] at h
  obtain ⟨hns, hname⟩ := Name.qualify_inj
    (Name.ne_empty_of_isSimpleOrQualified ha.namespaceName)
    (Name.ne_empty_of_isSimpleOrQualified hb.namespaceName)
    (Name.dot_not_mem ha.name) (Name.dot_not_mem hb.name) h
  rw [hns, hname]

/-- In a sound namespace every type has an entry. -/
theorem typeEntriesOf_eq {ns : Namespace} (h : ns.IsSound) :
    typeEntriesOf ns =
      ns.interfaces.map (fun i => ⟨.interfaceType, ns.name, i.name, i.qualifiedName,
        i.provenance⟩) ++
      ns.classes.map (fun c => ⟨.classType, ns.name, c.name, c.qualifiedName,
        c.provenance⟩) := by
  have hns : Placeholder.isPlaceholder ns.name = false :=
    Placeholder.isPlaceholder_of_bracket_not_mem (Name.bracket_not_mem h.name)
  have hinterfaces : ∀ i ∈ ns.interfaces, (!Placeholder.isPlaceholder i.name) = true := by
    intro i hi
    simp [Placeholder.isPlaceholder_of_isSimple (h.interfaces i hi).name]
  have hclasses : ∀ c ∈ ns.classes, (!c.isPlaceholder) = true := by
    intro c hc
    simp [Class.isPlaceholder, Placeholder.isPlaceholder_of_isSimple (h.classes c hc).name]
  simp only [typeEntriesOf, hns, Bool.false_eq_true, if_false, List.filter_eq_self.mpr hinterfaces,
    List.filter_eq_self.mpr hclasses]

theorem typeEntries_sound {m : Model} (h : m.IsSound) : ∀ e ∈ typeEntries m, e.IsSound := by
  intro e he
  obtain ⟨ns, hns, hmem⟩ := List.mem_flatMap.mp he
  have hsound := h.namespaces ns hns
  rw [typeEntriesOf_eq hsound] at hmem
  rcases List.mem_append.mp hmem with hmem | hmem
  · obtain ⟨i, hi, rfl⟩ := List.mem_map.mp hmem
    have hi := hsound.interfaces i hi
    exact ⟨hsound.name, hi.name, hi.qualifiedName⟩
  · obtain ⟨c, hc, rfl⟩ := List.mem_map.mp hmem
    have hc := hsound.classes c hc
    exact ⟨hsound.name, hc.name, hc.qualifiedName⟩

theorem map_qualifiedName_typeEntries {m : Model} (h : m.IsSound) :
    (typeEntries m).map TypeEntry.qualifiedName = m.typeNames := by
  rw [typeEntries, List.map_flatMap, Model.typeNames]
  refine List.flatMap_congr fun ns hns => ?_
  rw [typeEntriesOf_eq (h.namespaces ns hns)]
  simp [Function.comp_def]

theorem noErrors_typeCollisions_iff (m : Model) : Note.NoErrors (typeCollisions m) ↔
    ((typeEntries m).map fun e => (e.namespaceName, e.name)).Nodup := by
  rw [← forall_countP_key_le_one_iff]
  have hcollides : ∀ a b : TypeEntry,
      a.collides b = decide ((a.namespaceName, a.name) = (b.namespaceName, b.name)) := by
    simp [TypeEntry.collides]
  unfold typeCollisions
  rw [Note.noErrors_filterMap (fun e => by simp)]
  simp only [Nat.not_lt, ← hcollides]

theorem noErrors_instanceCollisions_iff (m : Model) : Note.NoErrors (instanceCollisions m) ↔
    ((namedOnes m).map fun i => (i.namespaceName, i.name)).Nodup := by
  rw [← forall_countP_key_le_one_iff]
  have hcollide : ∀ a b : NamedInstance,
      instancesCollide a b = decide ((a.namespaceName, a.name) = (b.namespaceName, b.name)) := by
    simp [instancesCollide]
  unfold instanceCollisions
  rw [Note.noErrors_filterMap (fun i => by simp)]
  simp only [Nat.not_lt, ← hcollide]

/-- Without a collision the qualified names of types are distinct. -/
theorem typeNames_nodup {m : Model} (h : m.IsSound) (hnotes : Note.NoErrors (typeCollisions m)) :
    m.typeNames.Nodup := by
  have hnames := (noErrors_typeCollisions_iff m).mp hnotes
  rw [← map_qualifiedName_typeEntries h, List.nodup_map_iff_inj_on hnames.of_map]
  intro a ha b hb hsame
  exact List.inj_on_of_nodup_map hnames ha hb
    ((typeEntries_sound h a ha).names_eq (typeEntries_sound h b hb) hsame)

/-! ## Keys of invokers -/

/-- In a sound model every class is invoked. -/
theorem invokedClasses_eq {m : Model} (h : m.IsSound) : invokedClasses m = m.classes := by
  have hnamespaces : ∀ ns ∈ m.namespaces, (!Placeholder.isPlaceholder ns.name) = true := by
    intro ns hns
    simp [Placeholder.isPlaceholder_of_bracket_not_mem
      (Name.bracket_not_mem (h.namespaces ns hns).name)]
  rw [invokedClasses, List.filter_eq_self.mpr hnamespaces, Model.classes]
  refine List.flatMap_congr fun ns hns => List.filter_eq_self.mpr fun c hc => ?_
  have hname := ((h.namespaces ns hns).classes c hc).name
  simp [Class.isPlaceholder, Placeholder.isPlaceholder_of_isSimple hname]

/-- A class has its key for itself when no class of another name has it. -/
theorem otherOwners_eq_nil_iff {classes : List Class} {c : Class} :
    otherOwners classes c = [] ↔
      ∀ e ∈ classes, e.invokerKey = c.invokerKey → e.qualifiedName = c.qualifiedName := by
  simp only [List.eq_nil_iff_forall_not_mem, otherOwners, Text.mem_sortedDistinct, List.mem_map,
    List.mem_filter, not_exists, not_and]
  constructor
  · intro h e he hkey
    by_contra hname
    exact h e.qualifiedName e ⟨he, by simp [hkey, hname]⟩ rfl
  · rintro h q e ⟨he, hother⟩ -
    simp only [Bool.and_eq_true, decide_eq_true_eq] at hother
    exact hother.2 (h e he hother.1)

/-- Where classes have names of their own, the check finds no error exactly when they have keys of
their own. -/
theorem noErrors_invokerKeyNotes_iff {m : Model} (h : m.IsSound)
    (hkeys : ∀ c ∈ m.classes, Name.isSimple c.invokerKey = true)
    (hnames : (m.classes.map Class.qualifiedName).Nodup) :
    Note.NoErrors (invokerKeyNotes m) ↔ (m.classes.map Class.invokerKey).Nodup := by
  have howners : Note.NoErrors (invokerKeyNotes m) ↔
      ∀ c ∈ m.classes, otherOwners m.classes c = [] := by
    simp only [invokerKeyNotes, invokedClasses_eq h, Note.noErrors_flatMap, Note.noErrors_append]
    refine forall₂_congr fun c hc => ?_
    by_cases howners : otherOwners m.classes c = [] <;> simp [hkeys c hc, howners]
  rw [howners, List.nodup_map_iff_inj_on hnames.of_map]
  simp only [otherOwners_eq_nil_iff]
  constructor
  · intro hsame c hc e he hkey
    exact List.inj_on_of_nodup_map hnames hc he (hsame e he c hc hkey)
  · intro hinj c hc e he hkey
    rw [hinj e he c hc hkey]

end Check

namespace Model

variable (stamp : Stamp) {d : Declared.Model}

theorem mem_classes_build {c : Class} : c ∈ (build stamp d).value.classes ↔
    ∃ ns ∈ d.namespaces, ∃ e ∈ ns.classes, (buildClass stamp ns.name.value e).value = c := by
  simp [classes]

/-- The keys of all classes are identifiers when no namespace has an empty name. -/
theorem isSimple_invokerKey_build (hd : ∀ ns ∈ d.namespaces, ns.name.value ≠ "") {c : Class}
    (hc : c ∈ (build stamp d).value.classes) : Name.isSimple c.invokerKey = true := by
  obtain ⟨ns, hns, e, he, rfl⟩ := (mem_classes_build stamp).mp hc
  exact Name.isSimple_invokerKey_qualify (hd ns hns) e.name.value

/-- The key of a class that is built is an identifier. -/
theorem isSimple_invokerKey_of_mem (hd : d.IsSound) {c : Class}
    (hc : c ∈ (build stamp d).value.classes) : Name.isSimple c.invokerKey = true :=
  isSimple_invokerKey_build stamp (fun ns hns =>
    Name.ne_empty_of_isSimpleOrQualified (hd.namespaces ns hns).name.hasForm) hc

end Model

namespace Accepted

variable {stamp : Stamp} {d : Declared.Model} (h : Accepted stamp d)

include h

theorem typeNames_nodup : (Check.Scope.ofDeclared stamp d).model.typeNames.Nodup :=
  Check.typeNames_nodup h.model h.typeCollisions

theorem classNames_nodup :
    ((Check.Scope.ofDeclared stamp d).model.classes.map Class.qualifiedName).Nodup :=
  h.typeNames_nodup.sublist (Model.classNames_sublist _)

theorem invokerKeys_nodup :
    ((Check.Scope.ofDeclared stamp d).model.classes.map Class.invokerKey).Nodup :=
  (Check.noErrors_invokerKeyNotes_iff h.model
    (fun _ hc => Model.isSimple_invokerKey_of_mem stamp h.declared hc) h.classNames_nodup).mp
    h.invokerKeyNotes

theorem parameterNames_nodup {c : Class}
    (hc : c ∈ (Check.Scope.ofDeclared stamp d).model.classes) :
    (c.parameters.map Parameter.name).Nodup := by
  obtain ⟨ns, hns, hmem⟩ := List.mem_flatMap.mp hc
  exact ((h.model.namespaces ns hns).classes c hmem).parameters

end Accepted

namespace Model

/-- No two types share a qualified name, no two classes an invoker key, and no two parameters of a
class a name. -/
structure HasUniqueNames (m : Model) : Prop where
  types : m.typeNames.Nodup
  invokerKeys : (m.classes.map Class.invokerKey).Nodup
  parameters : ∀ c ∈ m.classes, (c.parameters.map Parameter.name).Nodup

theorem ofNode_hasUniqueNames {options : Options} {source : String} {root : Node}
    (h : (ofNode options source root).isGeneratable = true) :
    (ofNode options source root).HasUniqueNames := by
  obtain ⟨d, haccepted, diagnostics, he⟩ := exists_accepted h
  rw [he]
  exact ⟨haccepted.typeNames_nodup, haccepted.invokerKeys_nodup, fun c hc =>
    haccepted.parameterNames_nodup hc⟩

theorem linked_hasUniqueNames : (Sample.linked "First").HasUniqueNames :=
  ofNode_hasUniqueNames Sample.isGeneratable_linked

end Model

end DependencyWiring
