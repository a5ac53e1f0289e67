import DependencyWiring.Proofs.DistinctPlaces
import DependencyWiring.Proofs.InstanceNames
import DependencyWiring.Proofs.UniqueNames
import Mathlib.Data.Set.Card

/-!
# Reports on collisions

The checks for collisions gather entities from all blocks into one list and count in it. What they
report is said here slot by slot: an entity is reported once if an entity in another slot has the
same key, and not at all if there is none. Entities without names have no key, so they neither
collide nor are reported.
-/
namespace DependencyWiring

open Check

/-! ## One diagnostic on each -/

/-- If the diagnostics of a code are on some things, one on each, there are as many of both. -/
theorem Diagnostic.countP_eq_ncard {α : Type} {ds : List Diagnostic} {code : Code} {S : Set α}
    (location : α → String) (hlocation : Function.Injective location)
    (hone : ∀ s ∈ S, countAt ds code (location s) = 1)
    (honly : ∀ d ∈ ds, d.code = code → ∃ s ∈ S, d.location = location s) :
    ds.countP (fun d => d.code = code) = S.ncard := by
  let locations := (ds.filter (·.code = code)).map Diagnostic.location
  have hmem : ∀ l ∈ locations, ∃ s ∈ S, l = location s := by
    intro l hl
    obtain ⟨d, hd, rfl⟩ := List.mem_map.mp hl
    obtain ⟨hd, hcode⟩ := List.mem_filter.mp hd
    exact honly d hd (of_decide_eq_true hcode)
  have hcount : ∀ l, locations.count l = countAt ds code l := by
    intro l
    rw [List.count, List.countP_map, List.countP_filter, countAt, reportsAt,
      ← List.countP_eq_length_filter]
    refine List.countP_congr fun d _ => ?_
    simp [and_comm]
  have hnodup : locations.Nodup := by
    rw [List.nodup_iff_count_eq_one]
    intro l hl
    obtain ⟨s, hs, rfl⟩ := hmem l hl
    rw [hcount, hone s hs]
  have himage : location '' S = (locations.toFinset : Set String) := by
    ext l
    rw [Finset.mem_coe, List.mem_toFinset]
    constructor
    · rintro ⟨s, hs, rfl⟩
      rw [← List.count_pos_iff, hcount, hone s hs]
      exact Nat.one_pos
    · intro hl
      obtain ⟨s, hs, rfl⟩ := hmem l hl
      exact ⟨s, hs, rfl⟩
  calc ds.countP (fun d => d.code = code)
      = locations.length := by rw [List.length_map, List.countP_eq_length_filter]
    _ = (locations.toFinset : Set String).ncard := by
        rw [Set.ncard_coe_finset, List.toFinset_card_of_nodup hnodup]
    _ = S.ncard := by rw [← himage, Set.ncard_image_of_injective S hlocation]

namespace Model

/-- Each entity in one of the slots carries one diagnostic of the code. No other entity carries one,
nor is there one anywhere else. -/
structure Flags (m : Model) (code : Code) (slots : Set Slot) : Prop where
  member : ∀ s ∈ slots, ∃ p, m.provenance? s = some p ∧
    Diagnostic.countAt m.diagnostics code p.location = 1
  other : ∀ s ∉ slots, ∀ p, m.provenance? s = some p →
    Diagnostic.countAt m.diagnostics code p.location = 0
  only : ∀ d ∈ m.diagnostics, d.code = code →
    ∃ s ∈ slots, ∃ p, m.provenance? s = some p ∧ d.location = p.location
  total : m.diagnostics.countP (fun d => d.code = code) = slots.ncard

/-- Where entities have places of their own, the last two facts are enough for all. -/
theorem Flags.of_placed {m : Model} {source : String} (hplaced : m.IsPlaced source) {code : Code}
    {slots : Set Slot}
    (hmember : ∀ s ∈ slots, ∃ p, m.provenance? s = some p ∧
      Diagnostic.countAt m.diagnostics code p.location = 1)
    (honly : ∀ d ∈ m.diagnostics, d.code = code →
      ∃ s ∈ slots, ∃ p, m.provenance? s = some p ∧ d.location = p.location) :
    m.Flags code slots := by
  refine ⟨hmember, ?_, honly, ?_⟩
  · intro s hs p hp
    rw [Diagnostic.countAt_eq_zero_iff]
    intro d hd hcode hlocation
    obtain ⟨t, ht, q, hq, hsame⟩ := honly d hd hcode
    exact hs (hplaced.slot_eq hp hq (hlocation.symm.trans hsame) ▸ ht)
  · apply Diagnostic.countP_eq_ncard fun s : Slot => source ++ "#" ++ s.path
    · intro s t h
      exact Slot.path_injective (String.append_right_inj (source ++ "#") |>.mp h)
    · intro s hs
      obtain ⟨p, hp, hone⟩ := hmember s hs
      rw [← hplaced s p hp, hone]
    · intro d hd hcode
      obtain ⟨s, hs, p, hp, hlocation⟩ := honly d hd hcode
      exact ⟨s, hs, hlocation.trans (hplaced s p hp)⟩

/-! ## Lists of entities with keys -/

/-- Another slot has the key that the slot has. -/
def Repeats {κ : Type} (key? : Slot → Option κ) (s : Slot) : Prop :=
  ∃ k, key? s = some k ∧ ∃ t, t ≠ s ∧ key? t = some k

/-- The list has an entry for each slot with a key, at the place of its entity, and no others. -/
structure Lists {α κ : Type} (m : Model) (as : List α) (place : α → Provenance) (key : α → κ)
    (key? : Slot → Option κ) : Prop where
  sublist : (as.map place).Sublist m.slotProvenances
  complete : ∀ s k, key? s = some k → ∃ a ∈ as, m.provenance? s = some (place a) ∧ key a = k
  sound : ∀ a ∈ as, ∃ s, m.provenance? s = some (place a) ∧ key? s = some (key a)

namespace Lists

variable {α κ : Type} {m : Model} {as : List α} {place : α → Provenance} {key : α → κ}
  {key? : Slot → Option κ} (h : m.Lists as place key key?) {source : String}
  (hplaced : m.IsPlaced source)

include h hplaced

theorem nodup_locations : (as.map fun a => (place a).location).Nodup := by
  have hlocations := hplaced.nodup_locations h.sublist
  rwa [List.map_map] at hlocations

/-- Another entry has the key of one exactly when another slot has it. -/
theorem one_lt_countP_iff [DecidableEq κ] {a : α} (ha : a ∈ as) {s : Slot}
    (hs : m.provenance? s = some (place a)) :
    1 < as.countP (fun b => key a = key b) ↔ ∃ t, t ≠ s ∧ key? t = some (key a) := by
  obtain ⟨k, hk⟩ := List.mem_iff_getElem?.mp ha
  rw [DependencyWiring.one_lt_countP_iff hk (by simp)]
  constructor
  · rintro ⟨k', hne, b, hb, hkey⟩
    obtain ⟨t, ht, hkeyt⟩ := h.sound b (List.mem_of_getElem? hb)
    refine ⟨t, ?_, hkeyt.trans (congrArg some (of_decide_eq_true hkey).symm)⟩
    rintro rfl
    -- Entries of one slot are at one location, which the list has at one position only.
    have hplace : place a = place b := Option.some.inj (hs.symm.trans ht)
    have hlt : k < (as.map fun a => (place a).location).length := by
      rw [List.length_map]
      exact (List.getElem?_eq_some_iff.mp hk).1
    have hsame : k = k' := by
      apply (List.getElem?_inj hlt (h.nodup_locations hplaced)).mp
      rw [List.getElem?_map, List.getElem?_map, hk, hb, Option.map_some, Option.map_some, hplace]
    exact hne hsame.symm
  · rintro ⟨t, hne, hkeyt⟩
    obtain ⟨b, hb, ht, hkey⟩ := h.complete t _ hkeyt
    obtain ⟨k', hk'⟩ := List.mem_iff_getElem?.mp hb
    refine ⟨k', ?_, b, hk', decide_eq_true hkey.symm⟩
    rintro rfl
    obtain rfl := Option.some.inj (hk.symm.trans hk')
    exact hne (hplaced.slot_eq ht hs rfl)

/-- What is noted on the entries of a list, once on each that has a fault, flags their slots. -/
theorem flags (faulty : Slot → κ → Prop) {ds : List Diagnostic} {f : α → List Note} {code : Code}
    (hon : Diagnostic.AreOn ds (as.flatMap f) code)
    (horigin : ∀ a ∈ as, ∀ n ∈ f a, n.origin = (place a).origin)
    (hfaulty : ∀ a ∈ as, ∀ s, m.provenance? s = some (place a) → faulty s (key a) →
      (f a).countP (fun n => n.code = code) = 1)
    (hclean : ∀ a ∈ as, ∀ s, m.provenance? s = some (place a) → ¬faulty s (key a) →
      ∀ n ∈ f a, n.code ≠ code) :
    Flags { m with diagnostics := ds } code {s | ∃ k, key? s = some k ∧ faulty s k} := by
  apply Flags.of_placed (isPlaced_withDiagnostics.mpr hplaced)
  · rintro s ⟨k, hk, hfault⟩
    obtain ⟨a, ha, hs, rfl⟩ := h.complete s k hk
    refine ⟨place a, (provenance_withDiagnostics m ds s).trans hs, ?_⟩
    rw [hon.countAt_eq, Diagnostic.countAt_flatMap (h.nodup_locations hplaced)
      (fun b hb n hn _ => horigin b hb n hn) ha]
    exact hfaulty a ha s hs hfault
  · intro d hd hcode
    obtain ⟨n, hn, rfl⟩ := hon.exists_note hd hcode
    obtain ⟨a, ha, hna⟩ := List.mem_flatMap.mp hn
    obtain ⟨s, hs, hkey⟩ := h.sound a ha
    have hfault : faulty s (key a) := by
      by_contra hnot
      exact hclean a ha s hs hnot n hna hcode
    exact ⟨s, ⟨key a, hkey, hfault⟩, place a, (provenance_withDiagnostics m ds s).trans hs,
      congrArg Origin.location (horigin a ha n hna)⟩

/-- Where every entry is noted whose key another one has, the slots are flagged whose keys are
repeated. -/
theorem flags_repeated [DecidableEq κ] {ds : List Diagnostic} (finding : α → Finding) {code : Code}
    (hcode : ∀ a, (finding a).code = code)
    (hon : Diagnostic.AreOn ds (as.filterMap fun a =>
      if 1 < as.countP (fun b => key a = key b) then some (noteOn (finding a) (place a)) else none)
      code) :
    Flags { m with diagnostics := ds } code {s | Repeats key? s} := by
  rw [List.filterMap_eq_flatMap_toList] at hon
  apply h.flags hplaced (fun s k => ∃ t, t ≠ s ∧ key? t = some k) hon
  · intro a _ n hn
    obtain ⟨-, hnote⟩ := Option.ite_none_right_eq_some.mp (Option.mem_toList.mp hn)
    exact Option.some.inj hnote ▸ rfl
  · intro a ha s hs hrepeated
    rw [if_pos ((h.one_lt_countP_iff hplaced ha hs).mpr hrepeated)]
    exact List.countP_singleton.trans (if_pos (decide_eq_true (hcode a)))
  · intro a ha s hs hsingle n hn
    rw [if_neg fun hcount => hsingle ((h.one_lt_countP_iff hplaced ha hs).mp hcount)] at hn
    exact absurd hn List.not_mem_nil

end Lists

/-! ## Types -/

/-- Neither the name of a namespace nor that of a type in it is a placeholder. -/
def areNames (names : String × String) : Bool :=
  !Placeholder.isPlaceholder names.1 && !Placeholder.isPlaceholder names.2

/-- The namespace and the name of the type in a slot, if there is one and both are names. -/
def typeNames? (m : Model) : Slot → Option (String × String)
  | .interfaceType i j =>
    (m.namespaces[i]?.bind fun ns => ns.interfaces[j]?.map fun t => (ns.name, t.name)).filter
      areNames
  | .classType i j =>
    (m.namespaces[i]?.bind fun ns => ns.classes[j]?.map fun c => (ns.name, c.name)).filter areNames
  | _ => none

theorem mem_typeEntries_of_interface {m : Model} {ns : Namespace} (hns : ns ∈ m.namespaces)
    {t : Interface} (ht : t ∈ ns.interfaces) (hnames : areNames (ns.name, t.name) = true) :
    ⟨.interfaceType, ns.name, t.name, t.qualifiedName, t.provenance⟩ ∈ typeEntries m := by
  simp only [areNames, Bool.and_eq_true, Bool.not_eq_true'] at hnames
  apply List.mem_flatMap.mpr ⟨ns, hns, _⟩
  simp only [typeEntriesOf, hnames.1, Bool.false_eq_true, if_false]
  apply List.mem_append_left
  exact List.mem_map.mpr ⟨t, List.mem_filter.mpr ⟨ht, by simp [hnames.2]⟩, rfl⟩

theorem mem_typeEntries_of_class {m : Model} {ns : Namespace} (hns : ns ∈ m.namespaces)
    {c : Class} (hc : c ∈ ns.classes) (hnames : areNames (ns.name, c.name) = true) :
    ⟨.classType, ns.name, c.name, c.qualifiedName, c.provenance⟩ ∈ typeEntries m := by
  simp only [areNames, Bool.and_eq_true, Bool.not_eq_true'] at hnames
  apply List.mem_flatMap.mpr ⟨ns, hns, _⟩
  simp only [typeEntriesOf, hnames.1, Bool.false_eq_true, if_false]
  apply List.mem_append_right
  exact List.mem_map.mpr ⟨c, List.mem_filter.mpr ⟨hc, by simp [Class.isPlaceholder, hnames.2]⟩, rfl⟩

theorem exists_slot_of_mem_typeEntries {m : Model} {e : TypeEntry} (he : e ∈ typeEntries m) :
    ∃ s, m.provenance? s = some e.provenance ∧ m.typeNames? s = some (e.namespaceName, e.name) := by
  obtain ⟨ns, hns, hmem⟩ := List.mem_flatMap.mp he
  obtain ⟨i, hi⟩ := List.mem_iff_getElem?.mp hns
  rw [typeEntriesOf] at hmem
  split at hmem
  · exact absurd hmem List.not_mem_nil
  · rename_i hname
    rcases List.mem_append.mp hmem with hmem | hmem
    · obtain ⟨t, ht, rfl⟩ := List.mem_map.mp hmem
      obtain ⟨ht, htname⟩ := List.mem_filter.mp ht
      obtain ⟨j, hj⟩ := List.mem_iff_getElem?.mp ht
      exact ⟨.interfaceType i j, by simp [provenance?, hi, hj],
        by simp_all [typeNames?, areNames, Option.filter]⟩
    · obtain ⟨c, hc, rfl⟩ := List.mem_map.mp hmem
      obtain ⟨hc, hcname⟩ := List.mem_filter.mp hc
      obtain ⟨j, hj⟩ := List.mem_iff_getElem?.mp hc
      exact ⟨.classType i j, by simp [provenance?, hi, hj],
        by simp_all [typeNames?, areNames, Option.filter, Class.isPlaceholder]⟩

/-- Some of the classes give some of the provenances. -/
theorem map_provenance_classes_sublist (ns : Namespace) (p : Class → Bool) :
    ((ns.classes.filter p).map Class.provenance).Sublist
      (ns.classes.flatMap fun c => c.provenance :: c.parameters.map Parameter.provenance) := by
  apply (List.filter_sublist.map Class.provenance).trans
  rw [List.map_eq_flatMap]
  apply List.Sublist.flatMap_right
  intro c _
  exact (List.nil_sublist _).cons_cons _

theorem lists_typeEntries (m : Model) :
    m.Lists (typeEntries m) TypeEntry.provenance (fun e => (e.namespaceName, e.name))
      m.typeNames? where
  sublist := by
    rw [typeEntries, List.map_flatMap]
    apply List.Sublist.trans _ (List.sublist_append_left _ _)
    apply List.Sublist.flatMap_right
    intro ns _
    unfold typeEntriesOf
    split
    · exact List.nil_sublist _
    · rw [List.map_append, List.map_map, List.map_map]
      apply List.Sublist.cons
      exact (List.filter_sublist.map _).append (map_provenance_classes_sublist ns _)
  complete := by
    intro s k hs
    cases s with
    | interfaceType i j =>
      obtain ⟨hlookup, hnames⟩ := Option.filter_eq_some_iff.mp hs
      obtain ⟨ns, hi, hlookup⟩ := Option.bind_eq_some_iff.mp hlookup
      obtain ⟨t, hj, rfl⟩ := Option.map_eq_some_iff.mp hlookup
      exact ⟨_, mem_typeEntries_of_interface (List.mem_of_getElem? hi) (List.mem_of_getElem? hj)
        hnames, by simp [provenance?, hi, hj], rfl⟩
    | classType i j =>
      obtain ⟨hlookup, hnames⟩ := Option.filter_eq_some_iff.mp hs
      obtain ⟨ns, hi, hlookup⟩ := Option.bind_eq_some_iff.mp hlookup
      obtain ⟨c, hj, rfl⟩ := Option.map_eq_some_iff.mp hlookup
      exact ⟨_, mem_typeEntries_of_class (List.mem_of_getElem? hi) (List.mem_of_getElem? hj)
        hnames, by simp [provenance?, hi, hj], rfl⟩
    | _ => exact absurd hs (by simp [typeNames?])
  sound := fun _ he => exists_slot_of_mem_typeEntries he

theorem flags_typeCollisions {m : Model} {source : String} (hplaced : m.IsPlaced source)
    {ds : List Diagnostic} (hon : Diagnostic.AreOn ds (typeCollisions m) .duplicateTypeIdentifier) :
    Flags { m with diagnostics := ds } .duplicateTypeIdentifier {s | Repeats m.typeNames? s} := by
  have hcollides : ∀ a b : TypeEntry,
      a.collides b = decide ((a.namespaceName, a.name) = (b.namespaceName, b.name)) := by
    simp [TypeEntry.collides]
  apply (lists_typeEntries m).flags_repeated hplaced
    (fun e => .duplicateType e.kind e.qualifiedName ((typeEntries m).countP e.collides - 1)
      e.namespaceName) fun _ => rfl
  simp only [← hcollides]
  exact hon

/-! ## Instances -/

/-- The namespace and the name of the instance in a slot, if it has a name. The namespace is that of
its class. -/
def instanceNames? (m : Model) : Slot → Option (String × String)
  | .namedInstance i =>
    (m.namedInstances[i]?.filter fun inst => !inst.isPlaceholder).map
      fun inst => (inst.namespaceName, inst.name)
  | _ => none

theorem lists_namedOnes (m : Model) :
    m.Lists (namedOnes m) NamedInstance.provenance (fun i => (i.namespaceName, i.name))
      m.instanceNames? where
  sublist := by
    apply (List.filter_sublist.map NamedInstance.provenance).trans
    exact provenance_namedInstances_sublist m
  complete := by
    intro s k hs
    cases s with
    | namedInstance i =>
      obtain ⟨inst, hlookup, rfl⟩ := Option.map_eq_some_iff.mp hs
      obtain ⟨hi, hnamed⟩ := Option.filter_eq_some_iff.mp hlookup
      exact ⟨inst, List.mem_filter.mpr ⟨List.mem_of_getElem? hi, hnamed⟩,
        by simp [provenance?, hi], rfl⟩
    | _ => exact absurd hs (by simp [instanceNames?])
  sound := by
    intro inst hinst
    obtain ⟨hmem, hnamed⟩ := List.mem_filter.mp hinst
    obtain ⟨i, hi⟩ := List.mem_iff_getElem?.mp hmem
    exact ⟨.namedInstance i, by simp [provenance?, hi],
      by simp_all [instanceNames?, Option.filter]⟩

theorem flags_instanceCollisions {m : Model} {source : String} (hplaced : m.IsPlaced source)
    {ds : List Diagnostic}
    (hon : Diagnostic.AreOn ds (instanceCollisions m) .duplicateNamedInstance) :
    Flags { m with diagnostics := ds } .duplicateNamedInstance
      {s | Repeats m.instanceNames? s} := by
  have hcollide : ∀ a b : NamedInstance,
      instancesCollide a b = decide ((a.namespaceName, a.name) = (b.namespaceName, b.name)) := by
    simp [instancesCollide]
  apply (lists_namedOnes m).flags_repeated hplaced
    (fun i => .duplicateInstance i.name i.namespaceName) fun _ => rfl
  simp only [← hcollide]
  exact hon

/-! ## Keys of invokers -/

/-- The qualified name and the invoker key of the class in a slot, if it and its namespace have
names. -/
def invoker? (m : Model) : Slot → Option (String × String)
  | .classType i j =>
    ((m.namespaces[i]?.filter fun ns => !Placeholder.isPlaceholder ns.name).bind fun ns =>
        ns.classes[j]?.filter fun c => !c.isPlaceholder).map
      fun c => (c.qualifiedName, c.invokerKey)
  | _ => none

/-- A class of another name has the key that the class in the slot has. -/
def SharesInvokerKey (m : Model) (s : Slot) : Prop :=
  ∃ name key, m.invoker? s = some (name, key) ∧
    ∃ t other, other ≠ name ∧ m.invoker? t = some (other, key)

theorem lists_invokedClasses (m : Model) :
    m.Lists (invokedClasses m) Class.provenance (fun c => (c.qualifiedName, c.invokerKey))
      m.invoker? where
  sublist := by
    rw [invokedClasses, List.map_flatMap]
    apply List.Sublist.trans _ (List.sublist_append_left _ _)
    apply (List.filter_sublist.flatMap _).trans
    apply List.Sublist.flatMap_right
    intro ns _
    apply List.Sublist.cons
    exact (map_provenance_classes_sublist ns _).trans (List.sublist_append_right _ _)
  complete := by
    intro s k hs
    cases s with
    | classType i j =>
      obtain ⟨c, hlookup, rfl⟩ := Option.map_eq_some_iff.mp hs
      obtain ⟨ns, hns, hlookup⟩ := Option.bind_eq_some_iff.mp hlookup
      obtain ⟨hi, hname⟩ := Option.filter_eq_some_iff.mp hns
      obtain ⟨hj, hnamed⟩ := Option.filter_eq_some_iff.mp hlookup
      refine ⟨c, ?_, by simp [provenance?, hi, hj], rfl⟩
      exact List.mem_flatMap.mpr ⟨ns, List.mem_filter.mpr ⟨List.mem_of_getElem? hi, hname⟩,
        List.mem_filter.mpr ⟨List.mem_of_getElem? hj, hnamed⟩⟩
    | _ => exact absurd hs (by simp [invoker?])
  sound := by
    intro c hc
    obtain ⟨ns, hns, hmem⟩ := List.mem_flatMap.mp hc
    obtain ⟨hns, hname⟩ := List.mem_filter.mp hns
    obtain ⟨hmem, hnamed⟩ := List.mem_filter.mp hmem
    obtain ⟨i, hi⟩ := List.mem_iff_getElem?.mp hns
    obtain ⟨j, hj⟩ := List.mem_iff_getElem?.mp hmem
    exact ⟨.classType i j, by simp [provenance?, hi, hj],
      by simp_all [invoker?, Option.filter]⟩

/-- A class that others share a key with has them listed. -/
theorem otherOwners_ne_nil_iff {m : Model} {c : Class} :
    otherOwners (invokedClasses m) c ≠ [] ↔
      ∃ t other, other ≠ c.qualifiedName ∧ m.invoker? t = some (other, c.invokerKey) := by
  rw [Ne, otherOwners_eq_nil_iff, not_forall]
  constructor
  · rintro ⟨e, he⟩
    simp only [Classical.not_imp] at he
    obtain ⟨hmem, hkey, hname⟩ := he
    obtain ⟨t, -, ht⟩ := (lists_invokedClasses m).sound e hmem
    exact ⟨t, e.qualifiedName, hname, hkey ▸ ht⟩
  · rintro ⟨t, other, hother, ht⟩
    obtain ⟨e, hmem, -, hpair⟩ := (lists_invokedClasses m).complete t _ ht
    obtain ⟨rfl, hkey⟩ := Prod.mk.inj hpair
    exact ⟨e, fun h => hother (h hmem hkey)⟩

theorem flags_invokerKeyNotes {m : Model} {source : String} (hplaced : m.IsPlaced source)
    {ds : List Diagnostic} (hon : Diagnostic.AreOn ds (invokerKeyNotes m) .duplicateInvokerKey) :
    Flags { m with diagnostics := ds } .duplicateInvokerKey {s | m.SharesInvokerKey s} := by
  have hset : {s | m.SharesInvokerKey s} = {s | ∃ k, m.invoker? s = some k ∧
      ∃ t other, other ≠ k.1 ∧ m.invoker? t = some (other, k.2)} := by
    ext s
    simp [SharesInvokerKey]
  rw [hset]
  apply (lists_invokedClasses m).flags hplaced
    (fun _ k => ∃ t other, other ≠ k.1 ∧ m.invoker? t = some (other, k.2)) hon
  · intro c _ n hn
    dsimp only at hn
    rcases List.mem_append.mp hn with hn | hn
    · obtain ⟨-, hn⟩ := List.mem_ite_nil_right.mp hn
      exact List.mem_singleton.mp hn ▸ rfl
    · obtain ⟨-, hn⟩ := List.mem_ite_nil_left.mp hn
      exact List.mem_singleton.mp hn ▸ rfl
  · intro c _ s _ hshared
    dsimp only
    rw [if_pos (otherOwners_ne_nil_iff.mpr hshared)]
    cases hsimple : Name.isSimple c.invokerKey <;> simp [noteOn, Note.code]
  · intro c _ s _ hown n hn
    dsimp only at hn
    rw [if_neg fun hother => hown (otherOwners_ne_nil_iff.mp hother)] at hn
    obtain ⟨-, hn⟩ := List.mem_ite_nil_left.mp hn
    rw [List.mem_singleton.mp hn]
    simp [noteOn, Note.code]

/-! ## Documents -/

/-- Every type that shares its names with another one is reported once, every instance that shares
its name and namespace, and every class that shares its invoker key with a class of another name. -/
structure ReportsCollisions (m : Model) : Prop where
  types : m.Flags .duplicateTypeIdentifier {s | Repeats m.typeNames? s}
  instances : m.Flags .duplicateNamedInstance {s | Repeats m.instanceNames? s}
  invokers : m.Flags .duplicateInvokerKey {s | m.SharesInvokerKey s}

theorem reportsCollisions_refused (options : Options) (source : String) {cause : Note}
    (h : cause.finding.phase = .reading) : (refused options source cause).ReportsCollisions := by
  have hplaced : (refused options source cause).IsPlaced source := by
    intro s p hs
    exact absurd (hs.symm.trans (provenance_refused options source cause s)) (by simp)
  have hflags : ∀ (code : Code) (slots : Set Slot), code.phase ≠ .reading → (∀ s, s ∉ slots) →
      (refused options source cause).Flags code slots := by
    intro code slots hlater hnone
    apply Flags.of_placed hplaced
    · intro s hs
      exact absurd hs (hnone s)
    · rintro d hd rfl
      exact absurd (phase_of_mem_refused h hd) hlater
  constructor
  · apply hflags _ _ (by decide)
    rintro s ⟨k, hk, -⟩
    obtain ⟨e, he, -⟩ := (lists_typeEntries _).complete s k hk
    exact absurd he List.not_mem_nil
  · apply hflags _ _ (by decide)
    rintro s ⟨k, hk, -⟩
    obtain ⟨i, hi, -⟩ := (lists_namedOnes _).complete s k hk
    exact absurd hi List.not_mem_nil
  · apply hflags _ _ (by decide)
    rintro s ⟨name, key, hk, -⟩
    obtain ⟨c, hc, -⟩ := (lists_invokedClasses _).complete s _ hk
    exact absurd hc List.not_mem_nil

/-- Every document has its collisions reported at each of their members, and nowhere else. -/
theorem ofNode_reportsCollisions (options : Options) (source : String) (root : Node) :
    (ofNode options source root).ReportsCollisions := by
  have hplaced := isPlaced_ofNode options source root
  rcases ofNode_phases options source root with
    ⟨cause, hphase, he⟩ | ⟨declared, diagnostics, -, hdiagnostics, he⟩
  · rw [he]
    exact reportsCollisions_refused options source hphase
  · rw [he] at hplaced ⊢
    rw [isPlaced_withDiagnostics] at hplaced
    constructor
    · exact flags_typeCollisions hplaced (hdiagnostics .duplicateTypeIdentifier (by decide))
    · exact flags_instanceCollisions hplaced (hdiagnostics .duplicateNamedInstance (by decide))
    · exact flags_invokerKeyNotes hplaced (hdiagnostics .duplicateInvokerKey (by decide))

/-- Of three instances two have one name and classes of one namespace. -/
example : (Sample.twinned "App.Node").diagnostics.countP
    (fun d => d.code = .duplicateNamedInstance) = 2 := by
  decide +kernel

end Model

end DependencyWiring
