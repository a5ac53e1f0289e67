import DependencyWiring.Proofs.KeptDeclarations
import DependencyWiring.Proofs.PhasesOfNotes
import Mathlib.Data.List.Flatten
import Mathlib.Data.List.Nodup
import Mathlib.Data.List.Sigma

/-!
# Distinct places

The slots of a model number its entities, and each entity is at the place of its slot. Slots are
told apart by their paths, so no two entities share a location. What is noted on one entity is
therefore never counted among the diagnostics of another, and to count the diagnostics at a location
it is enough to look at what was noted on the entity there.
-/
namespace DependencyWiring

/-! ## Listing by position -/

section

variable {α β : Type}

/-- What is listed position by position is listed once if each part is and tells its position. -/
theorem nodup_flatMap_zipIdx {as : List α} {f : α × Nat → List β} (position : β → Nat)
    (hparts : ∀ p ∈ as.zipIdx, (f p).Nodup)
    (hposition : ∀ p ∈ as.zipIdx, ∀ b ∈ f p, position b = p.2) :
    (as.zipIdx.flatMap f).Nodup := by
  have hdistinct : as.zipIdx.Pairwise fun p q => p.2 ≠ q.2 :=
    List.pairwise_map.mp (List.nodup_zipIdx_map_snd as)
  rw [List.nodup_flatMap]
  refine ⟨hparts, hdistinct.imp_of_mem ?_⟩
  intro p q hp hq hne b hbp hbq
  exact hne ((hposition p hp b hbp).symm.trans (hposition q hq b hbq))

theorem nodup_map_range {f : Nat → β} (hf : Function.Injective f) (n : Nat) :
    ((List.range n).map f).Nodup :=
  List.nodup_range.map hf

/-- What is asked of the positions of a list is asked of its elements. -/
theorem map_range_getElem (f : α → β) (as : List α) :
    ((List.range as.length).map fun k => as[k]?.map f) = as.map fun a => some (f a) := by
  apply List.ext_getElem
  · simp
  · intro k hk hk'
    have hlt : k < as.length := by simpa using hk'
    simp [List.getElem?_eq_getElem hlt]

/-- What is listed with positions is what is listed without them when no position matters. -/
theorem flatMap_zipIdx_eq {as : List α} {f : α × Nat → List β} {g : α → List β}
    (h : ∀ p ∈ as.zipIdx, f p = g p.1) : as.zipIdx.flatMap f = as.flatMap g := by
  rw [List.flatMap_congr h, ← List.flatMap_map Prod.fst g, List.zipIdx_map_fst]

/-- When only the parts under the key of an element hold something that counts, the element's own
part holds all of it, since keys are distinct. -/
theorem filter_flatMap_of_nodup {κ : Type} {as : List α} {f : α → List β} {key : α → κ}
    (has : (as.map key).Nodup) {a : α} (ha : a ∈ as) {p : β → Bool}
    (hother : ∀ b ∈ as, key b ≠ key a → (f b).filter p = []) :
    (as.flatMap f).filter p = (f a).filter p := by
  induction as with
  | nil => exact absurd ha List.not_mem_nil
  | cons b as ih =>
    rw [List.map_cons, List.nodup_cons] at has
    rw [List.forall_mem_cons] at hother
    rw [List.flatMap_cons, List.filter_append]
    rcases List.mem_cons.mp ha with rfl | hmem
    · have hrest : (as.flatMap f).filter p = [] := by
        rw [List.filter_flatMap, List.flatMap_eq_nil_iff]
        intro b hb
        apply hother.2 b hb
        intro hsame
        exact has.1 (List.mem_map.mpr ⟨b, hb, hsame⟩)
      rw [hrest, List.append_nil]
    · have hfirst : (f b).filter p = [] := by
        apply hother.1
        intro hsame
        exact has.1 (List.mem_map.mpr ⟨a, hmem, hsame.symm⟩)
      rw [hfirst, List.nil_append]
      exact ih has.2 hmem hother.2

end

/-! ## Slots of a model -/

namespace Slot

/-- The position of the namespace or of the instance that the slot belongs to. -/
def position : Slot → Nat
  | namespaceBlock i => i
  | interfaceType i _ => i
  | classType i _ => i
  | parameter i _ _ => i
  | namedInstance i => i
  | assignment i _ => i
  | element i _ => i

/-- The position of the class that the slot belongs to, in its namespace. -/
def classPosition : Slot → Nat
  | classType _ j => j
  | parameter _ j _ => j
  | _ => 0

end Slot

def Class.slots (c : Class) (i j : Nat) : List Slot :=
  .classType i j :: (List.range c.parameters.length).map (.parameter i j)

def Namespace.slots (ns : Namespace) (i : Nat) : List Slot :=
  .namespaceBlock i :: ((List.range ns.interfaces.length).map (.interfaceType i) ++
    ns.classes.zipIdx.flatMap fun (c, j) => c.slots i j)

def NamedInstance.slots (inst : NamedInstance) (i : Nat) : List Slot :=
  .namedInstance i :: ((List.range inst.assignments.length).map (.assignment i) ++
    (List.range inst.elements.length).map (.element i))

namespace Model

/-- The slots of all entities, each behind that of its owner. -/
def slots (m : Model) : List Slot :=
  (m.namespaces.zipIdx.flatMap fun (ns, i) => ns.slots i) ++
    m.namedInstances.zipIdx.flatMap fun (inst, i) => inst.slots i

/-- The provenances of all entities that have a slot, each behind that of its owner. -/
def slotProvenances (m : Model) : List Provenance :=
  m.namespaces.flatMap Namespace.provenances ++
    m.namedInstances.flatMap NamedInstance.provenances

end Model

theorem Class.nodup_slots (c : Class) (i j : Nat) : (c.slots i j).Nodup := by
  rw [slots, List.nodup_cons]
  constructor
  · simp
  · exact nodup_map_range (fun k k' h => by simpa using h) _

theorem Namespace.nodup_slots (ns : Namespace) (i : Nat) : (ns.slots i).Nodup := by
  have hclasses : (ns.classes.zipIdx.flatMap fun (c, j) => c.slots i j).Nodup := by
    apply nodup_flatMap_zipIdx Slot.classPosition
    · rintro ⟨c, j⟩ -
      exact c.nodup_slots i j
    · rintro ⟨c, j⟩ - s hs
      simp only [Class.slots, List.mem_cons, List.mem_map] at hs
      rcases hs with rfl | ⟨k, -, rfl⟩ <;> rfl
  rw [slots, List.nodup_cons, List.nodup_append']
  refine ⟨?_, nodup_map_range (fun k k' h => by simpa using h) _, hclasses, ?_⟩
  · simp [Class.slots]
  · intro s hs hs'
    obtain ⟨k, -, rfl⟩ := List.mem_map.mp hs
    simp [Class.slots] at hs'

theorem NamedInstance.nodup_slots (inst : NamedInstance) (i : Nat) : (inst.slots i).Nodup := by
  rw [slots, List.nodup_cons, List.nodup_append']
  refine ⟨by simp, nodup_map_range (fun k k' h => by simpa using h) _,
    nodup_map_range (fun k k' h => by simpa using h) _, ?_⟩
  intro s hs hs'
  obtain ⟨k, -, rfl⟩ := List.mem_map.mp hs
  simp at hs'

theorem Namespace.position_of_mem_slots {ns : Namespace} {i : Nat} {s : Slot}
    (hs : s ∈ ns.slots i) : s.position = i := by
  simp only [slots, Class.slots, List.mem_cons, List.mem_append, List.mem_map,
    List.mem_flatMap] at hs
  rcases hs with rfl | ⟨k, -, rfl⟩ | ⟨p, -, rfl | ⟨k, -, rfl⟩⟩ <;> rfl

theorem NamedInstance.position_of_mem_slots {inst : NamedInstance} {i : Nat} {s : Slot}
    (hs : s ∈ inst.slots i) : s.position = i := by
  simp only [slots, List.mem_cons, List.mem_append, List.mem_map] at hs
  rcases hs with rfl | ⟨k, -, rfl⟩ | ⟨k, -, rfl⟩ <;> rfl

namespace Model

variable {m : Model}

theorem nodup_slots (m : Model) : m.slots.Nodup := by
  rw [slots, List.nodup_append']
  refine ⟨nodup_flatMap_zipIdx Slot.position ?_ ?_, nodup_flatMap_zipIdx Slot.position ?_ ?_, ?_⟩
  · exact fun p _ => p.1.nodup_slots p.2
  · exact fun p _ s hs => Namespace.position_of_mem_slots hs
  · exact fun p _ => p.1.nodup_slots p.2
  · exact fun p _ s hs => NamedInstance.position_of_mem_slots hs
  -- A slot of a namespace is none of an instance.
  · intro s hs hs'
    obtain ⟨p, -, hp⟩ := List.mem_flatMap.mp hs
    obtain ⟨q, -, hq⟩ := List.mem_flatMap.mp hs'
    simp only [NamedInstance.slots, List.mem_cons, List.mem_append, List.mem_map] at hq
    rcases hq with rfl | ⟨k, -, rfl⟩ | ⟨k, -, rfl⟩ <;>
      simp [Namespace.slots, Class.slots] at hp

theorem provenance_namedInstances_sublist (m : Model) :
    (m.namedInstances.map NamedInstance.provenance).Sublist m.slotProvenances := by
  rw [List.map_eq_flatMap]
  apply List.Sublist.trans _ (List.sublist_append_right _ _)
  apply List.Sublist.flatMap_right
  intro inst _
  exact (List.nil_sublist _).cons_cons _

/-! The slots of a model hold its provenances, in the same order. -/

theorem map_provenance_slots_namespace {ns : Namespace} {i : Nat}
    (hi : m.namespaces[i]? = some ns) :
    (ns.slots i).map m.provenance? = ns.provenances.map some := by
  have hclass : ∀ p ∈ ns.classes.zipIdx, (p.1.slots i p.2).map m.provenance? =
      some p.1.provenance :: p.1.parameters.map (some ∘ Parameter.provenance) := by
    rintro ⟨c, j⟩ hc
    have hj : ns.classes[j]? = some c := List.mem_zipIdx_iff_getElem?.mp hc
    simp [Class.slots, provenance?, hi, hj, map_range_getElem, Function.comp_def]
  simp only [Namespace.slots, Namespace.provenances, List.map_cons, List.map_append, List.map_map,
    List.map_flatMap]
  congr 1
  · simp [provenance?, hi]
  · congr 1
    · simp [provenance?, hi, map_range_getElem, Function.comp_def]
    · simpa using flatMap_zipIdx_eq hclass

theorem map_provenance_slots_namedInstance {inst : NamedInstance} {i : Nat}
    (hi : m.namedInstances[i]? = some inst) :
    (inst.slots i).map m.provenance? = inst.provenances.map some := by
  rw [NamedInstance.provenances, NamedInstance.map_provenance_wirings]
  simp [NamedInstance.slots, provenance?, hi, map_range_getElem, Function.comp_def]

theorem map_provenance_slots (m : Model) :
    m.slots.map m.provenance? = m.slotProvenances.map some := by
  rw [slots, slotProvenances, List.map_append, List.map_append, List.map_flatMap,
    List.map_flatMap, List.map_flatMap, List.map_flatMap]
  congr 1
  · apply flatMap_zipIdx_eq
    exact fun p hp => map_provenance_slots_namespace (List.mem_zipIdx_iff_getElem?.mp hp)
  · apply flatMap_zipIdx_eq
    exact fun p hp => map_provenance_slots_namedInstance (List.mem_zipIdx_iff_getElem?.mp hp)

/-! ## Entities at the places of their slots -/

/-- Every entity is at the path of its slot, in the source. -/
def IsPlaced (m : Model) (source : String) : Prop :=
  ∀ s p, m.provenance? s = some p → p.location = source ++ "#" ++ s.path

theorem isPlaced_ofNode (options : Options) (source : String) (root : Node) :
    (ofNode options source root).IsPlaced source := by
  intro s p hs
  cases hread : (options.reading source).readDocument root with
  | error cause =>
    rw [ofNode_of_error hread, provenance_refused] at hs
    exact absurd hs (by simp)
  | ok declared =>
    obtain ⟨entries, -, rfl⟩ := Declared.Reading.eq_readRoot_of_readDocument _ hread
    rw [ofNode_of_ok hread] at hs
    have hbuilt := provenance_build options source root entries s
    rw [← provenance_withDiagnostics _ (ofDeclared options _ _).diagnostics] at hbuilt
    obtain ⟨n, -, rfl⟩ := Option.map_eq_some_iff.mp (hbuilt.symm.trans hs)
    rfl

theorem isPlaced_withDiagnostics {diagnostics : List Diagnostic} {source : String} :
    IsPlaced { m with diagnostics := diagnostics } source ↔ m.IsPlaced source := by
  simp only [IsPlaced, provenance_withDiagnostics]

namespace IsPlaced

variable {source : String} (h : m.IsPlaced source)

include h

/-- Entities at one location are in one slot. -/
theorem slot_eq {s t : Slot} {p q : Provenance} (hs : m.provenance? s = some p)
    (ht : m.provenance? t = some q) (hlocation : p.location = q.location) : s = t := by
  rw [h s p hs, h t q ht] at hlocation
  exact Slot.path_injective (String.append_right_inj (source ++ "#") |>.mp hlocation)

theorem map_location_slotProvenances :
    m.slotProvenances.map Provenance.location = m.slots.map fun s => source ++ "#" ++ s.path := by
  have heach : ∀ s ∈ m.slots,
      (m.provenance? s).map Provenance.location = some (source ++ "#" ++ s.path) := by
    intro s hs
    have hmem : m.provenance? s ∈ m.slotProvenances.map some :=
      map_provenance_slots m ▸ List.mem_map_of_mem hs
    obtain ⟨p, -, hp⟩ := List.mem_map.mp hmem
    rw [← hp, Option.map_some, h s p hp.symm]
  apply List.map_injective_iff.mpr fun _ _ => Option.some.inj
  have hall := congrArg (List.map (Option.map Provenance.location)) (map_provenance_slots m)
  rw [List.map_map, List.map_map] at hall
  rw [List.map_map, List.map_map]
  exact hall.symm.trans (List.map_congr_left heach)

/-- No two entities share a location. -/
theorem nodup_locations {ps : List Provenance} (hps : ps.Sublist m.slotProvenances) :
    (ps.map Provenance.location).Nodup := by
  have hall : (m.slotProvenances.map Provenance.location).Nodup := by
    rw [h.map_location_slotProvenances]
    apply m.nodup_slots.map
    intro s t hst
    exact Slot.path_injective (String.append_right_inj (source ++ "#") |>.mp hst)
  exact hall.sublist (hps.map Provenance.location)

end IsPlaced

end Model

/-! ## Diagnostics at a location -/

namespace Diagnostic

/-- The diagnostics of a code at a location. -/
def reportsAt (ds : List Diagnostic) (code : Code) (location : String) : List Diagnostic :=
  ds.filter fun d => d.code = code && d.location = location

def countAt (ds : List Diagnostic) (code : Code) (location : String) : Nat :=
  (reportsAt ds code location).length

variable {ds : List Diagnostic} {code : Code} {location : String}

theorem countAt_eq_zero_iff :
    countAt ds code location = 0 ↔ ∀ d ∈ ds, d.code = code → d.location ≠ location := by
  simp [countAt, reportsAt]

/-- What is reported at a location is reported on the notes. -/
theorem AreOn.reportsAt_eq {notes : List Note} (h : AreOn ds notes code) (location : String) :
    reportsAt ds code location = reportsAt (notes.map Note.diagnostic) code location := by
  have hfilter : ∀ es : List Diagnostic, reportsAt es code location =
      (es.filter (·.code = code)).filter fun d => d.location = location := by
    intro es
    rw [List.filter_filter, reportsAt]
    simp only [Bool.and_comm]
  rw [hfilter, h, ← hfilter]

section

variable {α : Type} {as : List α} {place : α → Provenance} {f : α → List Note}
  (has : (as.map fun a => (place a).location).Nodup)
  (hf : ∀ a ∈ as, ∀ n ∈ f a, n.code = code → n.origin = (place a).origin) {a : α} (ha : a ∈ as)

include has hf ha

/-- Of things at places of their own, one alone has what is noted at its place. -/
theorem reportsAt_flatMap :
    reportsAt ((as.flatMap f).map Note.diagnostic) code (place a).location =
      ((f a).filter fun n => n.code = code).map Note.diagnostic := by
  have hlocation : ∀ b ∈ as, ∀ n ∈ f b, n.code = code → n.origin.location = (place b).location :=
    fun b hb n hn hcode => congrArg Origin.location (hf b hb n hn hcode)
  let here : Note → Bool := fun n => n.code = code && n.origin.location = (place a).location
  have hother : ∀ b ∈ as, (place b).location ≠ (place a).location → (f b).filter here = [] := by
    intro b hb hne
    rw [List.filter_eq_nil_iff]
    intro n hn hhere
    simp only [here, Bool.and_eq_true, decide_eq_true_eq] at hhere
    exact hne ((hlocation b hb n hn hhere.1).symm.trans hhere.2)
  have hown : (f a).filter here = (f a).filter fun n => n.code = code := by
    refine List.filter_congr fun n hn => ?_
    by_cases hcode : n.code = code
    · simp [here, hcode, hlocation a ha n hn hcode]
    · simp [here, hcode]
  have hall : (as.flatMap f).filter here = (f a).filter here :=
    filter_flatMap_of_nodup has ha hother
  calc reportsAt ((as.flatMap f).map Note.diagnostic) code (place a).location
      = ((as.flatMap f).filter here).map Note.diagnostic := by
        rw [reportsAt, List.filter_map]
        rfl
    _ = ((f a).filter fun n => n.code = code).map Note.diagnostic := by rw [hall, hown]

theorem countAt_flatMap :
    countAt ((as.flatMap f).map Note.diagnostic) code (place a).location =
      (f a).countP fun n => n.code = code := by
  rw [countAt, reportsAt_flatMap has hf ha, List.length_map, List.countP_eq_length_filter]

end

theorem AreOn.countAt_eq {notes : List Note} (h : AreOn ds notes code) (location : String) :
    countAt ds code location = countAt (notes.map Note.diagnostic) code location :=
  congrArg List.length (h.reportsAt_eq location)

end Diagnostic

end DependencyWiring
