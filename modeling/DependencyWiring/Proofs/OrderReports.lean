import DependencyWiring.Proofs.DistinctPlaces
import DependencyWiring.Proofs.InstanceNames

/-!
# Reports on the order of instances

A reference by name is judged by positions: the name may be declared nowhere, only later, or before
the instance that refers to it. The check asks an index that passes over placeholders and keeps the
first of repeated names. It answers all the same as the positions do, once for each entry, so that
an entry carries the report on its reference and nothing else does.
-/
namespace DependencyWiring

open Check

namespace Model

/-! ## Entries that hold wirings -/

/-- The wirings of all instances, each with its instance and the position of that. -/
def entries (m : Model) : List ((NamedInstance × Nat) × (Wiring × Provenance)) :=
  m.namedInstances.zipIdx.flatMap fun p => p.1.wirings.map fun w => (p, w)

variable {m : Model}

theorem mem_entries_iff {inst : NamedInstance} {i : Nat} {w : Wiring × Provenance} :
    ((inst, i), w) ∈ m.entries ↔ m.namedInstances[i]? = some inst ∧ w ∈ inst.wirings := by
  simp [entries, List.mem_zipIdx_iff_getElem?]

theorem map_provenance_entries (m : Model) :
    m.entries.map (fun e => e.2.2) =
      m.namedInstances.flatMap fun inst => inst.wirings.map Prod.snd := by
  rw [entries, List.map_flatMap]
  apply flatMap_zipIdx_eq
  intro p _
  rw [List.map_map]
  rfl

/-- Entries have places of their own. -/
theorem IsPlaced.nodup_entries {source : String} (h : m.IsPlaced source) :
    (m.entries.map fun e => e.2.2.location).Nodup := by
  have hsublist : (m.entries.map fun e => e.2.2).Sublist m.slotProvenances := by
    rw [map_provenance_entries, slotProvenances]
    apply List.Sublist.trans _ (List.sublist_append_right _ _)
    exact List.Sublist.flatMap_right _ fun inst _ => List.sublist_cons_self _ _
  have hlocations := h.nodup_locations hsublist
  rwa [List.map_map] at hlocations

/-! ## The first position of a name -/

theorem findIdx_name_eq_none_iff {target : String} :
    m.namedInstances.findIdx? (fun i => i.name = target) = none ↔ ∀ k, ¬m.DeclaresAt target k := by
  rw [List.findIdx?_eq_none_iff]
  constructor
  · rintro h k ⟨inst, hk, hname⟩
    exact absurd hname (by simpa using h inst (List.mem_of_getElem? hk))
  · intro h inst hmem
    obtain ⟨k, hk⟩ := List.mem_iff_getElem?.mp hmem
    exact decide_eq_false fun hname => h k ⟨inst, hk, hname⟩

theorem declaresAt_of_findIdx_name {target : String} {j : Nat}
    (h : m.namedInstances.findIdx? (fun i => i.name = target) = some j) :
    m.DeclaresAt target j ∧ ∀ k < j, ¬m.DeclaresAt target k := by
  obtain ⟨hlt, hname, hbefore⟩ := List.findIdx?_eq_some_iff_getElem.mp h
  refine ⟨⟨_, List.getElem?_eq_getElem hlt, of_decide_eq_true hname⟩, ?_⟩
  rintro k hk ⟨inst, hinst, hsame⟩
  have hget : m.namedInstances[k] = inst := by
    simpa [List.getElem?_eq_getElem (Nat.lt_trans hk hlt)] using hinst
  exact hbefore k hk (decide_eq_true (hget ▸ hsame))

end Model

/-! ## The check by positions -/

namespace Check

/-- The check goes through the entries of the instances that have names. -/
theorem orderingNotes_eq_entries (s : Scope) : orderingNotes s =
    s.model.entries.flatMap fun e =>
      if e.1.1.isPlaceholder then [] else orderNotes s e.1.2 e.1.1 e.2 := by
  rw [orderingNotes, Model.entries, List.flatMap_assoc]
  refine List.flatMap_congr fun p _ => ?_
  rw [List.flatMap_map]
  cases hp : p.1.isPlaceholder <;> simp [hp]

theorem origin_of_mem_orderNotes {s : Scope} {i : Nat} {inst : NamedInstance}
    {w : Wiring × Provenance} {n : Note} (hn : n ∈ orderNotes s i inst w) :
    n.origin = w.2.origin ∧ ∃ target, w.1 = .instanceOf target ∧ Name.isSimple target = true := by
  unfold orderNotes at hn
  cases hw : w.1 with
  | value text => simp [hw] at hn
  | instanceOf target =>
    cases hsimple : Name.isSimple target with
    | false => simp [hw, isLookedUp, hsimple] at hn
    | true =>
      refine ⟨?_, target, rfl, hsimple⟩
      cases hposition : s.index.instancePosition? target with
      | none =>
        obtain rfl : n = _ := by simpa [hw, isLookedUp, hsimple, hposition] using hn
        rfl
      | some j =>
        simp only [hw, isLookedUp, hsimple, hposition, Bool.not_true, Bool.false_eq_true, if_false,
          List.mem_ite_nil_right, List.mem_singleton] at hn
        exact hn.2 ▸ rfl

variable {stamp : Stamp} {d : Declared.Model} (hd : d.HasMarks) {i : Nat} {inst : NamedInstance}
  {target : String} {p : Provenance} (ht : Name.isSimple target = true)

include hd ht

theorem orderNotes_of_missing
    (h : ∀ k, ¬(Scope.ofDeclared stamp d).model.DeclaresAt target k) :
    orderNotes (Scope.ofDeclared stamp d) i inst (.instanceOf target, p) =
      [noteOn (.missingInstance inst.name target) p] := by
  have hposition := Scope.instancePosition_eq stamp hd (Placeholder.isPlaceholder_of_isSimple ht)
  rw [Model.findIdx_name_eq_none_iff.mpr h] at hposition
  simp [orderNotes, isLookedUp, ht, hposition]

theorem orderNotes_of_later
    (h : ∃ k, (Scope.ofDeclared stamp d).model.DeclaresAt target k)
    (hbefore : ∀ k < i, ¬(Scope.ofDeclared stamp d).model.DeclaresAt target k) :
    orderNotes (Scope.ofDeclared stamp d) i inst (.instanceOf target, p) =
      [noteOn (.laterInstance inst.name target) p] := by
  have hposition := Scope.instancePosition_eq stamp hd (Placeholder.isPlaceholder_of_isSimple ht)
  cases hfirst : (Scope.ofDeclared stamp d).model.namedInstances.findIdx?
      (fun i => i.name = target) with
  | none =>
    obtain ⟨k, hk⟩ := h
    exact absurd hk (Model.findIdx_name_eq_none_iff.mp hfirst k)
  | some j =>
    have hle : i ≤ j := by
      by_contra hlt
      exact hbefore j (by omega) (Model.declaresAt_of_findIdx_name hfirst).1
    rw [hfirst] at hposition
    simp [orderNotes, isLookedUp, ht, hposition, hle]

theorem orderNotes_of_earlier
    (h : ∃ k < i, (Scope.ofDeclared stamp d).model.DeclaresAt target k) :
    orderNotes (Scope.ofDeclared stamp d) i inst (.instanceOf target, p) = [] := by
  have hposition := Scope.instancePosition_eq stamp hd (Placeholder.isPlaceholder_of_isSimple ht)
  obtain ⟨k, hlt, hk⟩ := h
  cases hfirst : (Scope.ofDeclared stamp d).model.namedInstances.findIdx?
      (fun i => i.name = target) with
  | none => exact absurd hk (Model.findIdx_name_eq_none_iff.mp hfirst k)
  | some j =>
    -- The first position of the name is none behind the one that is known.
    have hle : j ≤ k := by
      by_contra hgt
      exact (Model.declaresAt_of_findIdx_name hfirst).2 k (by omega) hk
    rw [hfirst] at hposition
    have hback : ¬i ≤ j := by omega
    simp [orderNotes, isLookedUp, ht, hposition, hback]

end Check

/-! ## Reports -/

namespace Model

/-- A named instance at a position has an entry, at the given place, that refers to a name. -/
def RefersFrom (m : Model) (i : Nat) (target : String) (p : Provenance) : Prop :=
  ∃ inst, m.namedInstances[i]? = some inst ∧ inst.isPlaceholder = false ∧
    (Wiring.instanceOf target, p) ∈ inst.wirings ∧ Name.isSimple target = true

/-- How often an entry is reported to refer to no instance, and to a later one. -/
def orderReports (m : Model) (p : Provenance) : Nat × Nat :=
  (Diagnostic.countAt m.diagnostics .namedInstanceMissing p.location,
    Diagnostic.countAt m.diagnostics .dependencyOrderViolation p.location)

/-- An entry is reported once when no instance has the name that it refers to, and once when some
have it but none of those before its own instance. Nothing else is reported so. -/
structure ReportsOrder (m : Model) : Prop where
  missing : ∀ i target p, m.RefersFrom i target p → (∀ k, ¬m.DeclaresAt target k) →
    m.orderReports p = (1, 0)
  later : ∀ i target p, m.RefersFrom i target p → (∃ k, m.DeclaresAt target k) →
    (∀ k < i, ¬m.DeclaresAt target k) → m.orderReports p = (0, 1)
  earlier : ∀ i target p, m.RefersFrom i target p → (∃ k < i, m.DeclaresAt target k) →
    m.orderReports p = (0, 0)
  only : ∀ d ∈ m.diagnostics, d.code = .namedInstanceMissing ∨ d.code = .dependencyOrderViolation →
    ∃ i target p, m.RefersFrom i target p ∧ d.location = p.location

section

variable {stamp : Stamp} {declared : Report Declared.Model} {diagnostics : List Diagnostic}
  (hdiagnostics : ∀ c : Code, c.phase ≠ .reading →
    Diagnostic.AreOn diagnostics (notesOf stamp declared c.phase) c)

include hdiagnostics

/-- What is reported of an entry is what the check notes on it. -/
theorem countAt_entry {source : String}
    (hplaced : (Scope.ofDeclared stamp declared.value).model.IsPlaced source)
    {inst : NamedInstance} {i : Nat} {w : Wiring × Provenance}
    (hinst : (Scope.ofDeclared stamp declared.value).model.namedInstances[i]? = some inst)
    (hnamed : inst.isPlaceholder = false) (hw : w ∈ inst.wirings) {c : Code}
    (hc : c.phase = .ordering) :
    Diagnostic.countAt diagnostics c w.2.location =
      (orderNotes (Scope.ofDeclared stamp declared.value) i inst w).countP fun n => n.code = c := by
  have hon := hdiagnostics c (by simp [hc])
  rw [hc, notesOf, orderingNotes_eq_entries] at hon
  have horigin : ∀ e ∈ (Scope.ofDeclared stamp declared.value).model.entries,
      ∀ n ∈ (if e.1.1.isPlaceholder then []
        else orderNotes (Scope.ofDeclared stamp declared.value) e.1.2 e.1.1 e.2),
      n.code = c → n.origin = e.2.2.origin := by
    intro e _ n hn _
    exact (origin_of_mem_orderNotes (List.mem_ite_nil_left.mp hn).2).1
  have hcount := Diagnostic.countAt_flatMap hplaced.nodup_entries horigin
    (mem_entries_iff.mpr ⟨hinst, hw⟩)
  rw [hon.countAt_eq, hcount]
  simp [hnamed]

theorem exists_entry_of_mem_diagnostics {d : Diagnostic} (hd : d ∈ diagnostics)
    (hc : d.code.phase = .ordering) :
    ∃ i target p, (Scope.ofDeclared stamp declared.value).model.RefersFrom i target p ∧
      d.location = p.location := by
  have hon := hdiagnostics d.code (by simp [hc])
  rw [hc, notesOf, orderingNotes_eq_entries] at hon
  obtain ⟨n, hn, rfl⟩ := hon.exists_note hd rfl
  obtain ⟨⟨⟨inst, i⟩, w, p⟩, hentry, hn⟩ := List.mem_flatMap.mp hn
  obtain ⟨hnamed, hn⟩ := List.mem_ite_nil_left.mp hn
  obtain ⟨horigin, target, rfl, hsimple⟩ := origin_of_mem_orderNotes hn
  obtain ⟨hinst, hw⟩ := mem_entries_iff.mp hentry
  exact ⟨i, target, p, ⟨inst, hinst, by simpa using hnamed, hw, hsimple⟩,
    congrArg Origin.location horigin⟩

theorem reportsOrder_of_phases {source : String} (hmarks : declared.value.HasMarks)
    (hplaced : (Scope.ofDeclared stamp declared.value).model.IsPlaced source) :
    ReportsOrder { (Scope.ofDeclared stamp declared.value).model with
      diagnostics := diagnostics } := by
  have hreports : ∀ {i inst w},
      (Scope.ofDeclared stamp declared.value).model.namedInstances[i]? = some inst →
      inst.isPlaceholder = false → w ∈ inst.wirings →
      orderReports { (Scope.ofDeclared stamp declared.value).model with
          diagnostics := diagnostics } w.2 =
        ((orderNotes (Scope.ofDeclared stamp declared.value) i inst w).countP fun n =>
            n.code = .namedInstanceMissing,
          (orderNotes (Scope.ofDeclared stamp declared.value) i inst w).countP fun n =>
            n.code = .dependencyOrderViolation) := fun hinst hnamed hw =>
    Prod.ext (countAt_entry hdiagnostics hplaced hinst hnamed hw rfl)
      (countAt_entry hdiagnostics hplaced hinst hnamed hw rfl)
  constructor
  · rintro i target p ⟨inst, hinst, hnamed, hw, hsimple⟩ hnone
    rw [hreports hinst hnamed hw, orderNotes_of_missing hmarks hsimple hnone]
    rfl
  · rintro i target p ⟨inst, hinst, hnamed, hw, hsimple⟩ hsome hbefore
    rw [hreports hinst hnamed hw, orderNotes_of_later hmarks hsimple hsome hbefore]
    rfl
  · rintro i target p ⟨inst, hinst, hnamed, hw, hsimple⟩ hearlier
    rw [hreports hinst hnamed hw, orderNotes_of_earlier hmarks hsimple hearlier]
    rfl
  · rintro d hd (hcode | hcode)
    · exact exists_entry_of_mem_diagnostics hdiagnostics hd (by rw [hcode]; rfl)
    · exact exists_entry_of_mem_diagnostics hdiagnostics hd (by rw [hcode]; rfl)

end

theorem reportsOrder_refused (options : Options) (source : String) {cause : Note}
    (h : cause.finding.phase = .reading) : (refused options source cause).ReportsOrder := by
  have hnone : ∀ i target p, ¬(refused options source cause).RefersFrom i target p := by
    rintro i target p ⟨inst, hinst, -⟩
    simp [refused] at hinst
  constructor
  · intro i target p hrefers
    exact absurd hrefers (hnone i target p)
  · intro i target p hrefers
    exact absurd hrefers (hnone i target p)
  · intro i target p hrefers
    exact absurd hrefers (hnone i target p)
  · intro d hd hcode
    have hphase := phase_of_mem_refused h hd
    rcases hcode with hcode | hcode <;> simp [hcode, Code.phase] at hphase

/-- Every document has its references reported by the positions of the names that they refer to,
each at its own entry. -/
theorem ofNode_reportsOrder (options : Options) (source : String) (root : Node) :
    (ofNode options source root).ReportsOrder := by
  have hplaced := isPlaced_ofNode options source root
  rcases ofNode_phases options source root with
    ⟨cause, hphase, he⟩ | ⟨declared, diagnostics, hread, hdiagnostics, he⟩
  · rw [he]
    exact reportsOrder_refused options source hphase
  · rw [he] at hplaced ⊢
    exact reportsOrder_of_phases hdiagnostics (Declared.Reading.readDocument_marked _ hread)
      (isPlaced_withDiagnostics.mp hplaced)

/-- An instance that refers to itself is not declared before itself. -/
example : (Sample.linked "Second").orderReports
    (Sample.place "namedInstances[1].assignments[0]") = (0, 1) := by
  decide +kernel

end Model

end DependencyWiring
