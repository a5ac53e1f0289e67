import DependencyWiring.Proofs.Places

/-!
# Locations of paths

A path leads from a directory to one location, and a store should find a document at another path
only if this leads to the same location, whatever the directory is. That is so for paths that do not
climb above where they start. A path that does loses the steps up that found nothing to take back
and, if it is absolute, its root with the first of them, so that a store takes it for another path.
-/
namespace DependencyWiring

namespace Path

/-- The names from the root to where a path leads from a directory. An absolute path leads there
from the root, and a step up from the root stays at the root. -/
def location (directory : List (List Char)) (path : String) : List (List Char) :=
  ((Text.pieces '/' path.toList).foldl (enter id)
    (if IsAbsolute path then [] else directory.reverse)).reverse

/-- The paths lead to the same location from every directory. -/
def SameLocation (p q : String) : Prop :=
  ∀ directory : List (List Char), (∀ name ∈ directory, IsName name) →
    location directory p = location directory q

/-! ## Places -/

theorem root_mem_place_iff (path : String) : .root ∈ place path ↔ IsRooted path := by
  rw [place_eq_names]
  split_ifs with h <;> simp [h]

/-- A place tells the names that are left of a path, and whether the path is rooted. -/
theorem place_eq_iff {p q : String} :
    place p = place q ↔ (walk p).names = (walk q).names ∧ (IsRooted p ↔ IsRooted q) := by
  constructor
  · intro h
    have hrooted : IsRooted p ↔ IsRooted q := by
      rw [← root_mem_place_iff, ← root_mem_place_iff, h]
    rw [place_eq_names, place_eq_names, if_congr hrooted rfl rfl] at h
    have hname : Function.Injective Component.name := fun _ _ => Component.name.inj
    exact ⟨List.reverse_injective (hname.list_map (List.append_cancel_left h)), hrooted⟩
  · rintro ⟨hnames, hrooted⟩
    rw [place_eq_names, place_eq_names, if_congr hrooted rfl rfl, hnames]

/-! ## Locations -/

theorem location_eq (directory : List (List Char)) (path : String) :
    location directory path = ((walk path).names ++
      (if IsAbsolute path then [] else directory.reverse).drop (climb path)).reverse := by
  rw [location, foldl_enter_pieces, Walk.onto, List.map_id, climb]

theorem location_nil (path : String) : location [] path = (walk path).names.reverse := by
  rw [location_eq]
  simp

theorem length_location (directory : List (List Char)) (path : String) :
    (location directory path).length = (walk path).names.length +
      if IsAbsolute path then 0 else directory.length - climb path := by
  rw [location_eq]
  split_ifs <;> simp [Nat.add_comm]

/-- Paths lead to the same location from everywhere if the same names are left of them and they
start at the same place. -/
theorem sameLocation_iff {p q : String} :
    SameLocation p q ↔ (walk p).names = (walk q).names ∧
      (IsAbsolute p ↔ IsAbsolute q) ∧ (IsAbsolute p ∨ climb p = climb q) := by
  constructor
  · intro h
    have hnames : (walk p).names = (walk q).names := by
      have hroot := h [] (by simp)
      rwa [location_nil, location_nil, List.reverse_inj] at hroot
    -- A directory deeper than both paths climb shows where each of them starts.
    have hdeep := congrArg List.length
      (h (List.replicate (climb p + climb q + 1) ['a']) fun name hname =>
        List.eq_of_mem_replicate hname ▸ ⟨by decide, by decide, by decide, by decide⟩)
    rw [length_location, length_location, hnames, List.length_replicate] at hdeep
    refine ⟨hnames, ?_⟩
    split_ifs at hdeep with hp hq hq
    · exact ⟨iff_of_true hp hq, .inl hp⟩
    · omega
    · omega
    · exact ⟨iff_of_false hp hq, .inr (by omega)⟩
  · rintro ⟨hnames, habsolute, hclimb⟩ directory -
    rw [location_eq, location_eq, hnames, if_congr habsolute rfl rfl]
    rcases hclimb with hp | hclimb
    · rw [if_pos (habsolute.1 hp), List.drop_nil, List.drop_nil]
    · rw [hclimb]

end Path

namespace DocumentStore

open DependencyWiring.Path

/-- Whatever text is put at the first path, it is read at the second. -/
def ReadsBack (store : DocumentStore) (p q : String) : Prop :=
  ∀ text : String, (store.add p text).read q = .ok text

theorem readsBack_iff (store : DocumentStore) {p q : String} :
    store.ReadsBack p q ↔ place p = place q := by
  constructor
  · intro h
    by_contra hplace
    have hfirst := h "a"
    have hsecond := h "b"
    rw [read_add, if_neg hplace] at hfirst hsecond
    exact absurd (hfirst.symm.trans hsecond) (by simp)
  · intro hplace text
    rw [read_add, if_pos hplace]

/-- A document is read back at a path to the same location from the root that is rooted or not like
the path where it was put. The two then lead to the same location from everywhere exactly if both
are absolute, or both are relative and climb equally far. So paths that do not climb are read back
from each other exactly if they lead to the same location from everywhere, and then both are
absolute or both are relative. -/
theorem readsBack_locations (store : DocumentStore) (p q : String) :
    (store.ReadsBack p q ↔ location [] p = location [] q ∧ (IsRooted p ↔ IsRooted q)) ∧
    (store.ReadsBack p q →
      (SameLocation p q ↔
        (IsAbsolute p ↔ IsAbsolute q) ∧ (IsAbsolute p ∨ climb p = climb q))) ∧
    (climb p = 0 → climb q = 0 →
      (store.ReadsBack p q ↔ SameLocation p q) ∧
      (store.ReadsBack p q → (IsAbsolute p ↔ IsAbsolute q))) := by
  rw [readsBack_iff, place_eq_iff, sameLocation_iff, location_nil, location_nil, List.reverse_inj]
  refine ⟨Iff.rfl, fun h => and_iff_right h.1, ?_⟩
  intro hp hq
  have hrooted : (IsRooted p ↔ IsRooted q) ↔ (IsAbsolute p ↔ IsAbsolute q) := by
    simp only [IsRooted, hp, hq, and_true]
  rw [hrooted, or_iff_right_of_imp fun _ => hp.trans hq.symm, and_iff_left (hp.trans hq.symm)]
  exact ⟨Iff.rfl, And.right⟩

/-- A document put at a path through a directory that is taken back is read at the path without
it, and the two lead to the same location from everywhere. -/
theorem readsBack_locations_docs :
    climb "docs/old/../wiring.yaml" = 0 ∧ climb "./docs//wiring.yaml" = 0 ∧
    empty.ReadsBack "docs/old/../wiring.yaml" "./docs//wiring.yaml" ∧
    SameLocation "docs/old/../wiring.yaml" "./docs//wiring.yaml" := by
  have hfirst : climb "docs/old/../wiring.yaml" = 0 := by decide +kernel
  have hsecond : climb "./docs//wiring.yaml" = 0 := by decide +kernel
  have hread : empty.ReadsBack "docs/old/../wiring.yaml" "./docs//wiring.yaml" :=
    (readsBack_locations _ _ _).1.2 (by decide +kernel)
  exact ⟨hfirst, hsecond, hread, ((readsBack_locations _ _ _).2.2 hfirst hsecond).1.1 hread⟩

/-- A document put at an absolute path that climbs above the root is read at a relative path, which
leads to another location. -/
theorem climbing_meets_relative :
    ¬ ∀ (store : DocumentStore) (p q : String), store.ReadsBack p q → SameLocation p q := by
  intro hall
  have hread : empty.ReadsBack "/../wiring.yaml" "wiring.yaml" := by
    rw [readsBack_iff]
    decide +kernel
  have hname : IsName "docs".toList := ⟨by decide, by decide, by decide, by decide⟩
  have hlocation := hall empty _ _ hread ["docs".toList] (by simpa using hname)
  exact absurd hlocation (by decide +kernel)

end DocumentStore

end DependencyWiring
