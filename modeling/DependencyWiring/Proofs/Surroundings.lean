import DependencyWiring.Proofs.PlacesOfNotes
import DependencyWiring.Proofs.Slots

/-!
# Documents that differ at one place

The surroundings of a node are a mapping that lacks one item of the list under a key. Documents that
differ only in what stands at the place of a slot are made of the same surroundings, filled with one
node and with another, so that all places beside it lead to the same nodes.
-/
namespace DependencyWiring

namespace Node

/-! ## Surroundings -/

theorem lookup_append (key : String) (entries entries' : List (String × Node)) :
    lookup key (entries ++ entries') = (lookup key entries).or (lookup key entries') := by
  induction entries with
  | nil => rfl
  | cons e entries ih =>
    rw [List.cons_append, lookup, lookup, ih]
    split <;> rfl

theorem lookup_eq_none {key : String} {entries : List (String × Node)}
    (h : key ∉ entries.map Prod.fst) : lookup key entries = none := by
  induction entries with
  | nil => rfl
  | cons e entries ih =>
    rw [List.map_cons, List.mem_cons, not_or] at h
    rw [lookup, if_neg (Ne.symm h.1), ih h.2]

/-- A mapping that lacks one item of the list that a key holds where it is first given. -/
structure Surroundings where
  before : List (String × Node)
  key : String
  earlier : List Node
  later : List Node
  after : List (String × Node)
  place : Position
  position : Position
  isFirst : key ∉ before.map Prod.fst

namespace Surroundings

variable (x : Surroundings) {key : String} {i : Nat} (n n' : Node)

def entries : List (String × Node) :=
  x.before ++ (x.key, .sequence (x.earlier ++ n :: x.later) x.place) :: x.after

def fill : Node :=
  .mapping (x.entries n) x.position

@[simp] theorem entries_fill : (x.fill n).entries? = some (x.entries n) := rfl

theorem get_fill : (x.fill n).get? x.key =
    some (.sequence (x.earlier ++ n :: x.later) x.place) := by
  change lookup x.key (x.entries n) = _
  rw [entries, lookup_append, lookup_eq_none x.isFirst, Option.none_or, lookup, if_pos rfl]

/-- Under another key stands what stood there before. -/
theorem get_fill_of_ne (h : key ≠ x.key) : (x.fill n').get? key = (x.fill n).get? key := by
  change lookup key (x.entries n') = lookup key (x.entries n)
  simp only [entries, lookup_append, lookup, if_neg (Ne.symm h)]

theorem listed_fill : (x.fill n).listed x.key = x.earlier ++ n :: x.later := by
  rw [listed, get_fill]
  rfl

theorem listed_fill_of_ne (h : key ≠ x.key) : (x.fill n').listed key = (x.fill n).listed key := by
  rw [listed, listed, x.get_fill_of_ne n n' h]

theorem getElem_fill : ((x.fill n).listed x.key)[x.earlier.length]? = some n := by
  rw [listed_fill]
  simp

theorem getElem_fill_of_ne (h : (key, i) ≠ (x.key, x.earlier.length)) :
    ((x.fill n').listed key)[i]? = ((x.fill n).listed key)[i]? := by
  by_cases hkey : key = x.key
  · subst hkey
    have hi : i ≠ x.earlier.length := fun hi => h (by rw [hi])
    rw [listed_fill, listed_fill, List.getElem?_append, List.getElem?_append]
    split
    · rfl
    · have hpos : i - x.earlier.length ≠ 0 := by omega
      rw [List.getElem?_cons, List.getElem?_cons, if_neg hpos, if_neg hpos]
  · rw [x.listed_fill_of_ne n n' hkey]

theorem length_listed_fill :
    ((x.fill n').listed key).length = ((x.fill n).listed key).length := by
  by_cases hkey : key = x.key
  · subst hkey
    simp [listed_fill]
  · rw [x.listed_fill_of_ne n n' hkey]

end Surroundings

/-! ## Differences -/

/-- The nodes are the same but for what stands at the end of the keys and positions, which may be
anything. -/
inductive DiffersAt : List (String × Nat) → Node → Node → Prop
  | here (n n' : Node) : DiffersAt [] n n'
  | item (x : Surroundings) {keys : List (String × Nat)} {n n' : Node} : DiffersAt keys n n' →
      DiffersAt ((x.key, x.earlier.length) :: keys) (x.fill n) (x.fill n')

theorem DiffersAt.exists_surroundings {e : String × Nat} {keys : List (String × Nat)}
    {root root' : Node} (h : DiffersAt (e :: keys) root root') :
    ∃ x : Surroundings, ∃ n n', (x.key, x.earlier.length) = e ∧ root = x.fill n ∧
      root' = x.fill n' ∧ DiffersAt keys n n' := by
  generalize hkeys : e :: keys = all at h
  cases h with
  | here => exact absurd hkeys (List.cons_ne_nil e keys)
  | item x hrest =>
    obtain ⟨rfl, rfl⟩ := List.cons.inj hkeys
    exact ⟨x, _, _, rfl, rfl, rfl, hrest⟩

/-- What is neither above nor below the difference is the same. -/
theorem DiffersAt.follow_eq {keys others : List (String × Nat)} {root root' : Node}
    (h : DiffersAt keys root root') (hkeys : ¬ keys <+: others) (hothers : ¬ others <+: keys) :
    root'.follow (.ofKeys others) = root.follow (.ofKeys others) := by
  induction h generalizing others with
  | here => exact absurd List.nil_prefix hkeys
  | @item x keys n n' _ ih =>
    cases others with
    | nil => exact absurd List.nil_prefix hothers
    | cons e others =>
      rw [Trail.follow_ofKeys_cons, Trail.follow_ofKeys_cons]
      by_cases he : e = (x.key, x.earlier.length)
      · subst he
        rw [List.prefix_cons_inj] at hkeys hothers
        rw [x.getElem_fill, x.getElem_fill]
        exact ih hkeys hothers
      · rw [x.getElem_fill_of_ne n n' he]

end Node

/-! ## Places apart -/

namespace Slot

/-- Parameters, assignments and elements are parts of a class or of an instance. -/
def isPart : Slot → Bool
  | parameter .. | assignment .. | element .. => true
  | _ => false

/-- Neither place is the other one or leads on to it. -/
def IsApartFrom (t s : Slot) : Prop :=
  ¬ LogicalPath.IsWithin t.path s.path ∧ ¬ LogicalPath.IsWithin s.path t.path

theorem foldl_isWithin {parent : String} (h : parent ≠ LogicalPath.root)
    (keys : List (String × Nat)) :
    LogicalPath.IsWithin
      (keys.foldl (fun parent e => LogicalPath.item parent e.1 e.2) parent) parent := by
  induction keys generalizing parent with
  | nil => exact .refl parent
  | cons e keys ih =>
    exact (ih (LogicalPath.item_ne_root _ _ _)).trans (LogicalPath.item_isWithin h e.1 e.2)

theorem path_eq_foldl (s : Slot) :
    s.path = s.keys.foldl (fun parent e => LogicalPath.item parent e.1 e.2) LogicalPath.root :=
  Trail.path_ofKeys s.keys

/-- Every declaration stands in some list. -/
theorem exists_keys_eq_cons (s : Slot) : ∃ e keys, s.keys = e :: keys := by
  cases s <;> exact ⟨_, _, rfl⟩

theorem path_ne_root (s : Slot) : s.path ≠ LogicalPath.root := by
  intro h
  obtain ⟨e, keys, hkeys⟩ := s.exists_keys_eq_cons
  rw [(Trail.path_ofKeys_cases s.keys).2 h] at hkeys
  exact absurd hkeys.symm (List.cons_ne_nil e keys)

theorem isWithin_of_keys {s t : Slot} (h : s.keys <+: t.keys) :
    LogicalPath.IsWithin t.path s.path := by
  obtain ⟨rest, hrest⟩ := h
  rw [t.path_eq_foldl, ← hrest, List.foldl_append, ← s.path_eq_foldl]
  exact foldl_isWithin s.path_ne_root rest

theorem IsApartFrom.not_keys {s t : Slot} (h : t.IsApartFrom s) :
    ¬ s.keys <+: t.keys ∧ ¬ t.keys <+: s.keys :=
  ⟨fun hbelow => h.1 (isWithin_of_keys hbelow), fun habove => h.2 (isWithin_of_keys habove)⟩

end Slot

end DependencyWiring
