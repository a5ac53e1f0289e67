import DependencyWiring.DocumentStore
import DependencyWiring.Proofs.SeparatedTexts
import Mathlib.Data.List.Basic
import Mathlib.Tactic.SplitIfs

/-!
# Places of paths

The place a path names is what a stack holds after the pieces of the path were put on it or took
something from it. What the pieces do to a stack is summed up by a walk: how many steps up found
nothing of the path to take back, and which names are left. So every place is such names, behind the
root if the path is absolute and never climbs above it, and the path written from them is a normal
form. A store of documents answers by places alone.
-/
namespace DependencyWiring

namespace Path

/-- A text that stands for a step down to a name when it is a piece of a path. -/
structure IsName (text : List Char) : Prop where
  ne_nil : text ≠ []
  ne_dot : text ≠ ['.']
  ne_dots : text ≠ ['.', '.']
  slash_not_mem : '/' ∉ text

/-- A path that starts at the root. -/
def IsAbsolute (path : String) : Prop := path.toList.head? = some '/'

instance (path : String) : Decidable (IsAbsolute path) := inferInstanceAs (Decidable (_ = _))

/-- The component in front of those that the pieces stand for. -/
def anchor (path : String) : List Component :=
  if IsAbsolute path then [.root] else []

/-! ## Pieces on a stack -/

/-- What a piece does to a stack, the latest on top: a name is put on it, a step up takes the latest
from it if there is any, and other pieces do nothing. -/
def enter {α : Type} (f : List Char → α) (stack : List α) (piece : List Char) : List α :=
  if piece = [] ∨ piece = ['.'] then stack
  else if piece = ['.', '.'] then stack.tail
  else f piece :: stack

/-- What is left of a part of a path: the steps up with no name of the part before them to take
back, and the names that were not taken back, the latest in front. -/
structure Walk where
  climbed : Nat
  names : List (List Char)
  deriving DecidableEq, Repr, Inhabited

namespace Walk

variable {α : Type} (f : List Char → α)

/-- The walk that a piece makes longer. -/
def enter (w : Walk) (piece : List Char) : Walk :=
  if piece = [] ∨ piece = ['.'] then w
  else if piece = ['.', '.'] then
    match w.names with
    | [] => { w with climbed := w.climbed + 1 }
    | _ :: names => { w with names := names }
  else { w with names := piece :: w.names }

/-- What a walk makes of the stack it starts from. -/
def onto (w : Walk) (stack : List α) : List α :=
  w.names.map f ++ stack.drop w.climbed

theorem enter_onto (w : Walk) (stack : List α) (piece : List Char) :
    Path.enter f (w.onto f stack) piece = (w.enter piece).onto f stack := by
  unfold Path.enter enter
  split_ifs with hstay hup
  · rfl
  · -- A step up takes the latest name of the walk, or reaches into the stack below it.
    obtain ⟨climbed, names⟩ := w
    cases names with
    | nil => exact List.tail_drop
    | cons name names => rfl
  · rfl

/-- Walks act alike on all stacks. -/
theorem foldl_enter_onto (w : Walk) (stack : List α) (ps : List (List Char)) :
    ps.foldl (Path.enter f) (w.onto f stack) = (ps.foldl enter w).onto f stack := by
  induction ps generalizing w with
  | nil => rfl
  | cons piece ps ih => rw [List.foldl_cons, List.foldl_cons, enter_onto, ih]

theorem isName_of_mem_enter {w : Walk} {piece : List Char} (hslash : '/' ∉ piece)
    (hw : ∀ name ∈ w.names, IsName name) : ∀ name ∈ (w.enter piece).names, IsName name := by
  unfold enter
  split_ifs with hstay hup
  · exact hw
  · split
    · exact hw
    · rename_i first names hnames
      exact fun name hname => hw name (hnames ▸ List.mem_cons_of_mem _ hname)
  · obtain ⟨hne, hdot⟩ := not_or.1 hstay
    exact List.forall_mem_cons.2 ⟨⟨hne, hdot, hup, hslash⟩, hw⟩

theorem isName_of_mem_foldl_enter {w : Walk} {ps : List (List Char)}
    (hslash : ∀ piece ∈ ps, '/' ∉ piece) (hw : ∀ name ∈ w.names, IsName name) :
    ∀ name ∈ (ps.foldl enter w).names, IsName name := by
  induction ps generalizing w with
  | nil => exact hw
  | cons piece ps ih =>
    obtain ⟨hpiece, hps⟩ := List.forall_mem_cons.1 hslash
    exact ih hps (isName_of_mem_enter hpiece hw)

end Walk

/-- What is left of a path without its root. -/
def walk (path : String) : Walk :=
  (Text.pieces '/' path.toList).foldl Walk.enter ⟨0, []⟩

/-- How far a path climbs above where it starts: the number of its steps up that find no name of the
path before them to take back. -/
def climb (path : String) : Nat := (walk path).climbed

/-- An absolute path that does not climb above the root. -/
def IsRooted (path : String) : Prop := IsAbsolute path ∧ climb path = 0

instance (path : String) : Decidable (IsRooted path) := inferInstanceAs (Decidable (_ ∧ _))

theorem isName_of_mem_walk (path : String) : ∀ name ∈ (walk path).names, IsName name :=
  Walk.isName_of_mem_foldl_enter (fun _ => Text.not_mem_of_mem_pieces)
    fun _ hname => absurd hname List.not_mem_nil

/-- On every stack the pieces of a path do what its walk does. -/
theorem foldl_enter_pieces {α : Type} (f : List Char → α) (path : String) (stack : List α) :
    (Text.pieces '/' path.toList).foldl (enter f) stack = (walk path).onto f stack :=
  Walk.foldl_enter_onto f ⟨0, []⟩ stack _

/-- The components of pieces are settled as the pieces enter the stack. -/
theorem settle_filterMap (stack : List Component) (ps : List (List Char)) :
    settle stack (ps.filterMap componentOf) = (ps.foldl (enter .name) stack).reverse := by
  induction ps generalizing stack with
  | nil => rfl
  | cons piece ps ih =>
    rw [List.filterMap_cons, List.foldl_cons, ← ih]
    unfold componentOf enter
    split_ifs <;> rfl

theorem components_eq (path : String) :
    components path = anchor path ++ (Text.pieces '/' path.toList).filterMap componentOf := rfl

theorem place_eq (path : String) :
    place path =
      ((Text.pieces '/' path.toList).foldl (enter .name) (anchor path)).reverse := by
  rw [← settle_filterMap, place, normalize, components_eq]
  unfold anchor
  split_ifs <;> rfl

theorem place_eq_walk (path : String) :
    place path = ((walk path).onto .name (anchor path)).reverse := by
  rw [place_eq, foldl_enter_pieces]

theorem drop_anchor (path : String) :
    (anchor path).drop (climb path) = if IsRooted path then [.root] else [] := by
  unfold anchor
  by_cases habsolute : IsAbsolute path
  · rw [if_pos habsolute]
    by_cases hclimb : climb path = 0
    · rw [if_pos ⟨habsolute, hclimb⟩, hclimb, List.drop_zero]
    · rw [if_neg fun h => hclimb h.2]
      exact List.drop_eq_nil_of_le (Nat.one_le_iff_ne_zero.2 hclimb)
  · rw [if_neg habsolute, if_neg fun h => habsolute h.1, List.drop_nil]

/-- A place is the names that are left of a path, behind the root if the path is rooted. -/
theorem place_eq_names (path : String) :
    place path =
      (if IsRooted path then [.root] else []) ++ (walk path).names.reverse.map .name := by
  rw [place_eq_walk, Walk.onto, ← climb, drop_anchor, List.reverse_append, List.map_reverse]
  split_ifs <;> rfl

/-! ## Detours -/

/-- A part of a path that leads back to where it starts. -/
inductive IsDetour : String → Prop where
  | stay : IsDetour "."
  | back {name : String} (h : IsName name.toList) : IsDetour (name ++ "/..")

/-- The path that goes on from the end of a path. -/
def join (path rest : String) : String :=
  if path = "" then rest else child path rest

theorem pieces_slash (before after : String) :
    Text.pieces '/' (before ++ "/" ++ after).toList =
      Text.pieces '/' before.toList ++ Text.pieces '/' after.toList := by
  have hslash : (before ++ "/" ++ after).toList = before.toList ++ '/' :: after.toList := by simp
  rw [hslash, Text.pieces_append]

theorem pieces_slash_end (path : String) :
    Text.pieces '/' (path ++ "/").toList = Text.pieces '/' path.toList ++ [[]] := by
  have hslash : (path ++ "/").toList = path.toList ++ '/' :: [] := by simp
  rw [hslash, Text.pieces_append]
  rfl

theorem pieces_back {name : String} (h : IsName name.toList) :
    Text.pieces '/' (name ++ "/..").toList = [name.toList, ['.', '.']] := by
  have hslash : name ++ "/.." = name ++ "/" ++ ".." := by rw [String.append_assoc]; rfl
  rw [hslash, pieces_slash, Text.pieces_eq_singleton h.slash_not_mem]
  rfl

theorem foldl_enter_detour {detour : String} (h : IsDetour detour) {α : Type}
    (f : List Char → α) (stack : List α) :
    (Text.pieces '/' detour.toList).foldl (enter f) stack = stack := by
  cases h with
  | stay => rfl
  | @back name h =>
    rw [pieces_back h]
    simp [enter, h.ne_nil, h.ne_dot, h.ne_dots]

theorem not_isAbsolute_detour {detour : String} (h : IsDetour detour) : ¬ IsAbsolute detour := by
  cases h with
  | stay => decide
  | @back name h =>
    obtain ⟨c, cs, hname⟩ := List.exists_cons_of_ne_nil h.ne_nil
    have hslash := h.slash_not_mem
    rw [hname] at hslash
    simp only [IsAbsolute, String.toList_append, hname]
    rintro ⟨rfl⟩
    exact hslash List.mem_cons_self

/-- A text behind a slash does not change whether a path is absolute. -/
theorem anchor_slash (before after : String) :
    anchor (before ++ "/" ++ after) = anchor (before ++ "/") := by
  simp only [anchor, IsAbsolute, String.toList_append, List.append_assoc]
  cases before.toList <;> rfl

/-- What stands behind a slash goes on from the place in front of it. -/
theorem place_slash (before after : String) :
    place (before ++ "/" ++ after) =
      ((Text.pieces '/' after.toList).foldl (enter .name)
        (place (before ++ "/")).reverse).reverse := by
  rw [place_eq, place_eq, anchor_slash, pieces_slash, pieces_slash_end, List.reverse_reverse,
    List.foldl_append, List.foldl_append]
  rfl

/-- A slash at the end does not count. -/
theorem place_slash_end {path : String} (h : path ≠ "") : place (path ++ "/") = place path := by
  have hanchor : anchor (path ++ "/") = anchor path := by
    obtain ⟨c, cs, hpath⟩ := List.exists_cons_of_ne_nil (mt String.toList_eq_nil_iff.1 h)
    simp only [anchor, IsAbsolute, String.toList_append, hpath]
    rfl
  rw [place_eq, place_eq, hanchor, pieces_slash_end, List.foldl_append]
  rfl

/-- A detour between two parts of a path leads nowhere. -/
theorem place_detour {detour : String} (h : IsDetour detour) (before after : String) :
    place (before ++ "/" ++ detour ++ "/" ++ after) = place (before ++ "/" ++ after) := by
  calc place (before ++ "/" ++ detour ++ "/" ++ after)
      = place (before ++ "/" ++ (detour ++ "/" ++ after)) := by simp only [String.append_assoc]
    _ = place (before ++ "/" ++ after) := by
      rw [place_slash, place_slash, pieces_slash, List.foldl_append, foldl_enter_detour h]

/-- A detour at the end of a path leads nowhere. -/
theorem place_join_detour {detour : String} (h : IsDetour detour) (path : String) :
    place (join path detour) = place path := by
  unfold join child
  split_ifs with hempty hlast
  · rw [hempty, place_eq, anchor, if_neg (not_isAbsolute_detour h), foldl_enter_detour h]
    rfl
  · obtain ⟨front, hfront⟩ := List.getLast?_eq_some_iff.1 hlast
    have hpath : path = String.ofList front ++ "/" := by
      rw [← String.toList_inj, hfront]
      simp
    rw [hpath, place_slash, foldl_enter_detour h, List.reverse_reverse]
  · rw [place_slash, foldl_enter_detour h, List.reverse_reverse, place_slash_end hempty]

/-! ## Normal forms -/

/-- The path written from the place that a path names. -/
def normalForm (path : String) : String := ofComponents (place path)

/-- Names, behind the root or not. -/
inductive IsSettled : List Component → Prop where
  | relative {names : List (List Char)} (h : ∀ name ∈ names, IsName name) :
      IsSettled (names.map .name)
  | absolute {names : List (List Char)} (h : ∀ name ∈ names, IsName name) :
      IsSettled (.root :: names.map .name)

theorem isSettled_place (path : String) : IsSettled (place path) := by
  have hnames : ∀ name ∈ (walk path).names.reverse, IsName name :=
    fun name hname => isName_of_mem_walk path name (List.mem_reverse.1 hname)
  rw [place_eq_names]
  split_ifs
  · exact .absolute hnames
  · exact .relative hnames

theorem settle_names (stack : List Component) (names : List (List Char)) :
    settle stack (names.map .name) = stack.reverse ++ names.map .name := by
  induction names generalizing stack with
  | nil => simp [settle]
  | cons name names ih => simp [settle, ih]

theorem normalize_eq_self {cs : List Component} (h : IsSettled cs) : normalize cs = cs := by
  cases h with
  | relative => exact settle_names [] _
  | absolute => exact settle_names [.root] _

theorem componentOf_name {text : List Char} (h : IsName text) :
    componentOf text = some (.name text) := by
  simp [componentOf, h.ne_nil, h.ne_dot, h.ne_dots]

theorem filterMap_componentOf {names : List (List Char)} (h : ∀ name ∈ names, IsName name) :
    names.filterMap componentOf = names.map .name := by
  rw [List.filterMap_eq_map_iff_forall_eq_some]
  exact fun name hname => componentOf_name (h name hname)

theorem map_text_name (names : List (List Char)) :
    (names.map Component.name).map Component.text = names := by
  rw [List.map_map]
  exact List.map_id names

theorem toList_ofComponents_names (names : List (List Char)) :
    (ofComponents (names.map .name)).toList = ['/'].intercalate names := by
  rw [ofComponents, String.toList_ofList, map_text_name]
  cases names <;> simp

theorem toList_ofComponents_root (names : List (List Char)) :
    (ofComponents (.root :: names.map .name)).toList = '/' :: ['/'].intercalate names := by
  cases names with
  | nil => rfl
  | cons name names =>
    rw [ofComponents, String.toList_ofList, List.map_cons, map_text_name]
    · exact List.intercalate_cons_cons
    · simp

/-- The pieces of names that are joined with slashes are the names, and one empty piece if there are
no names. -/
theorem pieces_names {names : List (List Char)} (h : ∀ name ∈ names, IsName name) :
    Text.pieces '/' (['/'].intercalate names) = if names = [] then [[]] else names := by
  split_ifs with hempty
  · rw [hempty]
    rfl
  · exact Text.pieces_intercalate hempty fun name hname => (h name hname).slash_not_mem

theorem filterMap_pieces_names {names : List (List Char)} (h : ∀ name ∈ names, IsName name) :
    (Text.pieces '/' (['/'].intercalate names)).filterMap componentOf = names.map .name := by
  rw [pieces_names h]
  split_ifs with hempty
  · rw [hempty]
    rfl
  · exact filterMap_componentOf h

theorem head?_names_ne_slash {names : List (List Char)} (h : ∀ name ∈ names, IsName name) :
    (['/'].intercalate names).head? ≠ some '/' := by
  cases names with
  | nil => simp
  | cons name rest =>
    have hname := h name List.mem_cons_self
    obtain ⟨c, cs, rfl⟩ := List.exists_cons_of_ne_nil hname.ne_nil
    have hhead : c ≠ '/' := fun hc => hname.slash_not_mem (hc ▸ List.mem_cons_self)
    cases rest <;> simpa using hhead

/-- The components of a place are those of the path written from it. -/
theorem components_ofComponents {cs : List Component} (h : IsSettled cs) :
    components (ofComponents cs) = cs := by
  cases h with
  | @relative names h =>
    have hhead := head?_names_ne_slash h
    have hrelative : ¬ IsAbsolute (ofComponents (names.map .name)) := by
      rw [← toList_ofComponents_names] at hhead
      exact hhead
    rw [components_eq, anchor, if_neg hrelative, toList_ofComponents_names,
      filterMap_pieces_names h, List.nil_append]
  | @absolute names h =>
    have habsolute : IsAbsolute (ofComponents (.root :: names.map .name)) := by
      unfold IsAbsolute
      rw [toList_ofComponents_root]
      rfl
    rw [components_eq, anchor, if_pos habsolute, toList_ofComponents_root, Text.pieces_sep_cons,
      List.filterMap_cons_none (by rfl), filterMap_pieces_names h, List.singleton_append]

/-- A path written from a place has no steps up and no pieces that only stay. -/
theorem isName_of_mem_pieces {cs : List Component} (h : IsSettled cs) {piece : List Char}
    (hpiece : piece ∈ Text.pieces '/' (ofComponents cs).toList) : piece = [] ∨ IsName piece := by
  have hnames {names : List (List Char)} (h : ∀ name ∈ names, IsName name)
      (hpiece : piece ∈ Text.pieces '/' (['/'].intercalate names)) : piece = [] ∨ IsName piece := by
    rw [pieces_names h] at hpiece
    split_ifs at hpiece
    · exact .inl (List.mem_singleton.1 hpiece)
    · exact .inr (h piece hpiece)
  cases h with
  | relative h => exact hnames h (toList_ofComponents_names _ ▸ hpiece)
  | absolute h =>
    rw [toList_ofComponents_root, Text.pieces_sep_cons] at hpiece
    exact (List.mem_cons.1 hpiece).elim .inl (hnames h)

/-- The normal form of a path is a path to the same place. -/
theorem place_normalForm (path : String) : place (normalForm path) = place path := by
  rw [place, normalForm, components_ofComponents (isSettled_place path)]
  exact normalize_eq_self (isSettled_place path)

theorem normalForm_normalForm (path : String) : normalForm (normalForm path) = normalForm path := by
  rw [normalForm, place_normalForm, normalForm]

theorem normalForm_eq_iff {p q : String} : normalForm p = normalForm q ↔ place p = place q := by
  constructor
  · intro h
    rw [← place_normalForm p, h, place_normalForm]
  · intro h
    rw [normalForm, h, normalForm]

end Path

/-! ## Answers of stores -/

namespace DocumentStore

open DependencyWiring.Path

theorem read_eq_of_place_eq (store : DocumentStore) {p q : String} (h : place p = place q) :
    store.read p = store.read q := by
  rw [read, read, h]

/-- A store is a map from places to texts. A document is read at every path of the normal form under
which it was put, and answers at other paths stay. A normal form is its own normal form, it leads to
the same document, and no piece of it is a dot or two. A detour between two parts of a path or at
its end does not change what is read. -/
theorem read_goesByPlace (store : DocumentStore) :
    (∀ p q text : String, (store.add p text).read q =
      if normalForm p = normalForm q then .ok text else store.read q) ∧
    (∀ path : String, normalForm (normalForm path) = normalForm path ∧
      store.read (normalForm path) = store.read path ∧
      ∀ piece ∈ Text.pieces '/' (normalForm path).toList, piece ≠ ['.'] ∧ piece ≠ ['.', '.']) ∧
    ∀ detour : String, IsDetour detour →
      (∀ before after : String, store.read (before ++ "/" ++ detour ++ "/" ++ after) =
        store.read (before ++ "/" ++ after)) ∧
      ∀ path : String, store.read (join path detour) = store.read path := by
  refine ⟨?_, ?_, ?_⟩
  · intro p q text
    rw [read_add]
    exact if_congr normalForm_eq_iff.symm rfl rfl
  · intro path
    refine ⟨normalForm_normalForm path, store.read_eq_of_place_eq (place_normalForm path), ?_⟩
    intro piece hpiece
    rcases isName_of_mem_pieces (isSettled_place path) hpiece with rfl | hname
    · exact ⟨by decide, by decide⟩
    · exact ⟨hname.ne_dot, hname.ne_dots⟩
  · intro detour h
    exact ⟨fun before after => store.read_eq_of_place_eq (place_detour h before after),
      fun path => store.read_eq_of_place_eq (place_join_detour h path)⟩

/-- A document is found behind a detour over a name of three dots, and at a detour at the end of a
path with a slash. It is not found at a relative path. -/
theorem read_goesByPlace_docs :
    IsDetour ".../.." ∧ IsDetour "." ∧
    ((empty.add "/docs/wiring.yaml" "codeGen: {}").read "/docs/.../../wiring.yaml" =
      .ok "codeGen: {}") ∧
    ((empty.add "/docs/wiring.yaml" "codeGen: {}").read "/docs/wiring.yaml/." =
      .ok "codeGen: {}") ∧
    (empty.add "/docs/wiring.yaml" "codeGen: {}").read "docs/wiring.yaml" =
      .error "document not found in memory: docs/wiring.yaml" := by
  have hname : IsName "...".toList := ⟨by decide, by decide, by decide, by decide⟩
  have hback : IsDetour ".../.." := IsDetour.back hname
  refine ⟨hback, .stay, ?_, ?_, ?_⟩
  · exact ((read_goesByPlace _).2.2 _ hback).1 "/docs" "wiring.yaml"
  · exact ((read_goesByPlace _).2.2 _ .stay).2 "/docs/wiring.yaml/"
  · exact (read_goesByPlace empty).1 "/docs/wiring.yaml" "docs/wiring.yaml" "codeGen: {}"

end DocumentStore

end DependencyWiring
