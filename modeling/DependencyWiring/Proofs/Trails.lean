import DependencyWiring.LogicalPath
import DependencyWiring.Node
import DependencyWiring.Proofs.QualifiedNames
import Mathlib.Data.List.Induction

/-!
# Trails through a document

A trail leads from the root of a document to a node, one key or position at a time. A mapping may
give a key more than once, so a trail may reach several nodes, of which the readers follow it to the
first. The path of a trail is spelled here from its steps alone, and it is shown that the readers
spell their paths alike and that trails of keys and positions can be told from their paths.
-/
namespace DependencyWiring

namespace Trail

/-- To the value of a key, or to an item of a sequence. -/
inductive Step where
  | key (name : String)
  | item (index : Nat)
  deriving DecidableEq, Repr

/-- A key is written behind a dot, a position in brackets. -/
def Step.text : Step → String
  | key name => "." ++ name
  | item index => "[" ++ toString index ++ "]"

end Trail

abbrev Trail := List Trail.Step

/-! ## Nodes on a trail -/

namespace Node

/-- The items of the sequence that a key holds. -/
def listed (n : Node) (key : String) : List Node :=
  ((n.get? key).bind items?).getD []

/-- The node that a trail leads to when each key leads to its first value. -/
def follow : Node → Trail → Option Node
  | n, [] => some n
  | n, .key name :: rest => (n.get? name).bind fun v => follow v rest
  | n, .item index :: rest => (n.items?.bind (·[index]?)).bind fun v => follow v rest

/-- The trail leads from the first node to the second. -/
inductive Reaches : Node → Trail → Node → Prop
  | here (n : Node) : Reaches n [] n
  | key {entries : List (String × Node)} {position : Position} {name : String} {v n : Node}
      {rest : Trail} : (name, v) ∈ entries → Reaches v rest n →
      Reaches (.mapping entries position) (.key name :: rest) n
  | item {items : List Node} {position : Position} {index : Nat} {v n : Node} {rest : Trail} :
      items[index]? = some v → Reaches v rest n →
      Reaches (.sequence items position) (.item index :: rest) n

theorem Reaches.append {m n k : Node} {s t : Trail} (h : m.Reaches s n) (h' : n.Reaches t k) :
    m.Reaches (s ++ t) k := by
  induction h with
  | here => exact h'
  | key hmem _ ih => exact .key hmem (ih h')
  | item hitem _ ih => exact .item hitem (ih h')

theorem mem_of_lookup {key : String} {entries : List (String × Node)} {v : Node}
    (h : lookup key entries = some v) : (key, v) ∈ entries := by
  induction entries with
  | nil => simp [lookup] at h
  | cons e es ih =>
    obtain ⟨k, w⟩ := e
    rw [lookup] at h
    split at h
    · rename_i hk
      obtain rfl := Option.some.inj h
      exact hk ▸ List.mem_cons_self
    · exact List.mem_cons_of_mem _ (ih h)

theorem mem_entries_of_get {n v : Node} {key : String} (h : n.get? key = some v) :
    ∃ entries position, n = .mapping entries position ∧ (key, v) ∈ entries := by
  cases n with
  | mapping entries position => exact ⟨entries, position, rfl, mem_of_lookup h⟩
  | sequence => simp [get?, entries?] at h
  | scalar => simp [get?, entries?] at h

theorem getElem_listed (n : Node) (key : String) (index : Nat) :
    (n.listed key)[index]? = n.follow [.key key, .item index] := by
  unfold listed follow follow follow
  cases n.get? key with
  | none => rfl
  | some v => cases hv : v.items? <;> simp [hv]

theorem follow_append (n : Node) (s t : Trail) :
    n.follow (s ++ t) = (n.follow s).bind fun v => v.follow t := by
  induction s generalizing n with
  | nil => rfl
  | cons step rest ih => cases step <;> simp [follow, ih, Option.bind_assoc]

theorem reaches_of_follow {n k : Node} {trail : Trail} (h : n.follow trail = some k) :
    n.Reaches trail k := by
  induction trail generalizing n with
  | nil =>
    obtain rfl := Option.some.inj h
    exact .here n
  | cons step rest ih =>
    cases step with
    | key name =>
      obtain ⟨v, hv, hrest⟩ := Option.bind_eq_some_iff.mp h
      obtain ⟨entries, position, rfl, hmem⟩ := mem_entries_of_get hv
      exact .key hmem (ih hrest)
    | item index =>
      obtain ⟨v, hv, hrest⟩ := Option.bind_eq_some_iff.mp h
      obtain ⟨items, hitems, hindex⟩ := Option.bind_eq_some_iff.mp hv
      cases n with
      | mapping => simp [items?] at hitems
      | sequence items' position =>
        obtain rfl := Option.some.inj hitems
        exact .item hindex (ih hrest)
      | scalar => simp [items?] at hitems

end Node

/-! ## Paths -/

namespace Trail

/-- The root has a name of its own, which is not written in front of a key. -/
def path : Trail → String
  | .key name :: rest => name ++ String.join (rest.map Step.text)
  | steps => LogicalPath.root ++ String.join (steps.map Step.text)

theorem path_append {s : Trail} (hs : s ≠ []) (t : Trail) :
    path (s ++ t) = path s ++ String.join (t.map Step.text) := by
  cases s with
  | nil => exact absurd rfl hs
  | cons step rest => cases step <;> simp [path, String.append_assoc]

/-- The readers spell a key as it is spelled at the end of a trail. -/
theorem path_key {s : Trail} (hs : path s = LogicalPath.root → s = []) (name : String) :
    path (s ++ [.key name]) = LogicalPath.key (path s) name := by
  cases s with
  | nil => simp [path, LogicalPath.key]
  | cons step rest =>
    have hroot : path (step :: rest) ≠ LogicalPath.root := fun h => absurd (hs h) (by simp)
    rw [path_append (List.cons_ne_nil _ _), LogicalPath.key, if_neg hroot]
    simp [Step.text, String.append_assoc]

theorem path_item {s : Trail} (hs : path s = LogicalPath.root → s = []) (name : String)
    (index : Nat) :
    path (s ++ [.key name, .item index]) = LogicalPath.item (path s) name index := by
  rw [LogicalPath.item, ← path_key hs name, List.append_cons, path_append (by simp)]
  simp [Step.text, String.append_assoc]

/-! ## Keys with positions -/

/-- The trail that goes from each key on to the item at a position. -/
def ofKeys (keys : List (String × Nat)) : Trail :=
  keys.flatMap fun e => [.key e.1, .item e.2]

/-- The path as the readers spell it, one item after the other. -/
theorem path_ofKeys_cases (keys : List (String × Nat)) :
    path (ofKeys keys) =
        keys.foldl (fun parent e => LogicalPath.item parent e.1 e.2) LogicalPath.root ∧
      (path (ofKeys keys) = LogicalPath.root → keys = []) := by
  -- A path grows at its end, and a key may follow only a path that is not mistaken for the root.
  induction keys using List.reverseRecOn with
  | nil => exact ⟨rfl, fun _ => rfl⟩
  | append_singleton keys e ih =>
    obtain ⟨hpath, hroot⟩ := ih
    have hitem : path (ofKeys (keys ++ [e])) =
        LogicalPath.item (path (ofKeys keys)) e.1 e.2 := by
      rw [ofKeys, List.flatMap_append, ← ofKeys]
      refine path_item (fun h => ?_) e.1 e.2
      rw [hroot h]
      rfl
    constructor
    · rw [hitem, hpath, List.foldl_append, List.foldl_cons, List.foldl_nil]
    · intro h
      rw [hitem] at h
      exact absurd h (LogicalPath.item_ne_root _ _ _)

theorem follow_ofKeys_nil (n : Node) : n.follow (ofKeys []) = some n := rfl

/-- Along keys and positions one list after the other is looked into. -/
theorem follow_ofKeys_cons (n : Node) (e : String × Nat) (keys : List (String × Nat)) :
    n.follow (ofKeys (e :: keys)) =
      ((n.listed e.1)[e.2]?).bind fun v => v.follow (ofKeys keys) := by
  rw [Node.getElem_listed, ← Node.follow_append]
  rfl

theorem path_ofKeys (keys : List (String × Nat)) :
    path (ofKeys keys) =
      keys.foldl (fun parent e => LogicalPath.item parent e.1 e.2) LogicalPath.root :=
  (path_ofKeys_cases keys).1

/-- What is written between dots. -/
def segment (e : String × Nat) : List Char :=
  e.1.toList ++ '[' :: (Nat.toDigits 10 e.2 ++ [']'])

/-- A key that is not taken for two, nor for a key with a position. -/
def IsPlainKey (name : String) : Prop :=
  '.' ∉ name.toList ∧ '[' ∉ name.toList

theorem not_mem_toDigits {c : Char} (hc : c.isDigit = false) (n : Nat) :
    c ∉ Nat.toDigits 10 n := by
  intro hmem
  rw [Nat.isDigit_of_mem_toDigits (by decide) (by decide) hmem] at hc
  exact absurd hc (by decide)

theorem dot_not_mem_segment {e : String × Nat} (he : IsPlainKey e.1) : '.' ∉ segment e := by
  have hdigits : '.' ∉ Nat.toDigits 10 e.2 := not_mem_toDigits rfl e.2
  simp [segment, he.1, hdigits]

/-- The bracket in front of the position ends the key. -/
theorem segment_inj {d e : String × Nat} (hd : IsPlainKey d.1) (he : IsPlainKey e.1)
    (h : segment d = segment e) : d = e := by
  have hpieces : ∀ {f : String × Nat}, IsPlainKey f.1 →
      Text.pieces '[' (segment f) = [f.1.toList, Nat.toDigits 10 f.2 ++ [']']] := by
    intro f hf
    have hdigits : '[' ∉ Nat.toDigits 10 f.2 := not_mem_toDigits rfl f.2
    rw [segment, Text.pieces_append, Text.pieces_eq_singleton hf.2,
      Text.pieces_eq_singleton (by simp [hdigits])]
    rfl
  have hboth := congrArg (Text.pieces '[') h
  rw [hpieces hd, hpieces he] at hboth
  simp only [List.cons.injEq, String.toList_inj, List.append_cancel_right_eq, and_true] at hboth
  obtain ⟨hname, hdigits⟩ := hboth
  have hindex : d.2 = e.2 := by
    rw [← Nat.ofDigitChars_ten_toDigits (n := d.2), hdigits, Nat.ofDigitChars_ten_toDigits]
  exact Prod.ext hname hindex

theorem toList_path_ofKeys (e : String × Nat) (keys : List (String × Nat)) :
    (path (ofKeys (e :: keys))).toList =
      segment e ++ keys.flatMap fun e => '.' :: segment e := by
  have hrest : ((ofKeys keys).map Step.text).flatMap String.toList =
      keys.flatMap fun e => '.' :: segment e := by
    induction keys with
    | nil => rfl
    | cons d ds ih =>
      rw [ofKeys, List.flatMap_cons, ← ofKeys, List.map_append, List.flatMap_append, ih,
        List.flatMap_cons]
      simp [Step.text, segment]
  rw [ofKeys, List.flatMap_cons, ← ofKeys, ← hrest]
  simp [path, Step.text, segment]

/-- The dots of a path part its keys. -/
theorem pieces_path_ofKeys {e : String × Nat} {keys : List (String × Nat)}
    (hkeys : ∀ d ∈ e :: keys, IsPlainKey d.1) :
    Text.pieces '.' (path (ofKeys (e :: keys))).toList = (e :: keys).map segment := by
  rw [toList_path_ofKeys]
  induction keys generalizing e with
  | nil =>
    have hdot := dot_not_mem_segment (hkeys e List.mem_cons_self)
    simpa using Text.pieces_eq_singleton hdot
  | cons d ds ih =>
    have hdot := dot_not_mem_segment (hkeys e List.mem_cons_self)
    rw [List.flatMap_cons, List.cons_append, Text.pieces_append, Text.pieces_eq_singleton hdot,
      ih fun f hf => hkeys f (List.mem_cons_of_mem e hf)]
    rfl

theorem map_segment_inj {ds es : List (String × Nat)} (hds : ∀ d ∈ ds, IsPlainKey d.1)
    (hes : ∀ e ∈ es, IsPlainKey e.1) (h : ds.map segment = es.map segment) : ds = es := by
  induction ds generalizing es with
  | nil => simpa using h.symm
  | cons d ds ih =>
    cases es with
    | nil => simp at h
    | cons e es =>
      obtain ⟨hhead, htail⟩ := List.cons.inj h
      rw [segment_inj (hds d List.mem_cons_self) (hes e List.mem_cons_self) hhead,
        ih (fun f hf => hds f (List.mem_cons_of_mem d hf))
          (fun f hf => hes f (List.mem_cons_of_mem e hf)) htail]

/-- Trails of plain keys with positions are told from each other by their paths. -/
theorem ofKeys_inj {ds es : List (String × Nat)} (hds : ∀ d ∈ ds, IsPlainKey d.1)
    (hes : ∀ e ∈ es, IsPlainKey e.1) (h : path (ofKeys ds) = path (ofKeys es)) : ds = es := by
  cases ds with
  | nil => exact ((path_ofKeys_cases es).2 h.symm).symm
  | cons d ds =>
    cases es with
    | nil => exact (path_ofKeys_cases (d :: ds)).2 h
    | cons e es =>
      have hpieces : Text.pieces '.' (path (ofKeys (d :: ds))).toList =
          Text.pieces '.' (path (ofKeys (e :: es))).toList := by rw [h]
      rw [pieces_path_ofKeys hds, pieces_path_ofKeys hes] at hpieces
      exact map_segment_inj hds hes hpieces

end Trail

end DependencyWiring
