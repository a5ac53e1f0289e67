import DependencyWiring.Proofs.AcceptedDocuments
import DependencyWiring.Proofs.ComparedReading
import DependencyWiring.Proofs.KeptDeclarations
import Mathlib.Data.List.Perm.Basic

/-!
# The order of keys

A mapping with distinct keys is read key by key, so the order in which its entries are written down
does not matter. The model is the same, and so are the notes and their order, except that unknown
keys are noted in the order in which they are written.
-/
namespace DependencyWiring

namespace Node

/-- No mapping of the tree gives a key twice. -/
inductive HasDistinctKeys : Node → Prop
  | scalar (text : String) (position : Position) : HasDistinctKeys (.scalar text position)
  | sequence {items : List Node} {position : Position} :
      (∀ n ∈ items, HasDistinctKeys n) → HasDistinctKeys (.sequence items position)
  | mapping {entries : List (String × Node)} {position : Position} :
      (entries.map Prod.fst).Nodup → (∀ e ∈ entries, HasDistinctKeys e.2) →
      HasDistinctKeys (.mapping entries position)

/-- The trees are equal up to the order of the entries in mappings at any depth. -/
inductive Reordered : Node → Node → Prop
  | scalar (text : String) (position : Position) :
      Reordered (.scalar text position) (.scalar text position)
  | sequence {items items' : List Node} {position : Position} :
      List.Forall₂ Reordered items items' →
      Reordered (.sequence items position) (.sequence items' position)
  | mapping {entries between entries' : List (String × Node)} {position : Position} :
      entries.Perm between → between.map Prod.fst = entries'.map Prod.fst →
      List.Forall₂ Reordered (between.map Prod.snd) (entries'.map Prod.snd) →
      Reordered (.mapping entries position) (.mapping entries' position)

/-! ## Entries in another order -/

theorem lookup_perm {entries between : List (String × Node)} (hperm : entries.Perm between)
    (hnodup : (entries.map Prod.fst).Nodup) (key : String) :
    lookup key between = lookup key entries := by
  induction hperm with
  | nil => rfl
  | cons e _ ih =>
    obtain ⟨k, v⟩ := e
    rw [List.map_cons, List.nodup_cons] at hnodup
    rw [lookup, lookup, ih hnodup.2]
  | swap d e es =>
    obtain ⟨k, v⟩ := d
    obtain ⟨k', v'⟩ := e
    have hne : k' ≠ k := by
      intro heq
      simp [heq] at hnodup
    by_cases hk : k = key
    · have hk' : k' ≠ key := hk ▸ hne
      simp [lookup, hk, hk']
    · simp [lookup, hk]
  | trans hfirst _ ih ih' =>
    rw [ih' ((hfirst.map Prod.fst).nodup_iff.mp hnodup), ih hnodup]

theorem lookup_rel {R : Node → Node → Prop} {entries entries' : List (String × Node)}
    (hkeys : entries.map Prod.fst = entries'.map Prod.fst)
    (hvalues : List.Forall₂ R (entries.map Prod.snd) (entries'.map Prod.snd)) (key : String) :
    Option.Rel R (lookup key entries) (lookup key entries') := by
  induction entries generalizing entries' with
  | nil =>
    obtain rfl : entries' = [] := by simpa using hkeys.symm
    exact .none
  | cons e es ih =>
    cases entries' with
    | nil => simp at hkeys
    | cons e' es' =>
      obtain ⟨k, v⟩ := e
      obtain ⟨k', v'⟩ := e'
      obtain ⟨hk, hks⟩ := List.cons.inj hkeys
      obtain ⟨hv, hvs⟩ := List.forall₂_cons.mp hvalues
      dsimp only at hk hv
      subst hk
      unfold lookup
      split
      · exact .some hv
      · exact ih hks hvs

theorem Reordered.position_eq {n n' : Node} (h : n.Reordered n') : n'.position = n.position := by
  cases h <;> rfl

theorem Reordered.entries_eq_nil_iff {n n' : Node} (h : n.Reordered n') :
    n.entries? = some [] ↔ n'.entries? = some [] := by
  cases h with
  | scalar => rfl
  | sequence => rfl
  | mapping hperm hkeys _ =>
    have hlength := hperm.length_eq.trans (by simpa using congrArg List.length hkeys)
    rw [entries?, entries?, Option.some.injEq, Option.some.injEq, ← List.length_eq_zero_iff,
      ← List.length_eq_zero_iff, hlength]

theorem Reordered.get_rel {n n' : Node} (h : n.Reordered n') (hn : n.HasDistinctKeys)
    (key : String) :
    Option.Rel (fun v v' => v.HasDistinctKeys ∧ v.Reordered v') (n.get? key) (n'.get? key) := by
  cases h with
  | scalar => exact .none
  | sequence => exact .none
  | @mapping entries between entries' position hperm hkeys hvalues =>
    cases hn with
    | mapping hnodup hdistinct =>
      have hrel := lookup_rel hkeys hvalues key
      rw [lookup_perm hperm hnodup] at hrel
      change Option.Rel _ (lookup key entries) (lookup key entries')
      cases hv : lookup key entries with
      | none =>
        cases hv' : lookup key entries' with
        | none => exact .none
        | some v' => simp [hv, hv'] at hrel
      | some v =>
        cases hv' : lookup key entries' with
        | none => simp [hv, hv'] at hrel
        | some v' =>
          rw [hv, hv', Option.rel_some_some] at hrel
          exact .some ⟨hdistinct _ (mem_of_lookup hv), hrel⟩

end Node

/-! ## Runs on documents in another order -/

/-- The same places and the same notes, with those on unknown keys in another order among
themselves. -/
def Comparison.unordered : Comparison where
  toRelocation := .identity
  notes as bs :=
    bs.filter (fun n => !n.isUnknownKey) = as.filter (fun n => !n.isUnknownKey) ∧
      (as.filter Note.isUnknownKey).Perm (bs.filter Note.isUnknownKey)
  nil := ⟨rfl, .nil⟩
  append has hbs := by
    simp only [List.filter_append]
    exact ⟨congrArg₂ _ has.1 hbs.1, has.2.append hbs.2⟩
  single _ _ := ⟨rfl, .refl _⟩

namespace Declared.Reading

variable (r : Reading)

theorem notes_checkKeys_perm (kind : Declaration) (path : String)
    {entries between entries' : List (String × Node)} (hperm : entries.Perm between)
    (hkeys : between.map Prod.fst = entries'.map Prod.fst)
    (hvalues : List.Forall₂ Node.Reordered (between.map Prod.snd) (entries'.map Prod.snd)) :
    (r.checkKeys entries kind path).notes.Perm (r.checkKeys entries' kind path).notes := by
  have hsame : (r.checkKeys between kind path).notes = (r.checkKeys entries' kind path).notes := by
    rw [notes_checkKeys, notes_checkKeys]
    clear hperm
    induction between generalizing entries' with
    | nil =>
      obtain rfl : entries' = [] := by simpa using hkeys.symm
      rfl
    | cons e es ih =>
      cases entries' with
      | nil => simp at hkeys
      | cons e' es' =>
        obtain ⟨hk, hks⟩ := List.cons.inj hkeys
        obtain ⟨hv, hvs⟩ := List.forall₂_cons.mp hvalues
        have hplace : ∀ path, r.origin e'.2 path = r.origin e.2 path := by
          intro path
          rw [origin, origin, hv.position_eq]
        rw [List.filter_cons, List.filter_cons, hk]
        split
        · rw [List.map_cons, List.map_cons, ih hks hvs, hk, hplace]
        · exact ih hks hvs
  rw [← hsame, notes_checkKeys, notes_checkKeys]
  exact (hperm.filter _).map _

theorem parallel_unordered :
    Parallel .unordered r r fun _ n n' => n.HasDistinctKeys ∧ n.Reordered n' where
  source := rfl
  origin path h := by
    rw [origin, origin, h.2.position_eq]
    rfl
  provenance path h := by
    rw [provenance, provenance, origin, origin, h.2.position_eq]
    rfl
  shape h := by
    obtain ⟨-, h⟩ := h
    cases h <;> rfl
  text h := by
    obtain ⟨-, h⟩ := h
    cases h <;> rfl
  keys := by
    rintro kind n n' entries entries' path ⟨-, h⟩ he he'
    refine ⟨by rw [filter_known_checkKeys, filter_known_checkKeys], ?_⟩
    rw [List.filter_eq_self.mpr (r.isUnknownKey_of_checkKeys entries kind path),
      List.filter_eq_self.mpr (r.isUnknownKey_of_checkKeys entries' kind path)]
    cases h with
    | scalar => simp [Node.entries?] at he
    | sequence => simp [Node.entries?] at he
    | mapping hperm hkeys hvalues =>
      obtain rfl := Option.some.inj he
      obtain rfl := Option.some.inj he'
      exact r.notes_checkKeys_perm kind path hperm hkeys hvalues
  value h _ := h.2.get_rel h.1 _
  item := by
    rintro role n n' items items' ⟨hdistinct, h⟩ hi hi'
    cases h with
    | scalar => simp [Node.items?] at hi
    | mapping => simp [Node.items?] at hi
    | sequence hitems =>
      obtain rfl := Option.some.inj hi
      obtain rfl := Option.some.inj hi'
      cases hdistinct with
      | sequence hdistinct => exact (List.forall₂_and_left _ _).mpr ⟨hdistinct, hitems⟩

end Declared.Reading

/-! ## Models of documents in another order -/

namespace Model

open Diagnostic

/-- The models are the same but for their diagnostics, which are the same in the same order, but for
those on unknown keys, which are the same in any order. -/
structure AgreesUpToKeyOrder (m m' : Model) : Prop where
  entities : { m' with diagnostics := [] } = { m with diagnostics := [] }
  known : m'.diagnostics.filter (fun d => !d.isUnknownKey) =
    m.diagnostics.filter (fun d => !d.isUnknownKey)
  unknown : (m.diagnostics.filter isUnknownKey).Perm (m'.diagnostics.filter isUnknownKey)

theorem AgreesUpToKeyOrder.refl (m : Model) : m.AgreesUpToKeyOrder m :=
  ⟨rfl, rfl, .refl _⟩

theorem agreesUpToKeyOrder_ofDeclared (options : Options) (d : Declared.Model)
    {before before' : List Note} (h : Comparison.unordered.notes before before') :
    (ofDeclared options d before).AgreesUpToKeyOrder (ofDeclared options d before') := by
  have hsame : ∀ notes, Comparison.unordered.notes notes notes := fun notes => ⟨rfl, .refl _⟩
  have hnotes := Comparison.append _ (Comparison.append _ h (hsame (judge options d).built))
    (hsame (judge options d).checked)
  refine ⟨rfl, ?_, ?_⟩
  · dsimp only [ofDeclared]
    rw [Note.filter_known_diagnostics, Note.filter_known_diagnostics]
    exact congrArg _ hnotes.1
  · dsimp only [ofDeclared]
    rw [Note.filter_unknown_diagnostics, Note.filter_unknown_diagnostics]
    exact hnotes.2.map _

/-- The order in which the keys of a document are written makes no difference beyond the order of
the diagnostics on unknown keys. Of a document of which nothing is read it makes none at all. -/
theorem ofNode_reordered (options : Options) (source : String) {root root' : Node}
    (hdistinct : root.HasDistinctKeys) (hreordered : root.Reordered root') :
    (ofNode options source root).AgreesUpToKeyOrder (ofNode options source root') ∧
      ∀ cause, (options.reading source).readDocument root = .error cause →
        ofNode options source root' = ofNode options source root := by
  rcases ((options.reading source).parallel_unordered).readDocument_cases
    ⟨hdistinct, hreordered⟩ hreordered.entries_eq_nil_iff with
    ⟨cause, hread, hread'⟩ | ⟨p, q, hread, hread', hmatches⟩
  · have hsame : ofNode options source root' = ofNode options source root :=
      (ofNode_of_error hread').trans (ofNode_of_error hread).symm
    rw [hsame]
    exact ⟨.refl _, fun _ _ => rfl⟩
  · have hvalue : q.value = p.value := by
      rw [hmatches.value]
      exact p.value.relocate_identity
    rw [ofNode_of_ok hread, ofNode_of_ok hread', hvalue]
    refine ⟨agreesUpToKeyOrder_ofDeclared options p.value hmatches.notes, ?_⟩
    intro cause hcause
    rw [hread] at hcause
    cases hcause

end Model

namespace Sample

/-- A document with notes that no declaration has a key for. -/
def annotated : Node :=
  mapping [("author", text "A"), ("codeGen", codeGen), ("version", text "1")]

/-- The block for generated code with its keys the other way round. -/
def codeGenReversed : Node :=
  mapping [("initializerName", text "Initialize"), ("namespaceName", text "App.Generated"),
    ("generatedCodePath", text "Generated"), ("registryClassName", text "Registry")]

def annotatedReversed : Node :=
  mapping [("version", text "1"), ("codeGen", codeGenReversed), ("author", text "A")]

theorem hasDistinctKeys_text (t : String) : (text t).HasDistinctKeys :=
  .scalar t _

theorem hasDistinctKeys_annotated : annotated.HasDistinctKeys := by
  have hcodeGen : codeGen.HasDistinctKeys := by
    refine .mapping (by decide) ?_
    simp [hasDistinctKeys_text]
  refine .mapping (by decide) ?_
  simp [hasDistinctKeys_text, hcodeGen]

theorem reordered_annotated : annotated.Reordered annotatedReversed := by
  have htext : ∀ t, (text t).Reordered (text t) := fun t => .scalar t _
  have hcodeGen : codeGen.Reordered codeGenReversed := by
    refine .mapping (List.reverse_perm _).symm rfl ?_
    simp [htext]
  refine .mapping (List.reverse_perm _).symm rfl ?_
  simp [htext, hcodeGen]

end Sample

namespace Model

/-- The diagnostics on the two unknown keys change places, and nothing else changes. -/
theorem annotated_reordered :
    (ofNode Sample.options "notes" Sample.annotatedReversed).diagnostics =
      (ofNode Sample.options "notes" Sample.annotated).diagnostics.reverse ∧
    (ofNode Sample.options "notes" Sample.annotated).AgreesUpToKeyOrder
      (ofNode Sample.options "notes" Sample.annotatedReversed) :=
  ⟨by decide +kernel, (ofNode_reordered Sample.options "notes" Sample.hasDistinctKeys_annotated
    Sample.reordered_annotated).1⟩

end Model

end DependencyWiring
