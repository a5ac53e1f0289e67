import DependencyWiring.Text.Pieces

/-!
# Texts with separators

The pieces of a text hold all its characters but the separators, and joining pieces without
separators gives a text of these pieces. A text is cut in two at its last separator.
-/
namespace DependencyWiring.Text

/-! ## Pieces -/

theorem pieces_cons_of_ne {sep c : Char} (h : c ≠ sep) (cs : List Char) :
    ∃ piece rest, pieces sep cs = piece :: rest ∧
      pieces sep (c :: cs) = (c :: piece) :: rest := by
  cases hp : pieces sep cs with
  | nil => exact absurd hp (pieces_ne_nil sep cs)
  | cons piece rest => exact ⟨piece, rest, rfl, by simp [pieces, h, hp]⟩

/-- No character but the separator is lost. -/
theorem exists_mem_pieces {sep c : Char} {cs : List Char} (hc : c ∈ cs) (hne : c ≠ sep) :
    ∃ piece ∈ pieces sep cs, c ∈ piece := by
  induction cs with
  | nil => simp at hc
  | cons d ds ih =>
    by_cases hd : d = sep
    · have hmem : c ∈ ds := by simpa [hd, hne] using hc
      obtain ⟨piece, hpiece, hcp⟩ := ih hmem
      rw [hd, pieces_sep_cons]
      exact ⟨piece, by simp [hpiece], hcp⟩
    · obtain ⟨piece, rest, hp, hcons⟩ := pieces_cons_of_ne hd ds
      rw [hcons]
      rcases List.mem_cons.mp hc with rfl | hmem
      · exact ⟨c :: piece, by simp, by simp⟩
      · obtain ⟨q, hq, hcq⟩ := ih hmem
        rw [hp] at hq
        rcases List.mem_cons.mp hq with rfl | hq
        · exact ⟨d :: q, by simp, by simp [hcq]⟩
        · exact ⟨q, by simp [hq], hcq⟩

/-- No piece holds the separator. -/
theorem not_mem_of_mem_pieces {sep : Char} {cs piece : List Char} (h : piece ∈ pieces sep cs) :
    sep ∉ piece := by
  induction cs generalizing piece with
  | nil =>
    obtain rfl := List.mem_singleton.1 h
    exact List.not_mem_nil
  | cons c cs ih =>
    by_cases hc : c = sep
    · rw [hc, pieces_sep_cons] at h
      rcases List.mem_cons.1 h with rfl | h
      · exact List.not_mem_nil
      · exact ih h
    · obtain ⟨first, rest, hp, hcons⟩ := pieces_cons_of_ne hc cs
      rw [hcons] at h
      rw [hp] at ih
      rcases List.mem_cons.1 h with rfl | h
      · exact List.not_mem_cons_of_ne_of_not_mem (Ne.symm hc) (ih List.mem_cons_self)
      · exact ih (List.mem_cons_of_mem _ h)

theorem pieces_eq_singleton {sep : Char} {cs : List Char} (h : sep ∉ cs) :
    pieces sep cs = [cs] := by
  induction cs with
  | nil => rfl
  | cons c cs ih =>
    obtain ⟨hc, hcs⟩ := List.ne_and_not_mem_of_not_mem_cons h
    simp [pieces, hc.symm, ih hcs]

/-- A separator ends a piece. -/
theorem pieces_append (sep : Char) (as bs : List Char) :
    pieces sep (as ++ sep :: bs) = pieces sep as ++ pieces sep bs := by
  induction as with
  | nil => simp [pieces]
  | cons a as ih =>
    by_cases ha : a = sep
    · simp [ha, pieces_sep_cons, ih]
    · obtain ⟨piece, rest, hp, hcons⟩ := pieces_cons_of_ne ha as
      simp [pieces, ha, ih, hp]

/-- Pieces without separators are the pieces of the text they are joined to. -/
theorem pieces_intercalate {sep : Char} {ps : List (List Char)} (hne : ps ≠ [])
    (hsep : ∀ piece ∈ ps, sep ∉ piece) : pieces sep ([sep].intercalate ps) = ps := by
  induction ps with
  | nil => exact absurd rfl hne
  | cons piece rest ih =>
    obtain ⟨hpiece, hrest⟩ := List.forall_mem_cons.1 hsep
    cases rest with
    | nil => rw [List.intercalate_singleton, pieces_eq_singleton hpiece]
    | cons next rest =>
      rw [List.intercalate_cons_cons, List.append_assoc, List.singleton_append, pieces_append,
        pieces_eq_singleton hpiece, ih (List.cons_ne_nil _ _) hrest, List.singleton_append]

/-! ## The last separator -/

theorem splitLast_eq_none {sep : Char} {cs : List Char} (h : sep ∉ cs) :
    splitLast sep cs = none := by
  induction cs with
  | nil => rfl
  | cons c cs ih =>
    obtain ⟨hc, hcs⟩ := List.ne_and_not_mem_of_not_mem_cons h
    simp [splitLast, ih hcs, hc.symm]

theorem splitLast_append {sep : Char} {after : List Char} (h : sep ∉ after)
    (before : List Char) : splitLast sep (before ++ sep :: after) = some (before, after) := by
  induction before with
  | nil => simp [splitLast, splitLast_eq_none h]
  | cons c before ih => simp [splitLast, ih]

theorem eq_append_of_splitLast {sep : Char} {cs before after : List Char}
    (h : splitLast sep cs = some (before, after)) : cs = before ++ sep :: after := by
  induction cs generalizing before after with
  | nil => cases h
  | cons c cs ih =>
    rw [splitLast] at h
    split at h
    · rename_i front back hsplit
      cases h
      rw [ih hsplit, List.cons_append]
    · split at h
      · rename_i hc
        cases h
        rw [hc, List.nil_append]
      · cases h

/-- A text with separators has a last one. -/
theorem exists_eq_append_of_mem {sep : Char} {cs : List Char} (h : sep ∈ cs) :
    ∃ before after, cs = before ++ sep :: after ∧ sep ∉ after := by
  obtain ⟨after, before, hcs, hafter⟩ := List.eq_append_cons_of_mem (List.mem_reverse.2 h)
  refine ⟨before.reverse, after.reverse, ?_, by simpa using hafter⟩
  rw [← List.reverse_reverse cs, hcs]
  simp

end DependencyWiring.Text
