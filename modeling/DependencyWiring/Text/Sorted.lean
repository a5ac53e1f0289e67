/-!
# Sorted texts without repeats

Texts are ordered by their characters' code points.
-/
namespace DependencyWiring.Text

/-- Puts a text in its place in a sorted list unless it is there already. -/
def insertSorted (s : String) : List String → List String
  | [] => [s]
  | t :: ts =>
    if s < t then s :: t :: ts
    else if s = t then t :: ts
    else t :: insertSorted s ts

/-- The texts in order, each of them once. -/
def sortedDistinct : List String → List String
  | [] => []
  | s :: ss => insertSorted s (sortedDistinct ss)

theorem mem_insertSorted {s t : String} {ts : List String} :
    t ∈ insertSorted s ts ↔ t = s ∨ t ∈ ts := by
  induction ts with
  | nil => simp [insertSorted]
  | cons u us ih =>
    unfold insertSorted
    split
    · simp
    · split
      · rename_i hu
        simp [hu]
      · simp only [List.mem_cons, ih]
        exact or_left_comm

theorem mem_sortedDistinct {t : String} {ss : List String} :
    t ∈ sortedDistinct ss ↔ t ∈ ss := by
  induction ss with
  | nil => rfl
  | cons s ss ih => rw [sortedDistinct, mem_insertSorted, ih, List.mem_cons]

theorem pairwise_insertSorted {s : String} {ts : List String} (h : ts.Pairwise (· < ·)) :
    (insertSorted s ts).Pairwise (· < ·) := by
  induction ts with
  | nil => exact List.pairwise_singleton ..
  | cons t ts ih =>
    obtain ⟨hhead, htail⟩ := List.pairwise_cons.1 h
    unfold insertSorted
    split
    · rename_i hst
      apply List.Pairwise.cons _ h
      intro u hu
      rcases List.mem_cons.1 hu with rfl | hu
      · exact hst
      · exact String.lt_trans hst (hhead u hu)
    · rename_i hst
      split
      · exact h
      · rename_i hne
        have hts : t < s :=
          Classical.not_not.1 fun hts =>
            hne (String.le_antisymm (String.not_lt.1 hts) (String.not_lt.1 hst))
        apply List.Pairwise.cons _ (ih htail)
        intro u hu
        rcases mem_insertSorted.1 hu with rfl | hu
        · exact hts
        · exact hhead u hu

/-- Each text stands before those that are greater. -/
theorem pairwise_sortedDistinct (ss : List String) : (sortedDistinct ss).Pairwise (· < ·) := by
  induction ss with
  | nil => exact .nil
  | cons s ss ih => exact pairwise_insertSorted ih

end DependencyWiring.Text
