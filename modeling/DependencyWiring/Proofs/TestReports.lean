import DependencyWiring.Conformance.Tap
import DependencyWiring.Proofs.Trails

/-!
# Lines of test reports

A report numbers its tests one after another. Which of its lines tell of a test that passed can be
seen from their first characters, and a quiet report is the full one without these lines.
-/
namespace DependencyWiring

/-! ## Lines without line feeds -/

namespace Text

theorem dropReturn_sublist (cs : List Char) : (dropReturn cs).Sublist cs := by
  fun_induction dropReturn cs with
  | case1 => exact .refl _
  | case2 => exact List.nil_sublist _
  | case3 c cs _ ih => exact ih.cons_cons c

/-- Every line comes from a piece. -/
theorem exists_sublist_of_mem_linesOfPieces {line : List Char} {ps : List (List Char)}
    (h : line ∈ linesOfPieces ps) : ∃ piece ∈ ps, line.Sublist piece := by
  fun_induction linesOfPieces ps with
  | case1 => cases h
  | case2 => cases h
  | case3 last _ =>
    obtain rfl := List.mem_singleton.1 h
    exact ⟨line, List.mem_cons_self, .refl _⟩
  | case4 piece rest _ ih =>
    rcases List.mem_cons.1 h with rfl | h
    · exact ⟨piece, List.mem_cons_self, dropReturn_sublist piece⟩
    · obtain ⟨other, hother, hline⟩ := ih h
      exact ⟨other, List.mem_cons_of_mem _ hother, hline⟩

/-- No line holds a line feed. -/
theorem not_mem_of_mem_lines {cs line : List Char} (h : line ∈ lines cs) : '\n' ∉ line := by
  obtain ⟨piece, hpiece, hline⟩ := exists_sublist_of_mem_linesOfPieces h
  exact fun hbreak => not_mem_of_mem_pieces hpiece (hline.subset hbreak)

end Text

namespace Tap

/-! ## Lines that tell of a test that passed -/

/-- The line tells of a test that passed. -/
def TellsPass (line : String) : Prop :=
  "ok ".toList <+: line.toList

instance (line : String) : Decidable (TellsPass line) :=
  inferInstanceAs (Decidable (_ <+: _))

theorem tellsPass_ok (number : Nat) (name : String) : TellsPass s!"ok {number} - {name}" := by
  simp [TellsPass, toString]

theorem not_tellsPass_notOk (number : Nat) (name : String) :
    ¬ TellsPass s!"not ok {number} - {name}" := by
  simp [TellsPass, toString]

/-- The lines of a reason are comments. -/
theorem comment_of_mem_reasonLines {reason line : String} (h : line ∈ reasonLines reason) :
    "  # ".toList <+: line.toList ∧ '\n' ∉ line.toList := by
  obtain ⟨cs, hcs, rfl⟩ := List.mem_map.1 h
  have hbreak := Text.not_mem_of_mem_lines hcs
  simp [hbreak]

theorem not_tellsPass_of_mem_reasonLines {reason line : String} (h : line ∈ reasonLines reason) :
    ¬ TellsPass line := by
  obtain ⟨cs, hcs, rfl⟩ := List.mem_map.1 h
  simp [TellsPass]

theorem not_tellsPass_of_mem_planLines {tests : List Test} {line : String}
    (h : line ∈ planLines tests) : ¬ TellsPass line := by
  unfold planLines at h
  rcases List.mem_cons.1 h with rfl | h
  · simp [TellsPass, toString]
  · split at h
    · obtain rfl := List.mem_singleton.1 h
      simp [TellsPass, toString]
    · cases h

/-! ## Reports -/

variable (tests : List Test)

/-- Each test has the lines of its number, and numbers go on by one. -/
theorem linesFrom_eq_flatMap (quiet : Bool) (number : Nat) :
    linesFrom quiet number tests =
      (tests.zipIdx number).flatMap fun (t, n) => testLines quiet n t := by
  induction tests generalizing number with
  | nil => rfl
  | cons t ts ih => rw [linesFrom, ih, List.zipIdx_cons, List.flatMap_cons]

theorem testLines_quiet (number : Nat) (t : Test) :
    testLines true number t =
      (testLines false number t).filter fun line => ¬ TellsPass line := by
  obtain ⟨name, failure⟩ := t
  symm
  cases failure with
  | none =>
    apply List.filter_eq_nil_iff.2
    intro line hline hkept
    obtain rfl := List.mem_singleton.1 hline
    exact of_decide_eq_true hkept (tellsPass_ok number name)
  | some reason =>
    apply List.filter_eq_self.2
    intro line hline
    apply decide_eq_true
    rcases List.mem_cons.1 hline with rfl | hline
    · exact not_tellsPass_notOk number name
    · exact not_tellsPass_of_mem_reasonLines hline

/-- A quiet report leaves out the lines that tell of a test that passed, and no others. -/
theorem report_quiet :
    report true tests = (report false tests).filter fun line => ¬ TellsPass line := by
  have hplan : (planLines tests).filter (fun line => ¬ TellsPass line) = planLines tests :=
    List.filter_eq_self.2 fun line hline =>
      decide_eq_true (not_tellsPass_of_mem_planLines hline)
  simp only [report, List.filter_append, linesFrom_eq_flatMap, List.filter_flatMap, hplan,
    testLines_quiet]

theorem break_not_mem_plan {line : String} (h : line ∈ planLines tests) : '\n' ∉ line.toList := by
  have hdigits (n : Nat) : '\n' ∉ Nat.toDigits 10 n := Trail.not_mem_toDigits rfl n
  unfold planLines at h
  rcases List.mem_cons.1 h with rfl | h
  · simp [toString, hdigits]
  · split at h
    · obtain rfl := List.mem_singleton.1 h
      simp [toString, hdigits]
    · cases h

/-- Where no name of a test holds a line feed, no line of the report does. -/
theorem break_not_mem_report {quiet : Bool} (h : ∀ t ∈ tests, '\n' ∉ t.name.toList)
    {line : String} (hline : line ∈ report quiet tests) : '\n' ∉ line.toList := by
  have hdigits (n : Nat) : '\n' ∉ Nat.toDigits 10 n := Trail.not_mem_toDigits rfl n
  rcases List.mem_append.1 hline with hline | hline
  · rw [linesFrom_eq_flatMap] at hline
    obtain ⟨⟨⟨name, failure⟩, n⟩, ht, hline⟩ := List.mem_flatMap.1 hline
    have hname : '\n' ∉ name.toList := h _ (List.fst_mem_of_mem_zipIdx ht)
    cases failure with
    | none =>
      cases quiet with
      | true => cases hline
      | false =>
        obtain rfl := List.mem_singleton.1 hline
        simp [toString, hdigits, hname]
    | some reason =>
      rcases List.mem_cons.1 hline with rfl | hline
      · simp [toString, hdigits, hname]
      · exact (comment_of_mem_reasonLines hline).2
  · exact break_not_mem_plan tests hline

end Tap

end DependencyWiring
