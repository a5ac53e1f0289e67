import DependencyWiring.Name
import DependencyWiring.Placeholder
import DependencyWiring.Proofs.SeparatedTexts

/-!
# Qualified names

Which characters names are made of, and that a qualified name determines its namespace and its
short name. No name holds an angle bracket, so no name is a placeholder and no qualified name has a
placeholder in it.
-/
namespace DependencyWiring

namespace Name

/-! ## The characters of names -/

theorem isPart_of_mem {s : String} (h : isSimple s = true) {c : Char} (hc : c ∈ s.toList) :
    isPart c = true := by
  simp only [isSimple, Bool.and_eq_true] at h
  cases hs : s.toList with
  | nil => simp [hs] at hc
  | cons d ds =>
    rw [hs] at h hc
    simp only [hasWordShape, Bool.and_eq_true, List.all_eq_true] at h
    rcases List.mem_cons.mp hc with rfl | hmem
    · have hstart := h.1.1
      simp only [isStart, isPart, Char.isAlphanum, Bool.or_eq_true] at hstart ⊢
      exact hstart.imp_left .inl
    · exact h.1.2 c hmem

theorem isPart_or_dot_of_mem {s : String} (h : isSimpleOrQualified s = true) {c : Char}
    (hc : c ∈ s.toList) : isPart c = true ∨ c = '.' := by
  rcases (Bool.or_eq_true _ _).mp h with hsimple | hqualified
  · exact .inl (isPart_of_mem hsimple hc)
  · by_cases hdot : c = '.'
    · exact .inr hdot
    · simp only [isQualified, Bool.and_eq_true, List.all_eq_true] at hqualified
      obtain ⟨piece, hpiece, hcp⟩ := Text.exists_mem_pieces hc hdot
      exact .inl (isPart_of_mem (hqualified.2 piece hpiece) (by simpa using hcp))

theorem dot_not_mem {s : String} (h : isSimple s = true) : '.' ∉ s.toList := fun hc =>
  absurd (isPart_of_mem h hc) (by decide)

theorem bracket_not_mem {s : String} (h : isSimpleOrQualified s = true) :
    '<' ∉ s.toList := fun hc =>
  absurd (isPart_or_dot_of_mem h hc) (by decide)

theorem isSimpleOrQualified_of_isSimple {s : String} (h : isSimple s = true) :
    isSimpleOrQualified s = true := by
  simp [isSimpleOrQualified, h]

theorem isSimpleOrQualified_of_isQualified {s : String} (h : isQualified s = true) :
    isSimpleOrQualified s = true := by
  simp [isSimpleOrQualified, h]

theorem isPart_or_dot_of_isPrimitive {s : String} (h : isPrimitive s = true) {c : Char}
    (hc : c ∈ s.toList) : isPart c = true ∨ c = '.' := by
  have hall : ((primitiveKeywords ++ primitiveAliases).all fun t =>
      t.toList.all fun c => isPart c || c = '.') = true := by decide +kernel
  simp only [List.all_eq_true, Bool.or_eq_true, decide_eq_true_eq] at hall
  exact hall s (by simpa [isPrimitive] using h) c hc

theorem bracket_not_mem_of_isPrimitive {s : String} (h : isPrimitive s = true) :
    '<' ∉ s.toList := fun hc =>
  absurd (isPart_or_dot_of_isPrimitive h hc) (by decide)

theorem ne_empty_of_isSimpleOrQualified {s : String} (h : isSimpleOrQualified s = true) :
    s ≠ "" := by
  rintro rfl
  exact absurd h (by decide +kernel)

/-! ## Qualification -/

theorem toList_qualify {ns : String} (hns : ns ≠ "") (name : String) :
    (qualify ns name).toList = ns.toList ++ '.' :: name.toList := by
  simp [qualify, hns]

theorem namespaceOf_qualify {ns name : String} (hns : ns ≠ "") (hname : '.' ∉ name.toList) :
    namespaceOf (qualify ns name) = ns := by
  simp [namespaceOf, toList_qualify hns, Text.splitLast_append hname]

/-- Every piece of a name between its dots is a simple identifier. -/
theorem isSimple_of_mem_pieces {s : String} (h : isSimpleOrQualified s = true) :
    ∀ piece ∈ Text.pieces '.' s.toList, isSimple (String.ofList piece) = true := by
  rcases (Bool.or_eq_true _ _).mp h with hsimple | hqualified
  · simpa [Text.pieces_eq_singleton (dot_not_mem hsimple)] using hsimple
  · simp only [isQualified, Bool.and_eq_true, List.all_eq_true] at hqualified
    exact hqualified.2

/-- A simple identifier is qualified by any name. -/
theorem isQualified_qualify {ns name : String} (hns : isSimpleOrQualified ns = true)
    (hname : isSimple name = true) : isQualified (qualify ns name) = true := by
  have hchars := toList_qualify (ne_empty_of_isSimpleOrQualified hns) name
  have hpieces : Text.pieces '.' (qualify ns name).toList =
      Text.pieces '.' ns.toList ++ [name.toList] := by
    rw [hchars, Text.pieces_append, Text.pieces_eq_singleton (dot_not_mem hname)]
  have hall : ∀ piece ∈ Text.pieces '.' (qualify ns name).toList,
      isSimple (String.ofList piece) = true := by
    intro piece hpiece
    rw [hpieces] at hpiece
    rcases List.mem_append.mp hpiece with hmem | hmem
    · exact isSimple_of_mem_pieces hns piece hmem
    · simpa [List.mem_singleton.mp hmem] using hname
  simp only [isQualified, Bool.and_eq_true, List.all_eq_true]
  exact ⟨by simp [hchars], hall⟩

/-- A qualified name determines its namespace and its short name. -/
theorem qualify_inj {ns name ns' name' : String} (hns : ns ≠ "") (hns' : ns' ≠ "")
    (hname : '.' ∉ name.toList) (hname' : '.' ∉ name'.toList)
    (h : qualify ns name = qualify ns' name') : ns = ns' ∧ name = name' := by
  have hsame : ns = ns' := by
    rw [← namespaceOf_qualify hns hname, h, namespaceOf_qualify hns' hname']
  subst hsame
  refine ⟨rfl, String.toList_injective ?_⟩
  have hchars := congrArg String.toList h
  simpa [toList_qualify hns] using hchars

/-! ## Keys of invokers -/

/-- A word without a digit in front is a word. -/
theorem hasWordShape_guardDigit {cs : List Char} (hne : cs ≠ [])
    (hall : ∀ c ∈ cs, isPart c = true) : hasWordShape (guardDigit cs) = true := by
  obtain ⟨c, cs, rfl⟩ := List.exists_cons_of_ne_nil hne
  obtain ⟨hc, hcs⟩ := List.forall_mem_cons.mp hall
  by_cases hdigit : c.isDigit = true
  · simpa [guardDigit, hdigit, hasWordShape, hc] using ⟨show isStart '_' = true by decide, hcs⟩
  · have hstart : isStart c = true := by
      simpa [isPart, isStart, Char.isAlphanum, hdigit] using hc
    simpa [guardDigit, hdigit, hasWordShape, hstart] using hcs

theorem mem_guardDigit {c : Char} {cs : List Char} (hc : c ∈ cs) : c ∈ guardDigit cs := by
  cases cs with
  | nil => exact hc
  | cons d ds =>
    rw [guardDigit]
    split
    · exact List.mem_cons_of_mem _ hc
    · exact hc

theorem underscore_not_mem_of_isReserved {s : String} (h : isReserved s = true) :
    '_' ∉ s.toList := by
  have hall : ∀ w ∈ reservedWords, '_' ∉ w.toList := by decide +kernel
  exact hall s (by simpa [isReserved] using h)

/-- The key of a name with a dot is an identifier. The dot has become an underscore, which no
reserved word has. -/
theorem isSimple_invokerKey {q : String} (h : '.' ∈ q.toList) :
    isSimple (invokerKey q) = true := by
  have hkey : (invokerKey q).toList =
      guardDigit (q.toList.map fun c => if isPart c then c else '_') := by
    simp [invokerKey]
  have hshape : hasWordShape (invokerKey q).toList = true := by
    rw [hkey]
    refine hasWordShape_guardDigit (by simpa using List.ne_nil_of_mem h) fun c hc => ?_
    obtain ⟨d, -, rfl⟩ := List.mem_map.mp hc
    split
    · assumption
    · decide
  have hunderscore : '_' ∈ (invokerKey q).toList := by
    rw [hkey]
    exact mem_guardDigit (List.mem_map.mpr ⟨'.', h, by decide⟩)
  have hreserved : isReserved (invokerKey q) = false := by
    rw [Bool.eq_false_iff]
    exact fun hr => underscore_not_mem_of_isReserved hr hunderscore
  simp [isSimple, hshape, hreserved]

/-- A namespace of any name makes the key of any name in it an identifier. -/
theorem isSimple_invokerKey_qualify {ns : String} (hns : ns ≠ "") (name : String) :
    isSimple (invokerKey (qualify ns name)) = true := by
  apply isSimple_invokerKey
  simp [toList_qualify hns]

end Name

namespace Placeholder

theorem bracket_mem {s : String} (h : isPlaceholder s = true) : '<' ∈ s.toList := by
  unfold isPlaceholder at h
  split at h
  · simp_all
  · simp at h

theorem isPlaceholder_of_bracket_not_mem {s : String} (h : '<' ∉ s.toList) :
    isPlaceholder s = false :=
  Bool.eq_false_iff.mpr fun hp => h (bracket_mem hp)

theorem isPlaceholder_of_isSimple {s : String} (h : Name.isSimple s = true) :
    isPlaceholder s = false :=
  isPlaceholder_of_bracket_not_mem
    (Name.bracket_not_mem (Name.isSimpleOrQualified_of_isSimple h))

/-- A qualified name with a placeholder in it has a bracket. -/
theorem bracket_mem_qualify {ns name : String}
    (h : isPlaceholder ns = true ∨ isPlaceholder name = true) :
    '<' ∈ (Name.qualify ns name).toList := by
  by_cases hns : ns = ""
  · rcases h with h | h
    · exact absurd (bracket_mem h) (by simp [hns])
    · simpa [Name.qualify, hns] using bracket_mem h
  · rw [Name.toList_qualify hns]
    rcases h with h | h
    · exact List.mem_append_left _ (bracket_mem h)
    · exact List.mem_append_right _ (List.mem_cons_of_mem _ (bracket_mem h))

end Placeholder

end DependencyWiring
