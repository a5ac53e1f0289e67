import DependencyWiring.Proofs.QualifiedNames
import DependencyWiring.TypeRef

/-!
# Type tokens

A token is read back as the type it was written from, and nothing else is read: a text is a token of
a type exactly when, without the blanks around it, it is what the type is written as. No character
of a name is a mark or a blank, so the marks of a token can be told from its base.
-/
namespace DependencyWiring

/-! ## Characters -/

namespace Text

/-- A visible character of ASCII is no blank. -/
theorem isBlank_eq_false {c : Char} (hlow : 0x21 ≤ c.toNat) (hhigh : c.toNat ≤ 0x7E) :
    isBlank c = false := by
  simp only [isBlank, Bool.or_eq_false_iff, Bool.and_eq_false_iff, decide_eq_false_iff_not,
    beq_eq_false_iff_ne]
  omega

theorem dropBlankEnd_eq_self {cs : List Char} (h : ∀ c ∈ cs, isBlank c = false) :
    dropBlankEnd cs = cs := by
  induction cs with
  | nil => rfl
  | cons c cs ih =>
    rw [dropBlankEnd, ih fun d hd => h d (by simp [hd])]
    cases cs with
    | nil => simp [h c (by simp)]
    | cons d ds => rfl

/-- A text without blanks is what remains of it. -/
theorem trimChars_eq_self {cs : List Char} (h : ∀ c ∈ cs, isBlank c = false) :
    trimChars cs = cs := by
  have hstart : cs.dropWhile isBlank = cs := by
    cases cs with
    | nil => rfl
    | cons c cs => exact List.dropWhile_cons_of_neg (by simp [h c (by simp)])
  rw [trimChars, hstart, dropBlankEnd_eq_self h]

end Text

namespace Name

theorem toNat_of_isPart {c : Char} (h : isPart c = true) : 0x30 ≤ c.toNat ∧ c.toNat ≤ 0x7A := by
  delta isPart Char.isAlphanum Char.isAlpha Char.isUpper Char.isLower Char.isDigit at h
  simp only [Bool.or_eq_true, Bool.and_eq_true, decide_eq_true_eq, ge_iff_le,
    UInt32.le_iff_toNat_le] at h
  change (((65 ≤ c.toNat ∧ c.toNat ≤ 90) ∨ (97 ≤ c.toNat ∧ c.toNat ≤ 122)) ∨
    (48 ≤ c.toNat ∧ c.toNat ≤ 57)) ∨ c = '_' at h
  rcases h with ((h | h) | h) | rfl
  · omega
  · omega
  · omega
  · decide

/-- A name of a type: that of a primitive one, or any other name. -/
def IsTypeName (s : String) : Prop :=
  isPrimitive s = true ∨ isSimpleOrQualified s = true

variable {s : String}

theorem IsTypeName.isPart_or_dot (h : IsTypeName s) {c : Char} (hc : c ∈ s.toList) :
    isPart c = true ∨ c = '.' :=
  h.elim (fun hp => isPart_or_dot_of_isPrimitive hp hc) fun hn => isPart_or_dot_of_mem hn hc

theorem IsTypeName.ne_empty (h : IsTypeName s) : s ≠ "" := by
  rcases h with hprimitive | hname
  · rintro rfl
    exact absurd hprimitive (by decide +kernel)
  · exact ne_empty_of_isSimpleOrQualified hname

theorem IsTypeName.isBlank_eq_false (h : IsTypeName s) {c : Char} (hc : c ∈ s.toList) :
    Text.isBlank c = false := by
  rcases h.isPart_or_dot hc with hpart | rfl
  · obtain ⟨hlow, hhigh⟩ := toNat_of_isPart hpart
    exact Text.isBlank_eq_false (by omega) (by omega)
  · decide

theorem IsTypeName.isMark_eq_false (h : IsTypeName s) {c : Char} (hc : c ∈ s.toList) :
    TypeRef.isMark c = false := by
  rw [Bool.eq_false_iff]
  intro hmark
  simp only [TypeRef.isMark, Bool.or_eq_true, decide_eq_true_eq] at hmark
  rcases hmark with (rfl | rfl) | rfl <;> exact absurd (h.isPart_or_dot hc) (by decide)

end Name

namespace TypeRef

/-- The base is a name of a type, only an array is a nullable container, and no array has nullable
elements. -/
structure IsWellFormed (t : TypeRef) : Prop where
  base : Name.IsTypeName t.base
  container : t.isContainerNullable = true → t.isArray = true
  element : t.isElementNullable = true → t.isArray = false

/-! ## Marks -/

theorem stripEnd_eq_some_iff {ending cs rest : List Char} :
    stripEnd? ending cs = some rest ↔ rest ++ ending = cs := by
  unfold stripEnd?
  constructor
  · intro h
    split at h
    · rename_i hsuffix
      obtain rfl := Option.some.inj h
      calc cs.take (cs.length - ending.length) ++ ending
          = cs.take (cs.length - ending.length) ++ cs.drop (cs.length - ending.length) := by
            rw [hsuffix.1]
        _ = cs := List.take_append_drop _ _
    · exact absurd h (by simp)
  · rintro rfl
    simp

theorem stripEnd_eq_none_iff {ending cs : List Char} :
    stripEnd? ending cs = none ↔ ∀ rest, rest ++ ending ≠ cs := by
  simp only [Option.eq_none_iff_forall_ne_some, ne_eq, stripEnd_eq_some_iff]

/-- A name does not end in a mark. -/
theorem stripEnd_name {ending : List Char} {base : String} (h : Name.IsTypeName base)
    {c : Char} (hc : c ∈ ending) (hmark : isMark c = true) :
    stripEnd? ending base.toList = none := by
  rw [stripEnd_eq_none_iff]
  intro rest hrest
  have hmem : c ∈ base.toList := by simp [← hrest, hc]
  rw [h.isMark_eq_false hmem] at hmark
  exact absurd hmark (by decide)

/-- A text ends in one character only. -/
theorem stripEnd_append_of_ne (front back : List Char) {c d : Char} (h : c ≠ d) :
    stripEnd? (front ++ [c]) (back ++ [d]) = none := by
  rw [stripEnd_eq_none_iff]
  intro rest hrest
  have hlast := congrArg List.getLast? hrest
  simp only [← List.append_assoc, List.getLast?_concat, Option.some.injEq] at hlast
  exact h hlast

theorem stripEnd_append (ending base : List Char) :
    stripEnd? ending (base ++ ending) = some base :=
  stripEnd_eq_some_iff.mpr rfl

/-! ## Reading a token -/

theorem ofBase_eq_ok_iff {token base : List Char} {isArray container element : Bool}
    {t : TypeRef} : ofBase token base isArray container element = .ok t ↔
      Name.IsTypeName (String.ofList base) ∧
        t = ⟨String.ofList base, isArray, container, element⟩ := by
  unfold ofBase
  constructor
  · intro h
    split at h
    · exact absurd h (by simp)
    · dsimp only at h
      split at h
      · rename_i hname
        exact ⟨by simpa [Name.IsTypeName] using hname, (Except.ok.inj h).symm⟩
      · exact absurd h (by simp)
  · rintro ⟨hname, rfl⟩
    have hbase : ¬(base = [] ∨ base.any isMark = true) := by
      rintro (rfl | hmark)
      · exact hname.ne_empty rfl
      · obtain ⟨c, hc, hmark⟩ := List.any_eq_true.mp hmark
        have hnone := hname.isMark_eq_false (c := c) (by simpa using hc)
        exact absurd (hmark.symm.trans hnone) (by decide)
    have hnamed : (Name.isPrimitive (String.ofList base) ||
        Name.isSimpleOrQualified (String.ofList base)) = true := by
      simpa [Name.IsTypeName] using hname
    simp only [hbase, hnamed, if_false, if_true]

theorem ofElement_eq_ok_iff {token element : List Char} {container : Bool} {t : TypeRef} :
    ofElement token element container = .ok t ↔
      Name.IsTypeName (String.ofList element) ∧
        t = ⟨String.ofList element, true, container, false⟩ := by
  unfold ofElement
  constructor
  · intro h
    split at h
    · exact absurd h (by simp)
    · exact ofBase_eq_ok_iff.mp h
  · rintro ⟨hname, rfl⟩
    have hstrip : stripEnd? ['?'] element = none := by
      simpa using stripEnd_name hname (List.mem_singleton.mpr rfl) (c := '?') (by decide)
    simp only [hstrip, Option.isSome_none, Bool.false_eq_true, if_false]
    exact ofBase_eq_ok_iff.mpr ⟨hname, rfl⟩

theorem toList_token (t : TypeRef) :
    t.token.toList = t.base.toList ++ (if t.isElementNullable then ['?'] else []) ++
      (if t.isArray then ['[', ']'] else []) ++
      (if t.isContainerNullable then ['?'] else []) := by
  simp only [token, String.toList_append, apply_ite String.toList]
  rfl

/-- What is read is a type that is written as it was read. -/
theorem IsWellFormed.of_ofToken {cs : List Char} {t : TypeRef} (h : ofToken cs = .ok t) :
    t.token.toList = cs ∧ t.IsWellFormed := by
  unfold ofToken at h
  split at h
  · exact absurd h (by simp)
  · split at h
    · rename_i element hstrip
      obtain ⟨hname, rfl⟩ := ofElement_eq_ok_iff.mp h
      rw [← stripEnd_eq_some_iff.mp hstrip, toList_token]
      exact ⟨by simp, hname, by simp, by simp⟩
    · split at h
      · rename_i element hstrip
        obtain ⟨hname, rfl⟩ := ofElement_eq_ok_iff.mp h
        rw [← stripEnd_eq_some_iff.mp hstrip, toList_token]
        exact ⟨by simp, hname, by simp, by simp⟩
      · split at h
        · rename_i base hstrip
          obtain ⟨hname, rfl⟩ := ofBase_eq_ok_iff.mp h
          rw [← stripEnd_eq_some_iff.mp hstrip, toList_token]
          exact ⟨by simp, hname, by simp, by simp⟩
        · obtain ⟨hname, rfl⟩ := ofBase_eq_ok_iff.mp h
          rw [toList_token]
          exact ⟨by simp, hname, by simp, by simp⟩

/-- The token of a type is read as the type. -/
theorem IsWellFormed.ofToken_token {t : TypeRef} (h : t.IsWellFormed) :
    ofToken t.token.toList = .ok t := by
  obtain ⟨base, isArray, container, element⟩ := t
  obtain ⟨hname, hcontainer, helement⟩ := h
  dsimp only at hname hcontainer helement
  have hself : String.ofList base.toList = base := String.ofList_toList
  have hbase : base.toList ≠ [] := by simpa using hname.ne_empty
  rw [toList_token]
  unfold ofToken
  cases isArray with
  | true =>
    obtain rfl : element = false := by simpa using helement
    cases container with
    | true =>
      have hstrip : stripEnd? ['[', ']', '?'] (base.toList ++ ['[', ']', '?']) =
          some base.toList := stripEnd_append _ _
      simp [hstrip, ofElement_eq_ok_iff, hself, hname]
    | false =>
      have hlong : stripEnd? ['[', ']', '?'] (base.toList ++ ['[', ']']) = none := by
        simpa using stripEnd_append_of_ne ['[', ']'] (base.toList ++ ['['])
          (show '?' ≠ ']' by decide)
      have hstrip : stripEnd? ['[', ']'] (base.toList ++ ['[', ']']) = some base.toList :=
        stripEnd_append _ _
      simp [hlong, hstrip, ofElement_eq_ok_iff, hself, hname]
  | false =>
    obtain rfl : container = false := by simpa using hcontainer
    cases element with
    | true =>
      -- an array mark before the last question mark would be in the base
      have hlong : stripEnd? ['[', ']', '?'] (base.toList ++ ['?']) = none := by
        rw [stripEnd_eq_none_iff]
        intro rest hrest
        have hcut : rest ++ ['[', ']'] = base.toList :=
          List.append_cancel_right (by simpa using hrest)
        exact stripEnd_eq_none_iff.mp (stripEnd_name hname (c := '[') (by simp) (by decide))
          rest hcut
      have harray : stripEnd? ['[', ']'] (base.toList ++ ['?']) = none :=
        stripEnd_append_of_ne ['['] base.toList (show ']' ≠ '?' by decide)
      have hstrip : stripEnd? ['?'] (base.toList ++ ['?']) = some base.toList :=
        stripEnd_append _ _
      simp [hlong, harray, hstrip, ofBase_eq_ok_iff, hself, hname]
    | false =>
      have hlong : stripEnd? ['[', ']', '?'] base.toList = none :=
        stripEnd_name hname (c := '[') (by simp) (by decide)
      have harray : stripEnd? ['[', ']'] base.toList = none :=
        stripEnd_name hname (c := '[') (by simp) (by decide)
      have hmark : stripEnd? ['?'] base.toList = none :=
        stripEnd_name hname (c := '?') (by simp) (by decide)
      simp [hbase, hlong, harray, hmark, ofBase_eq_ok_iff, hself, hname]

/-- A token of a type has no blanks around it. -/
theorem IsWellFormed.trimChars_token {t : TypeRef} (h : t.IsWellFormed) :
    Text.trimChars t.token.toList = t.token.toList := by
  refine Text.trimChars_eq_self fun c hc => ?_
  rw [toList_token] at hc
  simp only [List.mem_append, List.mem_ite_nil_right, List.mem_cons, List.not_mem_nil, or_false]
    at hc
  rcases hc with ((hc | ⟨-, rfl⟩) | ⟨-, rfl | rfl⟩) | ⟨-, rfl⟩
  · exact h.base.isBlank_eq_false hc
  · decide
  · decide
  · decide
  · decide

/-- A text is read as a type exactly when the type is well formed and the text is its token, but for
blanks around it. -/
theorem parse_eq_ok_iff {s : String} {t : TypeRef} :
    parse s = .ok t ↔ t.token.toList = Text.trimChars s.toList ∧ t.IsWellFormed := by
  constructor
  · exact IsWellFormed.of_ofToken
  · rintro ⟨htoken, h⟩
    rw [parse, ← htoken]
    exact h.ofToken_token

theorem IsWellFormed.parse_token {t : TypeRef} (h : t.IsWellFormed) : parse t.token = .ok t :=
  parse_eq_ok_iff.mpr ⟨h.trimChars_token.symm, h⟩

/-- A type that was read once is read again from its token. -/
theorem parse_token_of_parse {s : String} {t : TypeRef} (h : parse s = .ok t) :
    parse t.token = .ok t :=
  (parse_eq_ok_iff.mp h).2.parse_token

end TypeRef

end DependencyWiring
