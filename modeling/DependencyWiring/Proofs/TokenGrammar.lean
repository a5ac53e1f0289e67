import DependencyWiring.Proofs.TypeTokens

/-!
# The grammar of type tokens

A type may have one of four markings. A text is read as a type exactly when it is the token of the
type but for blanks around it, the base is the name of a type and the marking is one of the four. A
text that ends in the marks of an array with nullable elements is never read, whatever stands
before the marks, and always refused for the same cause.
-/
namespace DependencyWiring

namespace Text

/-- The blanks at the end of a text are those at the end of its last part, unless this is blank. -/
theorem dropBlankEnd_append {back : List Char} (h : dropBlankEnd back ≠ []) (front : List Char) :
    dropBlankEnd (front ++ back) = front ++ dropBlankEnd back := by
  induction front with
  | nil => rfl
  | cons c front ih =>
    obtain ⟨d, ds, hrest⟩ := List.exists_cons_of_ne_nil (List.append_ne_nil_of_right_ne_nil front h)
    rw [List.cons_append, dropBlankEnd, ih, hrest, List.cons_append, hrest]

/-- Of a text that ends in visible characters only blanks in front are taken away. -/
theorem trimChars_append {ending : List Char} (hne : ending ≠ [])
    (hvisible : ∀ c ∈ ending, isBlank c = false) (cs : List Char) :
    trimChars (cs ++ ending) = cs.dropWhile isBlank ++ ending := by
  have hstart : (cs ++ ending).dropWhile isBlank = cs.dropWhile isBlank ++ ending := by
    have hself : ending.dropWhile isBlank = ending := by
      obtain ⟨c, rest, rfl⟩ := List.exists_cons_of_ne_nil hne
      exact List.dropWhile_cons_of_neg (by simp [hvisible c])
    rw [List.dropWhile_append, hself]
    cases cs.dropWhile isBlank <;> simp
  have hend : dropBlankEnd ending = ending := dropBlankEnd_eq_self hvisible
  rw [trimChars, hstart, dropBlankEnd_append (hend.symm ▸ hne), hend]

end Text

namespace TypeRef

/-! ## Markings -/

/-- Whether a type is an array, whether the container may be null, and whether an element may. -/
def marking (t : TypeRef) : Bool × Bool × Bool :=
  (t.isArray, t.isContainerNullable, t.isElementNullable)

/-- The markings of `Base`, `Base?`, `Base[]` and `Base[]?`. -/
def markings : List (Bool × Bool × Bool) :=
  [(false, false, false), (false, false, true), (true, false, false), (true, true, false)]

theorem isWellFormed_iff {t : TypeRef} :
    t.IsWellFormed ↔ Name.IsTypeName t.base ∧ t.marking ∈ markings := by
  obtain ⟨base, isArray, container, element⟩ := t
  constructor
  · rintro ⟨hbase, hcontainer, helement⟩
    refine ⟨hbase, ?_⟩
    cases isArray <;> cases container <;> cases element <;> simp_all [marking, markings]
  · rintro ⟨hbase, hmarking⟩
    refine ⟨hbase, ?_, ?_⟩
    · rintro rfl
      cases isArray <;> simp_all [marking, markings]
    · rintro rfl
      cases isArray <;> simp_all [marking, markings]

/-! ## Arrays with nullable elements -/

/-- Once an array mark is taken off, a question mark at the end is refused. -/
theorem ofElement_nullable (token element : List Char) (container : Bool) :
    ofElement token (element ++ ['?']) container =
      .error (.nullableElementArray (String.ofList token)) := by
  simp [ofElement, stripEnd_append]

theorem ofToken_nullable_array (element : List Char) :
    ofToken (element ++ ['?', '[', ']']) =
      .error (.nullableElementArray (String.ofList (element ++ ['?', '[', ']']))) := by
  have hlong : stripEnd? ['[', ']', '?'] (element ++ ['?', '[', ']']) = none := by
    simpa using stripEnd_append_of_ne ['[', ']'] (element ++ ['?', '[']) (show '?' ≠ ']' by decide)
  have harray : stripEnd? ['[', ']'] (element ++ ['?', '[', ']']) = some (element ++ ['?']) :=
    stripEnd_eq_some_iff.mpr (by simp)
  simp only [ofToken, hlong, harray, ofElement_nullable, List.append_eq_nil_iff, reduceCtorEq,
    and_false, if_false]

theorem ofToken_nullable_container (element : List Char) :
    ofToken (element ++ ['?', '[', ']', '?']) =
      .error (.nullableElementArray (String.ofList (element ++ ['?', '[', ']', '?']))) := by
  have hlong : stripEnd? ['[', ']', '?'] (element ++ ['?', '[', ']', '?']) =
      some (element ++ ['?']) := stripEnd_eq_some_iff.mpr (by simp)
  simp only [ofToken, hlong, ofElement_nullable, List.append_eq_nil_iff, reduceCtorEq, and_false,
    if_false]

/-- The marks stay at the end when the blanks around the text are taken away. -/
theorem parse_nullable {r ending : String} (h : ending = "?[]" ∨ ending = "?[]?") :
    parse (r ++ ending) = .error (.nullableElementArray (Text.trim (r ++ ending))) := by
  have hvisible : ending.toList ≠ [] ∧ ∀ c ∈ ending.toList, Text.isBlank c = false := by
    rcases h with rfl | rfl <;> simp [Text.isBlank]
  have htrim := Text.trimChars_append hvisible.1 hvisible.2 r.toList
  rw [parse, Text.trim, String.toList_append, htrim]
  rcases h with rfl | rfl
  · exact ofToken_nullable_array _
  · exact ofToken_nullable_container _

/-! ## Reading tokens -/

/-- A text is read as a type exactly when it is the token of the type but for blanks around it, the
base is a primitive, a simple or a qualified name, and the marking is one of four. So a type that
was read is read again from its token, and no text is read that ends in the marks of an array with
nullable elements. -/
theorem parse_readsTokens :
    (∀ (s : String) (t : TypeRef), parse s = .ok t ↔
      t.token = Text.trim s ∧
      (Name.isPrimitive t.base = true ∨ Name.isSimple t.base = true ∨
        Name.isQualified t.base = true) ∧
      t.marking ∈ markings) ∧
    (∀ (s : String) (t : TypeRef), parse s = .ok t → parse t.token = .ok t) ∧
    ∀ r ending : String, ending = "?[]" ∨ ending = "?[]?" →
      parse (r ++ ending) = .error (.nullableElementArray (Text.trim (r ++ ending))) := by
  refine ⟨fun s t => ?_, fun s t => parse_token_of_parse, fun r ending => parse_nullable⟩
  have htoken : t.token = Text.trim s ↔ t.token.toList = Text.trimChars s.toList := by
    rw [Text.trim, ← String.toList_inj, String.toList_ofList]
  have hname : Name.IsTypeName t.base ↔ Name.isPrimitive t.base = true ∨
      Name.isSimple t.base = true ∨ Name.isQualified t.base = true := by
    rw [Name.IsTypeName, Name.isSimpleOrQualified, Bool.or_eq_true]
  rw [parse_eq_ok_iff, isWellFormed_iff, htoken, hname]

/-- A nullable array is read between blanks and from its own token. The question mark in front of
the brackets of another text is refused, though no name stands there. -/
theorem parse_readsTokens_nullable :
    parse " System.Int32[]?\t" = .ok ⟨"System.Int32", true, true, false⟩ ∧
    parse "System.Int32[]?" = .ok ⟨"System.Int32", true, true, false⟩ ∧
    parse "] ?[]?" = .error (.nullableElementArray "] ?[]?") := by
  have hread : parse " System.Int32[]?\t" = .ok ⟨"System.Int32", true, true, false⟩ :=
    (parse_readsTokens.1 _ _).mpr ⟨by decide +kernel, .inl (by decide +kernel), by decide⟩
  refine ⟨hread, parse_readsTokens.2.1 _ _ hread, ?_⟩
  exact parse_readsTokens.2.2 "] " "?[]?" (.inr rfl)

end TypeRef

end DependencyWiring
