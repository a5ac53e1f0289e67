import DependencyWiring.Proofs.QualifiedNames

/-!
# Parts of qualified names

The grammar of names cuts at every dot, the namespace of a name ends at its last one. Both agree: a
name without dots is found again in every namespace, and the qualified names are exactly the simple
identifiers in a namespace whose name is simple or qualified.
-/
namespace DependencyWiring.Name

theorem isSimpleOrQualified_iff {s : String} :
    isSimpleOrQualified s = true ↔
      ∀ piece ∈ Text.pieces '.' s.toList, isSimple (String.ofList piece) = true := by
  constructor
  · exact isSimple_of_mem_pieces
  · intro h
    by_cases hdot : '.' ∈ s.toList
    · exact isSimpleOrQualified_of_isQualified (by simpa [isQualified, hdot] using h)
    · rw [Text.pieces_eq_singleton hdot] at h
      exact isSimpleOrQualified_of_isSimple (by simpa using h)

/-- What stands before the last dot of a qualified name is a simple or qualified name, and what
stands behind it is a simple identifier. -/
theorem exists_eq_qualify {q : String} (h : isQualified q = true) :
    ∃ ns name : String, isSimpleOrQualified ns = true ∧ isSimple name = true ∧
      qualify ns name = q := by
  simp only [isQualified, Bool.and_eq_true, List.contains_iff_mem, List.all_eq_true] at h
  obtain ⟨hdot, hsimple⟩ := h
  obtain ⟨before, after, hq, hafter⟩ := Text.exists_eq_append_of_mem hdot
  have hpieces : Text.pieces '.' q.toList = Text.pieces '.' before ++ [after] := by
    rw [hq, Text.pieces_append, Text.pieces_eq_singleton hafter]
  rw [hpieces] at hsimple
  have hns : isSimpleOrQualified (String.ofList before) = true := by
    rw [isSimpleOrQualified_iff, String.toList_ofList]
    exact fun piece hpiece => hsimple piece (List.mem_append_left _ hpiece)
  have hname : isSimple (String.ofList after) = true :=
    hsimple after (List.mem_append_right _ List.mem_cons_self)
  refine ⟨String.ofList before, String.ofList after, hns, hname, ?_⟩
  rw [← String.toList_inj, toList_qualify (ne_empty_of_isSimpleOrQualified hns), hq]
  simp

/-- A name without dots is told from its namespace, if this has a name at all. A simple identifier
in a namespace of a simple or qualified name is qualified, and every qualified name is such an
identifier in the namespace before its last dot. -/
theorem qualify_hasParts :
    (∀ ns name : String, ns ≠ "" → '.' ∉ name.toList → namespaceOf (qualify ns name) = ns) ∧
    (∀ ns name ns' name' : String, ns ≠ "" → ns' ≠ "" → '.' ∉ name.toList → '.' ∉ name'.toList →
      qualify ns name = qualify ns' name' → ns = ns' ∧ name = name') ∧
    (∀ ns name : String, isSimpleOrQualified ns = true → isSimple name = true →
      isQualified (qualify ns name) = true) ∧
    ∀ q : String, isQualified q = true →
      isSimpleOrQualified (namespaceOf q) = true ∧
      ∃ name : String, isSimple name = true ∧ qualify (namespaceOf q) name = q := by
  refine ⟨fun _ _ => namespaceOf_qualify, fun _ _ _ _ => qualify_inj,
    fun _ _ => isQualified_qualify, ?_⟩
  intro q h
  obtain ⟨ns, name, hns, hname, rfl⟩ := exists_eq_qualify h
  rw [namespaceOf_qualify (ne_empty_of_isSimpleOrQualified hns) (dot_not_mem hname)]
  exact ⟨hns, name, hname, rfl⟩

/-- A namespace with a dot, and a name that is no identifier but has no dot. -/
theorem qualify_hasParts_core :
    namespaceOf (qualify "App.Core" "<class>") = "App.Core" ∧
    qualify "App.Core" "Node" ≠ qualify "App" "Core" ∧
    isQualified (qualify "App.Core" "Node") = true ∧
    ∃ name : String, isSimple name = true ∧
      qualify (namespaceOf "App.Core.Node") name = "App.Core.Node" := by
  have hqualified : isQualified (qualify "App.Core" "Node") = true :=
    qualify_hasParts.2.2.1 _ _ (by decide +kernel) (by decide +kernel)
  refine ⟨qualify_hasParts.1 _ _ (by decide) (by decide), ?_, hqualified,
    (qualify_hasParts.2.2.2 _ hqualified).2⟩
  intro h
  have hparts := qualify_hasParts.2.1 _ _ _ _ (by decide) (by decide) (by decide) (by decide) h
  exact absurd hparts.1 (by decide)

end DependencyWiring.Name
