import DependencyWiring.Proofs.DeclaredParts
import DependencyWiring.Proofs.PhasesOfNotes
import DependencyWiring.Proofs.UniqueNames

/-!
# Usable invoker keys

The key of a class is an identifier whatever the class and its namespace are called, as long as the
namespace is called anything: the dot between the two becomes an underscore, which no reserved word
has. A reader never leaves the name of a namespace empty, so the keys of all classes that are built
are identifiers, and that a key is none is never reported.
-/
namespace DependencyWiring

/-! ## Names of namespaces -/

namespace Declared.Reading

/-- A refused name is kept as it was authored. -/
@[simp] theorem value_authored (value : String) (origin : Origin) (key : String)
    (form : Option NameForm) : (authored value origin key form).value.value = value := by
  cases form with
  | none => rfl
  | some form =>
    dsimp only [authored]
    split <;> rfl

variable (r : Reading)

/-- A key that must have a value has a text or a placeholder, and neither is empty. -/
theorem required_ne_empty (parent : Node) (path key : String) (kind : Declaration)
    (form : Option NameForm) : (r.required parent path key kind form).value.value ≠ "" := by
  have hplaceholder : Placeholder.missing key ≠ "" := by
    simp [Placeholder.missing, ← String.toList_inj]
  unfold required
  cases parent.get? key with
  | none => exact hplaceholder
  | some node =>
    dsimp only
    cases node.text? with
    | none => exact hplaceholder
    | some text =>
      dsimp only
      split
      · exact hplaceholder
      · rename_i hnull
        rw [value_authored]
        rintro rfl
        exact hnull rfl

theorem name_readNamespace_ne_empty (node : Node) (path : String) :
    (r.readNamespace node path).value.name.value ≠ "" := by
  unfold readNamespace
  cases node.entries? with
  | none => exact show Placeholder.invalid "namespace" ≠ "" by decide
  | some entries => exact r.required_ne_empty node path _ _ _

end Declared.Reading

/-! ## Keys of classes -/

namespace Model

theorem mem_classes_of_invoked {m : Model} {c : Class} (hc : c ∈ Check.invokedClasses m) :
    c ∈ m.classes := by
  obtain ⟨ns, hns, hmem⟩ := List.mem_flatMap.mp hc
  exact List.mem_flatMap.mpr ⟨ns, (List.mem_filter.mp hns).1, (List.mem_filter.mp hmem).1⟩

/-- Where all keys are identifiers only shared keys are noted. -/
theorem code_of_mem_invokerKeyNotes {m : Model}
    (hkeys : ∀ c ∈ m.classes, Name.isSimple c.invokerKey = true) {n : Note}
    (hn : n ∈ Check.invokerKeyNotes m) : n.code = .duplicateInvokerKey := by
  obtain ⟨c, hc, hn⟩ := List.mem_flatMap.mp hn
  dsimp only at hn
  rw [if_pos (hkeys c (mem_classes_of_invoked hc)), List.append_nil] at hn
  obtain ⟨-, hn⟩ := List.mem_ite_nil_right.mp hn
  exact List.mem_singleton.mp hn ▸ rfl

/-- Any name in a namespace of any name but the empty one gives an identifier as its key. So the
keys of the classes of every document are identifiers, also of one with malformed names, and no
document is reported for a key that is none. -/
theorem ofNode_invokerKeys :
    (∀ ns name : String, ns ≠ "" →
      Name.isSimple (Name.invokerKey (Name.qualify ns name)) = true) ∧
    ∀ (options : Options) (source : String) (root : Node),
      (∀ c ∈ (ofNode options source root).classes, Name.isSimple c.invokerKey = true) ∧
      ∀ d ∈ (ofNode options source root).diagnostics, d.code ≠ .invalidInvokerKey := by
  refine ⟨fun ns name hns => Name.isSimple_invokerKey_qualify hns name, ?_⟩
  intro options source root
  rcases ofNode_phases options source root with
    ⟨cause, hphase, he⟩ | ⟨declared, diagnostics, hread, hdiagnostics, he⟩
  · rw [he]
    constructor
    · exact fun c hc => absurd hc List.not_mem_nil
    · rintro d hd hcode
      have hreading := phase_of_mem_refused hphase hd
      rw [hcode] at hreading
      exact absurd hreading (by decide)
  · have hnames : ∀ ns ∈ declared.value.namespaces, ns.name.value ≠ "" := by
      intro ns hns
      obtain ⟨node, path, -, rfl, -⟩ := (Declared.Reading.readBy_of_readDocument _ hread).1 ns hns
      exact Declared.Reading.name_readNamespace_ne_empty _ node path
    have hkeys := fun c => isSimple_invokerKey_build (options.stamp .transform) hnames (c := c)
    rw [he]
    refine ⟨hkeys, ?_⟩
    intro d hd hcode
    obtain ⟨n, hn, rfl⟩ := (hdiagnostics .invalidInvokerKey (by decide)).exists_note hd hcode
    exact absurd ((code_of_mem_invokerKeyNotes hkeys hn).symm.trans hcode) (by decide)

end Model

namespace Sample

/-- A namespace and a class in it, the names of both malformed. -/
def malformedTypes : Node :=
  mapping [("codeGen", codeGen), ("namespaces", sequence [mapping
    [("namespaceName", text "9é"), ("classes", sequence [mapping
      [("className", text "<class>"), ("initializerParameters", sequence [])]])]])]

end Sample

namespace Model

/-- A digit, a letter that is none of ASCII and brackets make no key unusable. -/
theorem malformedTypes_invokerKeys :
    (ofNode Sample.options "types" Sample.malformedTypes).classes.map Class.invokerKey =
      ["_9___class_"] ∧
    Name.isSimple (Name.invokerKey (Name.qualify "9é" "<class>")) = true ∧
    ∀ d ∈ (ofNode Sample.options "types" Sample.malformedTypes).diagnostics,
      d.code ≠ .invalidInvokerKey :=
  ⟨by decide +kernel, ofNode_invokerKeys.1 "9é" "<class>" (by decide),
    (ofNode_invokerKeys.2 Sample.options "types" Sample.malformedTypes).2⟩

end Model

end DependencyWiring
