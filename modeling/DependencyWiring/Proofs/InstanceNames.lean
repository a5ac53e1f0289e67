import DependencyWiring.Proofs.DependencyOrder
import Mathlib.Data.List.Perm.Basic

/-!
# Names of instances

A wiring refers to an instance by its name alone, and the first instance of the name is meant.
Collisions are searched for by the name and the namespace of the class. So two instances of one name
are reported when their classes are of one namespace, and are accepted when they are not: a name
that is referred to in a generatable model always has an instance, and has one instance only exactly
when all instances of the name have classes of one namespace.
-/
namespace DependencyWiring

open Check

/-! ## Repeated instances -/

/-- In a list an element that is counted is not the only one exactly when another position has one
that is counted too. -/
theorem one_lt_countP_iff {α : Type} {p : α → Bool} {as : List α} {k : Nat} {a : α}
    (hk : as[k]? = some a) (ha : p a = true) :
    1 < as.countP p ↔ ∃ k' ≠ k, ∃ b, as[k']? = some b ∧ p b = true := by
  obtain ⟨hlt, rfl⟩ := List.getElem?_eq_some_iff.mp hk
  have hcount : as.countP p = (as.eraseIdx k).countP p + 1 := by
    rw [← (List.getElem_cons_eraseIdx_perm hlt).countP_eq p, List.countP_cons_of_pos ha]
  have hother : 0 < (as.eraseIdx k).countP p ↔ ∃ k' ≠ k, ∃ b, as[k']? = some b ∧ p b = true := by
    simp only [List.countP_pos_iff, List.mem_eraseIdx_iff_getElem?]
    constructor
    · rintro ⟨b, ⟨k', hne, hb⟩, hp⟩
      exact ⟨k', hne, b, hb, hp⟩
    · rintro ⟨k', hne, b, hb, hp⟩
      exact ⟨b, ⟨k', hne, hb⟩, hp⟩
  rw [← hother, hcount]
  omega

namespace Model

/-- At another position there is an instance of the same name with a class of the same namespace. -/
def IsRepeated (m : Model) (k : Nat) (i : NamedInstance) : Prop :=
  ∃ k' ≠ k, ∃ j, m.namedInstances[k']? = some j ∧
    i.namespaceName = j.namespaceName ∧ i.name = j.name

end Model

namespace Check

/-- Among the instances that have names those that collide with one are counted in full. -/
theorem countP_instancesCollide {m : Model} {i : NamedInstance} (hi : i.isPlaceholder = false) :
    (namedOnes m).countP (instancesCollide i) = m.namedInstances.countP (instancesCollide i) := by
  rw [namedOnes, List.countP_filter]
  congr 1
  funext j
  by_cases hname : i.name = j.name
  · have hj : j.isPlaceholder = false := by
      rw [NamedInstance.isPlaceholder, ← hname]
      exact hi
    simp [hj]
  · simp [instancesCollide, hname]

/-- The check for collisions notes the instances that are repeated, and no others. -/
theorem mem_instanceCollisions_iff {m : Model} {n : Note} :
    n ∈ instanceCollisions m ↔ ∃ k i, m.namedInstances[k]? = some i ∧ i.isPlaceholder = false ∧
      m.IsRepeated k i ∧ n = noteOn (.duplicateInstance i.name i.namespaceName) i.provenance := by
  have hrepeated : ∀ {k i}, m.namedInstances[k]? = some i → i.isPlaceholder = false →
      (1 < (namedOnes m).countP (instancesCollide i) ↔ m.IsRepeated k i) := by
    intro k i hk hi
    rw [countP_instancesCollide hi, one_lt_countP_iff hk (by simp [instancesCollide])]
    simp [Model.IsRepeated, instancesCollide]
  simp only [instanceCollisions, List.mem_filterMap]
  constructor
  · rintro ⟨i, hi, hnote⟩
    obtain ⟨hmem, hnamed⟩ := List.mem_filter.mp hi
    obtain ⟨k, hk⟩ := List.mem_iff_getElem?.mp hmem
    have hplaceholder : i.isPlaceholder = false := by simpa using hnamed
    split at hnote
    · rename_i hcount
      exact ⟨k, i, hk, hplaceholder, (hrepeated hk hplaceholder).mp hcount,
        (Option.some.inj hnote).symm⟩
    · exact absurd hnote (by simp)
  · rintro ⟨k, i, hk, hi, hrep, rfl⟩
    refine ⟨i, List.mem_filter.mpr ⟨List.mem_of_getElem? hk, by simp [hi]⟩, ?_⟩
    rw [if_pos ((hrepeated hk hi).mpr hrep)]

end Check

/-! ## References by name -/

namespace Model

/-- Some wiring of the model refers to the name. -/
def RefersTo (m : Model) (name : String) : Prop :=
  ∃ i ∈ m.namedInstances, ∃ p, (Wiring.instanceOf name, p) ∈ i.wirings

/-- The instance at the position has the name. -/
def DeclaresAt (m : Model) (name : String) (k : Nat) : Prop :=
  ∃ i, m.namedInstances[k]? = some i ∧ i.name = name

/-- All instances of the name have classes of one namespace. -/
def SharesNamespace (m : Model) (name : String) : Prop :=
  ∀ i ∈ m.namedInstances, ∀ j ∈ m.namedInstances, i.name = name → j.name = name →
    i.namespaceName = j.namespaceName

/-- Instances are told apart by their name and the namespace of their class. What is referred to is
declared, and is declared once exactly when the name alone tells it apart. -/
structure NamesInstances (m : Model) : Prop where
  distinct : ∀ (k : Nat) (i : NamedInstance), m.namedInstances[k]? = some i → ¬m.IsRepeated k i
  declared : ∀ name, m.RefersTo name → ∃ k, m.DeclaresAt name k
  unambiguous : ∀ name, m.RefersTo name →
    ((∃! k, m.DeclaresAt name k) ↔ m.SharesNamespace name)

/-- Each instance that is repeated is reported at its own place. -/
def ReportsRepeats (m : Model) : Prop :=
  ∀ (k : Nat) (i : NamedInstance), m.namedInstances[k]? = some i → i.isPlaceholder = false →
    m.IsRepeated k i → ∃ d ∈ m.diagnostics, d.code = .duplicateNamedInstance ∧
      d.isError = true ∧ d.location = i.provenance.location ∧
      d.line = some i.provenance.origin.line

/-- Where no instance is repeated, a name that is declared at all is declared once exactly when all
its instances have classes of one namespace. -/
theorem existsUnique_declaresAt_iff {m : Model} {name : String}
    (hdistinct : ∀ (k : Nat) (i : NamedInstance), m.namedInstances[k]? = some i →
      ¬m.IsRepeated k i) (hdeclared : ∃ k, m.DeclaresAt name k) :
    (∃! k, m.DeclaresAt name k) ↔ m.SharesNamespace name := by
  constructor
  · rintro ⟨k, -, honly⟩ i hi j hj hiname hjname
    obtain ⟨ki, hki⟩ := List.mem_iff_getElem?.mp hi
    obtain ⟨kj, hkj⟩ := List.mem_iff_getElem?.mp hj
    have hsame : ki = kj :=
      (honly ki ⟨i, hki, hiname⟩).trans (honly kj ⟨j, hkj, hjname⟩).symm
    subst hsame
    rw [Option.some.inj (hki.symm.trans hkj)]
  · intro hshared
    obtain ⟨k, i, hk, hname⟩ := hdeclared
    refine ⟨k, ⟨i, hk, hname⟩, ?_⟩
    rintro k' ⟨j, hk', hjname⟩
    by_contra hne
    have hspace : i.namespaceName = j.namespaceName :=
      hshared i (List.mem_of_getElem? hk) j (List.mem_of_getElem? hk') hname hjname
    exact hdistinct k i hk ⟨k', hne, j, hk', hspace, hname.trans hjname.symm⟩

theorem namesInstances_of_accepted {stamp : Stamp} {d : Declared.Model} (h : Accepted stamp d) :
    (Scope.ofDeclared stamp d).model.NamesInstances := by
  have hnotes := ((noErrors_notes _).mp h.checked).2.1
  have hdistinct : ∀ (k : Nat) (i : NamedInstance),
      (Scope.ofDeclared stamp d).model.namedInstances[k]? = some i →
      ¬(Scope.ofDeclared stamp d).model.IsRepeated k i := by
    intro k i hk hrepeated
    have hnamed := h.isPlaceholder_eq_false (List.mem_of_getElem? hk)
    exact absurd (hnotes _ (mem_instanceCollisions_iff.mpr ⟨k, i, hk, hnamed, hrepeated, rfl⟩))
      (by simp)
  have hdeclared : ∀ name, (Scope.ofDeclared stamp d).model.RefersTo name →
      ∃ k, (Scope.ofDeclared stamp d).model.DeclaresAt name k := by
    rintro name ⟨i, hi, p, hwired⟩
    obtain ⟨n, hn⟩ := List.mem_iff_getElem?.mp hi
    obtain ⟨j, -, hj⟩ := exists_earlier h hn hwired
    obtain ⟨hlt, hname, -⟩ := List.findIdx?_eq_some_iff_getElem.mp hj
    exact ⟨j, _, List.getElem?_eq_getElem hlt, of_decide_eq_true hname⟩
  exact ⟨hdistinct, hdeclared, fun name hrefers =>
    existsUnique_declaresAt_iff hdistinct (hdeclared name hrefers)⟩

theorem reportsRepeats_ofDeclared (options : Options) (d : Declared.Model) (before : List Note) :
    (ofDeclared options d before).ReportsRepeats := by
  intro k i hk hnamed hrepeated
  have hnote : noteOn (.duplicateInstance i.name i.namespaceName) i.provenance ∈
      notes (Scope.ofDeclared (options.stamp .transform) d) := by
    have hmem := mem_instanceCollisions_iff.mpr ⟨k, i, hk, hnamed, hrepeated, rfl⟩
    simp only [notes, List.mem_append]
    exact .inl (.inl (.inl (.inl (.inr hmem))))
  exact ⟨(noteOn (.duplicateInstance i.name i.namespaceName) i.provenance).diagnostic,
    List.mem_map_of_mem (List.mem_append_right _ hnote), rfl, rfl, rfl, rfl⟩

/-- In a generatable model a reference by name is unambiguous exactly when the name has instances of
one namespace only, and in any document an instance is reported that repeats the name and the
namespace of another. -/
theorem ofNode_instanceNames (options : Options) (source : String) (root : Node) :
    ((ofNode options source root).isGeneratable = true →
      (ofNode options source root).NamesInstances) ∧
    (ofNode options source root).ReportsRepeats := by
  constructor
  · intro h
    obtain ⟨d, haccepted, diagnostics, he⟩ := exists_accepted h
    have hnames := namesInstances_of_accepted haccepted
    rw [he]
    exact ⟨hnames.distinct, hnames.declared, hnames.unambiguous⟩
  · rcases ofNode_cases options source root with ⟨cause, -, he⟩ | ⟨declared, -, he⟩
    · rw [he]
      intro k i hk
      simp [refused] at hk
    · rw [he]
      exact reportsRepeats_ofDeclared options declared.value declared.notes

end Model

/-! ## A name of two instances -/

namespace Sample

/-- A second namespace with a class that exposes the interface of nodes. -/
def backup : Node :=
  mapping [("namespaceName", text "Backup"),
    ("classes", sequence [mapping [("className", text "Node"),
      ("qualifiedInterfaceName", text "App.INode"), ("initializerParameters", sequence [])]])]

/-- An instance of the name `First`. -/
def firstOf (className : String) : Node :=
  mapping [("namedInstanceName", text "First"), ("qualifiedClassName", text className)]

/-- Two instances of the name `First`, and a third one that refers to the name. -/
def twins (className : String) : Node :=
  mapping [("codeGen", codeGen), ("namespaces", sequence [types, backup]),
    ("namedInstances", sequence [firstOf "App.Node", firstOf className,
      secondNode (entry "namedInstanceName" "First")])]

/-- The model with the class of the second instance. -/
def twinned (className : String) : Model :=
  Model.ofNode options "chain" (twins className)

def firstAt (className path : String) : NamedInstance :=
  ⟨"First", .named className, none, .default, true, place path⟩

def referring : NamedInstance :=
  ⟨"Second", .named "App.Node", none,
    .assignments [⟨"next", .instanceOf "First", true, place "namedInstances[2].assignments[0]"⟩],
    true, place "namedInstances[2]"⟩

theorem namedInstances_twinned_other : (twinned "Backup.Node").namedInstances =
    [firstAt "App.Node" "namedInstances[0]", firstAt "Backup.Node" "namedInstances[1]",
      referring] := by
  decide +kernel

theorem namedInstances_twinned_same : (twinned "App.Node").namedInstances =
    [firstAt "App.Node" "namedInstances[0]", firstAt "App.Node" "namedInstances[1]",
      referring] := by
  decide +kernel

theorem isGeneratable_twinned : (twinned "Backup.Node").isGeneratable = true := by
  decide +kernel

end Sample

namespace Model

/-- In the first sample `First` is declared once and referred to. In the other one it is declared
twice for one namespace, and the second time is reported. -/
theorem linked_instanceNames :
    (∃! k, (Sample.linked "First").DeclaresAt "First" k) ∧
    ∃ d ∈ (Sample.twinned "App.Node").diagnostics, d.code = .duplicateNamedInstance ∧
      d.location = "chain#namedInstances[1]" := by
  constructor
  · have hnames := (ofNode_instanceNames Sample.options "chain"
      (Sample.chain (Sample.entry "namedInstanceName" "First"))).1 Sample.isGeneratable_linked
    have hsecond :
        Sample.second (.instanceOf "First") ∈ (Sample.linked "First").namedInstances := by
      simp [Sample.namedInstances_linked]
    refine (hnames.unambiguous "First" ⟨_, hsecond, _, List.mem_singleton.mpr rfl⟩).mpr ?_
    intro i hi j hj hiname hjname
    change i ∈ (Sample.linked "First").namedInstances at hi
    change j ∈ (Sample.linked "First").namedInstances at hj
    simp only [Sample.namedInstances_linked, List.mem_cons, List.not_mem_nil, or_false] at hi hj
    rcases hi with rfl | rfl
    · rcases hj with rfl | rfl
      · rfl
      · exact absurd hjname (by decide)
    · exact absurd hiname (by decide)
  · have hreports := (ofNode_instanceNames Sample.options "chain" (Sample.twins "App.Node")).2
    have hposition : ∀ k : Nat, (Sample.twinned "App.Node").namedInstances[k]? =
        [Sample.firstAt "App.Node" "namedInstances[0]",
          Sample.firstAt "App.Node" "namedInstances[1]", Sample.referring][k]? := fun k =>
      congrArg (fun instances => instances[k]?) Sample.namedInstances_twinned_same
    obtain ⟨d, hd, hcode, -, hlocation, -⟩ := hreports 1
      (Sample.firstAt "App.Node" "namedInstances[1]") (hposition 1) (by rfl)
      ⟨0, by decide, _, hposition 0, rfl, rfl⟩
    exact ⟨d, hd, hcode, hlocation⟩

/-- Instances of one name are accepted when their classes are of two namespaces, and a reference to
the name may then be to either of them. -/
theorem reference_is_ambiguous :
    ¬ ∀ (options : Options) (source : String) (root : Node),
      (ofNode options source root).isGeneratable = true →
      ∀ name, (ofNode options source root).RefersTo name →
        ∃! k, (ofNode options source root).DeclaresAt name k := by
  intro hall
  have hreferring : Sample.referring ∈ (Sample.twinned "Backup.Node").namedInstances := by
    simp [Sample.namedInstances_twinned_other]
  obtain ⟨k, -, honly⟩ := hall Sample.options "chain" (Sample.twins "Backup.Node")
    Sample.isGeneratable_twinned "First" ⟨_, hreferring, _, List.mem_singleton.mpr rfl⟩
  have hfirst := honly 0 ⟨Sample.firstAt "App.Node" "namedInstances[0]",
    congrArg (·[0]?) Sample.namedInstances_twinned_other, rfl⟩
  have hsecond := honly 1 ⟨Sample.firstAt "Backup.Node" "namedInstances[1]",
    congrArg (·[1]?) Sample.namedInstances_twinned_other, rfl⟩
  exact absurd (hfirst.trans hsecond.symm) (by decide)

end Model

end DependencyWiring
