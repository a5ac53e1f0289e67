import DependencyWiring.Proofs.AcceptedDocuments
import Mathlib.Tactic.ByContra

/-!
# Order of dependencies

The instances of a model and the references between them are a graph. In a generatable model every
reference goes back, so the order of the document is a topological order of the graph. Cycles are
never searched for: a walk that goes back at every step ends before it starts, so a cycle has a
reference that does not, and that one is reported where it is authored.
-/
namespace DependencyWiring

open Check

namespace Model

/-- A reference from the instance at a position, authored at a place, to the instance at another. -/
structure Reference where
  source : Nat
  name : String
  provenance : Provenance
  target : Nat
  deriving DecidableEq, Repr

/-- The reference is a wiring of its source, and its target is the first instance it names. -/
structure HasReference (m : Model) (e : Reference) : Prop where
  wired : ∃ i, m.namedInstances[e.source]? = some i ∧
    (Wiring.instanceOf e.name, e.provenance) ∈ i.wirings
  isSimple : Name.isSimple e.name = true
  first : m.namedInstances.findIdx? (fun i => i.name = e.name) = some e.target

/-- References, each of which starts where the one before it ends. -/
inductive Walk (m : Model) : Nat → Nat → List Reference → Prop
  | nil (i : Nat) : Walk m i i []
  | cons {e : Reference} {j : Nat} {es : List Reference} :
      m.HasReference e → Walk m e.target j es → Walk m e.source j (e :: es)

variable {m : Model} {i j : Nat} {es : List Reference}

theorem Walk.hasReference (h : Walk m i j es) : ∀ e ∈ es, m.HasReference e := by
  induction h with
  | nil => simp
  | cons he _ ih =>
    intro e hmem
    rcases List.mem_cons.mp hmem with rfl | hmem
    · exact he
    · exact ih e hmem

/-- A walk that goes back at every step ends at or before its start. -/
theorem Walk.le_of_back (h : Walk m i j es) (hback : ∀ e ∈ es, e.target < e.source) :
    j ≤ i := by
  induction h with
  | nil => exact Nat.le_refl _
  | cons _ _ ih =>
    have hfirst := hback _ (List.mem_cons_self ..)
    have hrest := ih fun e he => hback e (List.mem_cons_of_mem _ he)
    omega

/-- A cycle has a reference that does not go back. -/
theorem Walk.exists_forward (h : Walk m i i es) (hne : es ≠ []) :
    ∃ e ∈ es, e.source ≤ e.target := by
  by_contra hall
  have hback : ∀ e ∈ es, e.target < e.source := by
    intro e he
    by_contra hlt
    exact hall ⟨e, he, by omega⟩
  cases h with
  | nil => exact hne rfl
  | cons _ hrest =>
    have hfirst := hback _ (List.mem_cons_self ..)
    have hle := hrest.le_of_back fun e he => hback e (List.mem_cons_of_mem _ he)
    omega

/-- What a step starts from is where the walk starts or where another step ends. -/
theorem Walk.source_cases (h : Walk m i j es) {e : Reference} (he : e ∈ es) :
    e.source = i ∨ ∃ e' ∈ es, e'.target = e.source := by
  induction h with
  | nil => simp at he
  | @cons e' j es _ _ ih =>
    rcases List.mem_cons.mp he with rfl | hmem
    · exact .inl rfl
    · rcases ih hmem with hstart | ⟨e'', he'', htarget⟩
      · exact .inr ⟨e', by simp, hstart.symm⟩
      · exact .inr ⟨e'', by simp [he''], htarget⟩

theorem Walk.eq_of_nil (h : Walk m i j []) : i = j := by
  cases h
  rfl

theorem Walk.exists_last (h : Walk m i j es) (hne : es ≠ []) : ∃ e ∈ es, e.target = j := by
  induction h with
  | nil => exact absurd rfl hne
  | @cons e j es _ hrest ih =>
    cases es with
    | nil => exact ⟨e, by simp, hrest.eq_of_nil⟩
    | cons e' es =>
      obtain ⟨e'', he'', htarget⟩ := ih (by simp)
      exact ⟨e'', List.mem_cons_of_mem _ he'', htarget⟩

/-- Each instance on a cycle is one that is referred to. -/
theorem Walk.exists_previous (h : Walk m i i es) {e : Reference} (he : e ∈ es) :
    ∃ e' ∈ es, e'.target = e.source := by
  rcases h.source_cases he with hstart | hprevious
  · obtain ⟨e', he', htarget⟩ := h.exists_last (List.ne_nil_of_mem he)
    exact ⟨e', he', htarget.trans hstart.symm⟩
  · exact hprevious

/-- What is referred to has a name, so it is no placeholder. -/
theorem HasReference.target_named {e : Reference} (h : m.HasReference e) {inst : NamedInstance}
    (hinst : m.namedInstances[e.target]? = some inst) : inst.isPlaceholder = false := by
  obtain ⟨hlt, hname, -⟩ := List.findIdx?_eq_some_iff_getElem.mp h.first
  have hsame : m.namedInstances[e.target] = inst := by
    simpa [List.getElem?_eq_getElem hlt] using hinst
  have hsimple : Name.isSimple inst.name = true := by
    rw [← hsame, of_decide_eq_true hname]
    exact h.isSimple
  exact Placeholder.isPlaceholder_of_isSimple hsimple

end Model

namespace Check

variable {stamp : Stamp} {d : Declared.Model}

/-- A reference of a named instance that does not go back is noted at its own place. -/
theorem mem_orderingNotes (hd : d.HasMarks) {e : Model.Reference}
    (he : (Scope.ofDeclared stamp d).model.HasReference e) {inst : NamedInstance}
    (hinst : (Scope.ofDeclared stamp d).model.namedInstances[e.source]? = some inst)
    (hnamed : inst.isPlaceholder = false) (hforward : e.source ≤ e.target) :
    noteOn (.laterInstance inst.name e.name) e.provenance ∈
      orderingNotes (Scope.ofDeclared stamp d) := by
  obtain ⟨i, hi, hwired⟩ := he.wired
  obtain rfl : i = inst := Option.some.inj (hi.symm.trans hinst)
  have hposition := Scope.instancePosition_eq stamp hd
    (Placeholder.isPlaceholder_of_isSimple he.isSimple)
  rw [orderingNotes, List.mem_flatMap]
  refine ⟨(i, e.source), List.mem_zipIdx_iff_getElem?.mpr hinst, ?_⟩
  simp only [hnamed, Bool.false_eq_true, if_false, List.mem_flatMap]
  refine ⟨_, hwired, ?_⟩
  simp [orderNotes, isLookedUp, he.isSimple, hposition, he.first, hforward]

/-- A wiring is not noted when the index finds what it refers to at an earlier position. -/
theorem noErrors_orderNotes_iff {s : Scope} {k : Nat} {inst : NamedInstance}
    {w : Wiring × Provenance} : Note.NoErrors (orderNotes s k inst w) ↔
      ∀ target, w.1 = .instanceOf target → Name.isSimple target = true →
        ∃ j < k, s.index.instancePosition? target = some j := by
  unfold orderNotes
  cases w.1 with
  | value text => simp
  | instanceOf target =>
    cases hsimple : Name.isSimple target with
    | false => simp [isLookedUp, hsimple]
    | true =>
      cases hposition : s.index.instancePosition? target with
      | none => simp [isLookedUp, hsimple, hposition]
      | some j => simp [isLookedUp, hsimple, hposition, Note.noErrors_ite]

/-- Where no reference is noted, an instance refers to one declared before it only. -/
theorem exists_earlier (h : Accepted stamp d) {i : Nat} {inst : NamedInstance}
    (hinst : (Scope.ofDeclared stamp d).model.namedInstances[i]? = some inst) {target : String}
    {p : Provenance} (hwired : (Wiring.instanceOf target, p) ∈ inst.wirings) :
    ∃ j < i, (Scope.ofDeclared stamp d).model.namedInstances.findIdx?
      (fun k => k.name = target) = some j := by
  have hsound := h.model.namedInstances inst (List.mem_of_getElem? hinst)
  have hsimple := hsound.targets _ hwired target rfl
  have hposition := Scope.instancePosition_eq stamp h.marks
    (Placeholder.isPlaceholder_of_isSimple hsimple)
  have hnotes := h.orderingNotes
  rw [orderingNotes, Note.noErrors_flatMap] at hnotes
  have hown := hnotes (inst, i) (List.mem_zipIdx_iff_getElem?.mpr hinst)
  have hnamed := h.isPlaceholder_eq_false (List.mem_of_getElem? hinst)
  simp only [hnamed, Bool.false_eq_true, if_false, Note.noErrors_flatMap] at hown
  obtain ⟨j, hlt, hfound⟩ := noErrors_orderNotes_iff.mp (hown _ hwired) target rfl hsimple
  exact ⟨j, hlt, hposition.symm.trans hfound⟩

end Check

namespace Model

/-- The order of the instances is a topological order of the references between them, and no wiring
is left out of it. -/
structure IsOrdered (m : Model) : Prop where
  declared : ∀ (i : Nat) (inst : NamedInstance), m.namedInstances[i]? = some inst →
    ∀ (target : String) (p : Provenance), (Wiring.instanceOf target, p) ∈ inst.wirings →
      ∃ j < i, ∃ earlier, m.namedInstances[j]? = some earlier ∧ earlier.name = target
  back : ∀ e, m.HasReference e → e.target < e.source

/-- Every cycle of references has one that is reported to break the order, at its own place. -/
def ReportsCycles (m : Model) : Prop :=
  ∀ (i : Nat) (es : List Reference), Walk m i i es → es ≠ [] →
    ∃ e ∈ es, ∃ d ∈ m.diagnostics, d.code = .dependencyOrderViolation ∧
      d.location = e.provenance.location ∧ d.line = some e.provenance.origin.line

/-- References do not depend on what is said of a model. -/
theorem hasReference_withDiagnostics {m : Model} {diagnostics : List Diagnostic} {e : Reference} :
    HasReference { m with diagnostics := diagnostics } e ↔ m.HasReference e :=
  ⟨fun h => ⟨h.wired, h.isSimple, h.first⟩, fun h => ⟨h.wired, h.isSimple, h.first⟩⟩

theorem isOrdered_of_accepted {stamp : Stamp} {d : Declared.Model} (h : Accepted stamp d)
    (diagnostics : List Diagnostic) :
    IsOrdered { (Scope.ofDeclared stamp d).model with diagnostics := diagnostics } := by
  refine ⟨?_, ?_⟩
  · intro i inst hinst target p hwired
    obtain ⟨j, hlt, hfirst⟩ := exists_earlier h hinst hwired
    obtain ⟨hj, hname, -⟩ := List.findIdx?_eq_some_iff_getElem.mp hfirst
    exact ⟨j, hlt, _, List.getElem?_eq_getElem hj, of_decide_eq_true hname⟩
  · intro e he
    obtain ⟨inst, hinst, hwired⟩ := he.wired
    obtain ⟨j, hlt, hfirst⟩ := exists_earlier h hinst hwired
    obtain rfl : j = e.target := Option.some.inj (hfirst.symm.trans he.first)
    exact hlt

theorem reportsCycles_ofDeclared (options : Options) {d : Declared.Model} (hd : d.HasMarks)
    (before : List Note) : (ofDeclared options d before).ReportsCycles := by
  intro i es hwalk hne
  have hreference : ∀ e ∈ es,
      (Scope.ofDeclared (options.stamp .transform) d).model.HasReference e := fun e he =>
    hasReference_withDiagnostics.mp (hwalk.hasReference e he)
  obtain ⟨e, he, hforward⟩ := hwalk.exists_forward hne
  obtain ⟨e', he', htarget⟩ := hwalk.exists_previous he
  obtain ⟨inst, hinst, -⟩ := (hreference e he).wired
  have hnamed : inst.isPlaceholder = false :=
    (hreference e' he').target_named (htarget ▸ hinst)
  have hnote : noteOn (.laterInstance inst.name e.name) e.provenance ∈
      notes (Scope.ofDeclared (options.stamp .transform) d) := by
    simp [notes, mem_orderingNotes hd (hreference e he) hinst hnamed hforward]
  exact ⟨e, he, (noteOn (.laterInstance inst.name e.name) e.provenance).diagnostic,
    List.mem_map_of_mem (List.mem_append_right _ hnote), rfl, rfl, rfl⟩

/-- The document of a generatable model declares its instances in the order of their dependencies,
and a cycle of dependencies is reported in any document. -/
theorem ofNode_dependencyOrder (options : Options) (source : String) (root : Node) :
    ((ofNode options source root).isGeneratable = true →
      (ofNode options source root).IsOrdered) ∧
    (ofNode options source root).ReportsCycles := by
  constructor
  · intro h
    obtain ⟨d, haccepted, diagnostics, he⟩ := exists_accepted h
    rw [he]
    exact isOrdered_of_accepted haccepted diagnostics
  · rcases ofNode_cases options source root with ⟨cause, -, he⟩ | ⟨declared, hread, he⟩
    · rw [he]
      intro i es hwalk hne
      obtain ⟨e, hmem⟩ := List.exists_mem_of_ne_nil es hne
      obtain ⟨inst, hinst, -⟩ := (hwalk.hasReference e hmem).wired
      simp [refused] at hinst
    · rw [he]
      exact reportsCycles_ofDeclared options (Declared.Reading.readDocument_marked _ hread) _

/-- In the sample the second node refers to the first. Once it refers to itself it is a cycle of one
reference, which is reported. -/
theorem linked_dependencyOrder :
    (∃ j < 1, ∃ earlier, (Sample.linked "First").namedInstances[j]? = some earlier ∧
      earlier.name = "First") ∧
    ∃ d ∈ (Sample.linked "Second").diagnostics, d.code = .dependencyOrderViolation ∧
      d.location = "chain#namedInstances[1].assignments[0]" := by
  constructor
  · have hordered := (ofNode_dependencyOrder Sample.options "chain"
      (Sample.chain (Sample.entry "namedInstanceName" "First"))).1 Sample.isGeneratable_linked
    refine hordered.declared 1 (Sample.second (.instanceOf "First")) ?_ "First"
      (Sample.assigned (.instanceOf "First")).provenance ?_
    · exact congrArg (·[1]?) Sample.namedInstances_linked
    · exact List.mem_singleton.mpr rfl
  · have hcycle := (ofNode_dependencyOrder Sample.options "chain"
      (Sample.chain (Sample.entry "namedInstanceName" "Second"))).2
    have hself : (Sample.linked "Second").HasReference
        ⟨1, "Second", (Sample.assigned (.instanceOf "Second")).provenance, 1⟩ :=
      ⟨⟨Sample.second (.instanceOf "Second"), by rfl, List.mem_singleton.mpr rfl⟩,
        by rfl, by rfl⟩
    obtain ⟨e, he, d, hd, hcode, hlocation, -⟩ := hcycle 1 [_] (.cons hself (.nil 1)) (by simp)
    obtain rfl := List.mem_singleton.mp he
    exact ⟨d, hd, hcode, hlocation⟩

end Model

end DependencyWiring
