import DependencyWiring.Report

/-!
# Reports without errors

A report is clean when nothing on it is an error. A sequence of steps is clean exactly when every
step is, so what a clean run guarantees is said step by step: each reader and builder has one lemma
on what it leaves behind when it noted no error.
-/
namespace DependencyWiring

attribute [simp] Finding.code Code.severity

namespace Finding

/-- Whether a finding is an error is computed from what was found. -/
@[simp] def isError (f : Finding) : Bool :=
  f.code.severity = .error

/-- A name of a wrong form is an error under either code. -/
theorem isError_invalidName (value : String) (form : NameForm) (key : String) :
    (invalidName value form key).isError = true := by
  cases form with
  | simple => rfl
  | simpleOrQualified =>
    simp only [isError, code, nameCode]
    split <;> rfl

theorem isError_invalidToken (key : String) (cause : TypeRef.Error) :
    (invalidToken key cause).isError = true := by
  cases cause <;> rfl

end Finding

namespace Note

def isError (n : Note) : Bool :=
  n.finding.isError

@[simp] theorem isError_mk (finding : Finding) (origin : Origin) :
    (Note.mk finding origin).isError = finding.isError := rfl

theorem isError_diagnostic (n : Note) : n.diagnostic.isError = n.isError := rfl

/-- None of the notes is an error. -/
def NoErrors (notes : List Note) : Prop :=
  ∀ n ∈ notes, n.isError = false

@[simp] theorem noErrors_nil : NoErrors [] := by
  simp [NoErrors]

@[simp] theorem noErrors_cons (n : Note) (notes : List Note) :
    NoErrors (n :: notes) ↔ n.isError = false ∧ NoErrors notes := by
  simp [NoErrors]

@[simp] theorem noErrors_append (as bs : List Note) :
    NoErrors (as ++ bs) ↔ NoErrors as ∧ NoErrors bs := by
  simp only [NoErrors, List.mem_append]
  constructor
  · intro h
    exact ⟨fun n hn => h n (.inl hn), fun n hn => h n (.inr hn)⟩
  · rintro ⟨ha, hb⟩ n (hn | hn)
    · exact ha n hn
    · exact hb n hn

@[simp] theorem noErrors_flatMap {α : Type} (f : α → List Note) (as : List α) :
    NoErrors (as.flatMap f) ↔ ∀ a ∈ as, NoErrors (f a) := by
  simp only [NoErrors, List.mem_flatMap]
  constructor
  · intro h a ha n hn
    exact h n ⟨a, ha, hn⟩
  · rintro h n ⟨a, ha, hn⟩
    exact h a ha n hn

theorem noErrors_ite {p : Prop} [Decidable p] {n : Note} :
    NoErrors (if p then [n] else []) ↔ (p → n.isError = false) := by
  split <;> simp_all

/-- Where every note is an error there are none exactly when nothing is to be noted. -/
theorem noErrors_filterMap {α : Type} {p : α → Prop} [DecidablePred p] {f : α → Note}
    (hf : ∀ a, (f a).isError = true) (as : List α) :
    NoErrors (as.filterMap fun a => if p a then some (f a) else none) ↔ ∀ a ∈ as, ¬p a := by
  simp only [NoErrors, List.mem_filterMap]
  constructor
  · intro h a ha hp
    have herror := h (f a) ⟨a, ha, if_pos hp⟩
    exact absurd ((hf a).symm.trans herror) (by decide)
  · rintro h n ⟨a, ha, hn⟩
    rw [if_neg (h a ha)] at hn
    exact absurd hn (by simp)

theorem hasErrors_diagnostics (notes : List Note) :
    Diagnostic.hasErrors (notes.map diagnostic) = false ↔ NoErrors notes := by
  simp [Diagnostic.hasErrors, NoErrors, isError_diagnostic]

end Note

namespace Report

variable {α β : Type}

/-- Nothing on the report is an error. -/
def IsClean (r : Report α) : Prop :=
  Note.NoErrors r.notes

@[simp] theorem isClean_pure (a : α) : (pure a : Report α).IsClean :=
  Note.noErrors_nil

@[simp] theorem isClean_bind (r : Report α) (f : α → Report β) :
    (r >>= f).IsClean ↔ r.IsClean ∧ (f r.value).IsClean :=
  Note.noErrors_append _ _

@[simp] theorem isClean_note (finding : Finding) (origin : Origin) :
    (note finding origin).IsClean ↔ finding.isError = false := by
  simp [IsClean]

@[simp] theorem isClean_noteIf (condition : Bool) (finding : Finding) (origin : Origin) :
    (noteIf condition finding origin).IsClean ↔ (condition = true → finding.isError = false) := by
  cases condition <;> simp [noteIf]

@[simp] theorem isClean_forEach (f : α → Report β) (as : List α) :
    (forEach f as).IsClean ↔ ∀ a ∈ as, (f a).IsClean := by
  simp [IsClean]

theorem isClean_forEachIndexed (f : Nat → α → Report β) (as : List α) :
    (forEachIndexed f as).IsClean ↔ ∀ p ∈ as.zipIdx, (f p.2 p.1).IsClean := by
  simp [forEachIndexed, IsClean]

/-- What a clean step guarantees of its value holds of every value of a clean run. -/
theorem IsClean.forall_forEachIndexed {f : Nat → α → Report β} {as : List α} {P : β → Prop}
    (hstep : ∀ i a, (f i a).IsClean → P (f i a).value) (h : (forEachIndexed f as).IsClean) :
    ∀ b ∈ (forEachIndexed f as).value, P b := by
  intro b hb
  rw [forEachIndexed, value_forEachFrom] at hb
  obtain ⟨p, hp, rfl⟩ := List.mem_map.mp hb
  exact hstep p.2 p.1 ((isClean_forEachIndexed f as).mp h p hp)

end Report

end DependencyWiring
