import DependencyWiring.Diagnostic.Finding

/-!
# Values with notes

Reading and building never stop at a fault. A report is the value that was made together with what
was noted on the way, in the order in which it was noted.
-/
namespace DependencyWiring

structure Report (α : Type) where
  value : α
  notes : List Note
  deriving Repr, Inhabited

namespace Report

variable {α β : Type}

instance : Monad Report where
  pure a := ⟨a, []⟩
  bind r f := ⟨(f r.value).value, r.notes ++ (f r.value).notes⟩

/-- A note on its own. -/
def note (finding : Finding) (origin : Origin) : Report Unit :=
  ⟨(), [⟨finding, origin⟩]⟩

/-- A note that is made when a condition holds. -/
def noteIf (condition : Bool) (finding : Finding) (origin : Origin) : Report Unit :=
  if condition then note finding origin else pure ()

/-- The reports of a list one after another. -/
def forEach (f : α → Report β) : List α → Report (List β)
  | [] => pure []
  | a :: as => do
    let b ← f a
    let bs ← forEach f as
    pure (b :: bs)

/-- The reports of a list one after another, each with its position counted on from `start`. -/
def forEachFrom (f : Nat → α → Report β) (start : Nat) : List α → Report (List β)
  | [] => pure []
  | a :: as => do
    let b ← f start a
    let bs ← forEachFrom f (start + 1) as
    pure (b :: bs)

/-- The reports of a list one after another, each with its position. -/
def forEachIndexed (f : Nat → α → Report β) (as : List α) : Report (List β) :=
  forEachFrom f 0 as

@[simp] theorem value_pure (a : α) : (pure a : Report α).value = a := rfl

@[simp] theorem notes_pure (a : α) : (pure a : Report α).notes = [] := rfl

@[simp] theorem value_bind (r : Report α) (f : α → Report β) :
    (r >>= f).value = (f r.value).value := rfl

@[simp] theorem notes_bind (r : Report α) (f : α → Report β) :
    (r >>= f).notes = r.notes ++ (f r.value).notes := rfl

theorem pure_bind (a : α) (f : α → Report β) : (pure a >>= f) = f a := rfl

/-- A report without notes is its value. -/
theorem eq_pure_value {r : Report α} (h : r.notes = []) : r = pure r.value := by
  cases r
  cases h
  rfl

@[simp] theorem notes_note (finding : Finding) (origin : Origin) :
    (note finding origin).notes = [⟨finding, origin⟩] := rfl

@[simp] theorem value_forEach (f : α → Report β) (as : List α) :
    (forEach f as).value = as.map fun a => (f a).value := by
  induction as with
  | nil => rfl
  | cons a as ih => simp [forEach, ih]

@[simp] theorem notes_forEach (f : α → Report β) (as : List α) :
    (forEach f as).notes = as.flatMap fun a => (f a).notes := by
  induction as with
  | nil => rfl
  | cons a as ih => simp [forEach, ih]

@[simp] theorem value_forEachFrom (f : Nat → α → Report β) (start : Nat) (as : List α) :
    (forEachFrom f start as).value = (as.zipIdx start).map fun p => (f p.2 p.1).value := by
  induction as generalizing start with
  | nil => rfl
  | cons a as ih => simp [forEachFrom, ih]

@[simp] theorem notes_forEachFrom (f : Nat → α → Report β) (start : Nat) (as : List α) :
    (forEachFrom f start as).notes = (as.zipIdx start).flatMap fun p => (f p.2 p.1).notes := by
  induction as generalizing start with
  | nil => rfl
  | cons a as ih => simp [forEachFrom, ih]

end Report

end DependencyWiring
