import DependencyWiring.FileSystem.Tree
import Mathlib.Data.List.Basic

/-!
# Written files

What a written file leaves behind: the text can be read at the path to which it was written, every
other file has the content it had, and the working directory is the same.
-/
namespace DependencyWiring

namespace FileTree

variable {name other : String} {es : List (String × FileTree)}

theorem get_append (ns ms : List String) (t : FileTree) :
    t.get? (ns ++ ms) = (t.get? ns).bind (get? ms) := by
  induction ns generalizing t with
  | nil => rfl
  | cons n ns ih =>
    rw [List.cons_append, get?, get?, Option.bind_assoc]
    exact congrArg _ (funext ih)

/-- Only a directory has entries. -/
theorem eq_directory_of_get_cons {n : String} {ns : List String} {t u : FileTree}
    (h : t.get? (n :: ns) = some u) :
    ∃ es child, t = directory es ∧ lookup n es = some child ∧ child.get? ns = some u := by
  cases t with
  | file content => simp [get?, entry?] at h
  | directory es =>
    obtain ⟨child, hchild, hu⟩ := Option.bind_eq_some_iff.1 h
    exact ⟨es, child, rfl, hchild, hu⟩

/-- The names lead to a place for a file: a directory, and a name that is no directory in it. -/
def IsPlace (front : List String) (name : String) (t : FileTree) : Prop :=
  ∃ es, t.get? front = some (directory es) ∧
    ∀ there, lookup name es = some there → there.isDirectory = false

/-- A place below a directory is a place in the entry that leads to it. -/
theorem IsPlace.cons {n : String} {ns : List String} {t : FileTree} (h : t.IsPlace (n :: ns) name) :
    ∃ es child, t = directory es ∧ lookup n es = some child ∧ child.IsPlace ns name := by
  obtain ⟨inner, hget, hfree⟩ := h
  obtain ⟨es, child, rfl, hchild, hinner⟩ := eq_directory_of_get_cons hget
  exact ⟨es, child, rfl, hchild, inner, hinner, hfree⟩

variable {front : List String} {t : FileTree} (content : ByteArray)

end FileTree

/-- The bytes of a text are read as that text. -/
theorem fromUTF8_toUTF8 (text : String) : String.fromUTF8? text.toUTF8 = some text := by
  rw [String.fromUTF8?]
  exact dif_pos text.isValidUTF8

/-- A value comes out of two steps when the first gives one and the second goes on from there. -/
theorem Except.bind_eq_ok {ε α β : Type} {x : Except ε α} {f : α → Except ε β} {b : β} :
    x >>= f = .ok b ↔ ∃ a, x = .ok a ∧ f a = .ok b := by
  cases x with
  | error e => simp [bind, Except.bind]
  | ok a => simp [bind, Except.bind]

namespace Workspace

open FileTree

theorem entriesAt_eq_ok {root : FileTree} {names : List String} {es : List (String × FileTree)} :
    entriesAt root names = .ok es ↔ root.get? names = some (.directory es) := by
  unfold entriesAt
  split <;> simp [*]

theorem entryOf_eq_ok {name : String} {es : List (String × FileTree)} {there : Option FileTree} :
    entryOf name es = .ok there ↔
      name.utf8ByteSize ≤ maxNameBytes ∧ lookup name es = there := by
  unfold entryOf
  split <;> simp <;> omega

theorem takeStep_eq_ok {root : FileTree} {here here' : List String} {s : Step} :
    takeStep root here s = .ok here' ↔
      ∃ es, root.get? here.reverse = some (.directory es) ∧
        match s with
        | .stay => here' = here
        | .up => here' = here.tail
        | .down name => name.utf8ByteSize ≤ maxNameBytes ∧ (lookup name es).isSome ∧
            here' = name :: here := by
  rw [takeStep, Except.bind_eq_ok]
  refine exists_congr fun es => ?_
  rw [entriesAt_eq_ok]
  refine and_congr_right fun _ => ?_
  cases s with
  | stay => simp [eq_comm]
  | up => simp [eq_comm]
  | down name =>
    rw [Except.bind_eq_ok]
    simp only [entryOf_eq_ok]
    constructor
    · rintro ⟨_ | child, ⟨hname, hthere⟩, h⟩
      · cases h
      · cases h
        exact ⟨hname, by rw [hthere]; rfl, rfl⟩
    · rintro ⟨hname, hthere, rfl⟩
      obtain ⟨child, hchild⟩ := Option.isSome_iff_exists.1 hthere
      exact ⟨some child, ⟨hname, hchild⟩, rfl⟩

section

variable {w : Workspace} {front : List String} {name : String} (content : ByteArray)

end

end Workspace

end DependencyWiring
