import DependencyWiring.Declared
import DependencyWiring.Placeholder

/-!
# Index of declarations

Positions of declared types and instances by name. The first declaration of a name counts, and a
placeholder has no name. The model keeps the order of the declarations, so that a position is one in
the model as well.
-/
namespace DependencyWiring

/-- A table from names to positions. -/
abbrev Table (α : Type) := List (String × α)

namespace Table

variable {α : Type}

/-- The first entry of a name. -/
def lookup (name : String) : Table α → Option α
  | [] => none
  | (k, v) :: es => if k = name then some v else lookup name es

/-- The entries without those whose name occurs before. -/
def keepFirst : Table α → Table α
  | [] => []
  | (k, v) :: es => (k, v) :: (keepFirst es).filter fun e => !decide (e.1 = k)

theorem lookup_filter_ne {name k : String} (h : k ≠ name) (es : Table α) :
    lookup name (es.filter fun e => !decide (e.1 = k)) = lookup name es := by
  induction es with
  | nil => rfl
  | cons e es ih =>
    obtain ⟨k', v⟩ := e
    by_cases hk : k' = k
    · subst hk
      simpa [lookup, h] using ih
    · by_cases hn : k' = name <;> simp_all [lookup]

@[simp] theorem lookup_keepFirst (name : String) (es : Table α) :
    lookup name (keepFirst es) = lookup name es := by
  induction es with
  | nil => rfl
  | cons e es ih =>
    obtain ⟨k, v⟩ := e
    by_cases h : k = name
    · simp [keepFirst, lookup, h]
    · rw [keepFirst, lookup, lookup, lookup_filter_ne h, ih]

end Table

namespace Declared

/-- The position of a namespace, and that of a type in it. -/
abbrev TypePosition := Nat × Nat

/-- Where the types and instances of a document are declared. -/
structure Index where
  classes : Table TypePosition
  interfaces : Table TypePosition
  instances : Table Nat
  deriving DecidableEq, Repr, Inhabited

namespace Index

def hasClass (ix : Index) (qualifiedName : String) : Bool :=
  (ix.classes.lookup qualifiedName).isSome

def hasInterface (ix : Index) (qualifiedName : String) : Bool :=
  (ix.interfaces.lookup qualifiedName).isSome

def instancePosition? (ix : Index) (name : String) : Option Nat :=
  ix.instances.lookup name

/-- Whether a declaration has a name. -/
def isNamed (placeholder : Bool) (name : Field) : Bool :=
  !(placeholder || Placeholder.isPlaceholder name.value)

/-- The classes of a namespace with their positions. -/
def classEntries (n : Nat) (ns : Namespace) : Table TypePosition :=
  if isNamed ns.placeholder ns.name then
    ns.classes.zipIdx.filterMap fun (c, i) =>
      if isNamed c.placeholder c.name then
        some (Name.qualify ns.name.value c.name.value, (n, i))
      else none
  else []

/-- The interfaces of a namespace with their positions. -/
def interfaceEntries (n : Nat) (ns : Namespace) : Table TypePosition :=
  if isNamed ns.placeholder ns.name then
    ns.interfaces.zipIdx.filterMap fun (c, i) =>
      if isNamed c.placeholder c.name then
        some (Name.qualify ns.name.value c.name.value, (n, i))
      else none
  else []

def instanceEntries (instances : List NamedInstance) : Table Nat :=
  instances.zipIdx.filterMap fun (inst, i) =>
    if isNamed inst.placeholder inst.name then some (inst.name.value, i) else none

/-- The index of the declarations of a document. -/
def ofModel (m : Model) : Index where
  classes := Table.keepFirst (m.namespaces.zipIdx.flatMap fun (ns, n) => classEntries n ns)
  interfaces := Table.keepFirst (m.namespaces.zipIdx.flatMap fun (ns, n) => interfaceEntries n ns)
  instances := Table.keepFirst (instanceEntries m.namedInstances)

end Index

end Declared

end DependencyWiring
