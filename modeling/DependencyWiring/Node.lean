/-!
# Document trees

A document is a tree of mappings, sequences and scalars, each with its position in the text. Every
format that gives such a tree can carry a wiring document.
-/
namespace DependencyWiring

/-- A place in a text. Lines and columns count from zero. -/
structure Position where
  line : Nat
  column : Option Nat
  deriving DecidableEq, Repr, Inhabited

/-- The kinds of nodes. -/
inductive Shape where
  | mapping
  | sequence
  | scalar
  deriving DecidableEq, Repr, Inhabited

def Shape.name : Shape → String
  | mapping => "mapping"
  | sequence => "sequence"
  | scalar => "scalar"

/-- A mapping keeps its entries as authored, repeated keys included. -/
inductive Node where
  | mapping (entries : List (String × Node)) (position : Position)
  | sequence (items : List Node) (position : Position)
  | scalar (text : String) (position : Position)
  deriving Repr, Inhabited

namespace Node

def position : Node → Position
  | mapping _ p => p
  | sequence _ p => p
  | scalar _ p => p

def shape : Node → Shape
  | mapping .. => .mapping
  | sequence .. => .sequence
  | scalar .. => .scalar

def entries? : Node → Option (List (String × Node))
  | mapping es _ => some es
  | _ => none

def items? : Node → Option (List Node)
  | sequence is _ => some is
  | _ => none

def text? : Node → Option String
  | scalar t _ => some t
  | _ => none

/-- The first value of a key in a list of entries. -/
def lookup (key : String) : List (String × Node) → Option Node
  | [] => none
  | (k, v) :: es => if k = key then some v else lookup key es

/-- The first value of a key; only a mapping has keys. -/
def get? (n : Node) (key : String) : Option Node :=
  n.entries?.bind (lookup key)

end Node

end DependencyWiring
