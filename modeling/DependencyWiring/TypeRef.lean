import DependencyWiring.Name
import DependencyWiring.Text.Blank

/-!
# Type references

A type token is a base name with at most one array mark and question marks: `Base`, `Base?`,
`Base[]` and `Base[]?`. An array of nullable elements, `Base?[]`, is refused by a cause of its own.
-/
namespace DependencyWiring

/-- A type named by its base, with the marks that follow it. -/
structure TypeRef where
  base : String
  isArray : Bool
  isContainerNullable : Bool
  isElementNullable : Bool
  deriving DecidableEq, Repr, Inhabited

namespace TypeRef

/-- The base alone, without any mark. -/
def named (base : String) : TypeRef :=
  ⟨base, false, false, false⟩

def isPrimitive (t : TypeRef) : Bool :=
  Name.isPrimitive t.base

def hasModifiers (t : TypeRef) : Bool :=
  t.isArray || t.isContainerNullable || t.isElementNullable

/-- The token of a type: its base, then the marks of the element, the array and the container. -/
def token (t : TypeRef) : String :=
  t.base ++ (if t.isElementNullable then "?" else "") ++ (if t.isArray then "[]" else "") ++
    (if t.isContainerNullable then "?" else "")

/-- Why a token is no type reference. The text is the token, or the base that is no name. -/
inductive Error where
  | empty
  | nullableElementArray (token : String)
  | malformedModifiers (token : String)
  | invalidBase (base : String)
  deriving DecidableEq, Repr

def Error.message : Error → String
  | .empty => "type reference is empty"
  | .nullableElementArray token =>
    s!"'{token}' declares nullable elements inside an array, which is not supported"
  | .malformedModifiers token => s!"'{token}' has malformed type modifiers"
  | .invalidBase base => s!"'{base}' is not a valid type name"

/-- What remains of a text before the given ending. -/
def stripEnd? (ending : List Char) (cs : List Char) : Option (List Char) :=
  if cs.drop (cs.length - ending.length) = ending ∧ ending.length ≤ cs.length then
    some (cs.take (cs.length - ending.length))
  else none

/-- A character that only a mark may hold. -/
def isMark (c : Char) : Bool :=
  c = '?' || c = '[' || c = ']'

/-- Checks the base that remains once the marks are taken off the token. -/
def ofBase (token base : List Char) (isArray isContainerNullable isElementNullable : Bool) :
    Except Error TypeRef :=
  if base = [] ∨ base.any isMark then .error (.malformedModifiers (String.ofList token))
  else
    let name := String.ofList base
    if Name.isPrimitive name || Name.isSimpleOrQualified name then
      .ok ⟨name, isArray, isContainerNullable, isElementNullable⟩
    else .error (.invalidBase name)

/-- Reads an array type once its array mark is taken off. -/
def ofElement (token element : List Char) (isContainerNullable : Bool) : Except Error TypeRef :=
  if (stripEnd? ['?'] element).isSome then
    .error (.nullableElementArray (String.ofList token))
  else ofBase token element true isContainerNullable false

/-- Reads a token that has no blanks around it. -/
def ofToken (token : List Char) : Except Error TypeRef :=
  if token = [] then .error .empty
  else
    match stripEnd? ['[', ']', '?'] token with
    | some element => ofElement token element true
    | none =>
      match stripEnd? ['[', ']'] token with
      | some element => ofElement token element false
      | none =>
        match stripEnd? ['?'] token with
        | some base => ofBase token base false false true
        | none => ofBase token token false false false

/-- Reads a type token; blanks around it do not count. -/
def parse (s : String) : Except Error TypeRef :=
  ofToken (Text.trimChars s.toList)

end TypeRef

end DependencyWiring
