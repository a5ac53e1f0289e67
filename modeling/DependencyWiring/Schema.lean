import DependencyWiring.Json.Printer
import DependencyWiring.Schema.Pattern

/-!
# Schemas of JSON values

A schema says which JSON values a document may have at a place. Checking a value gives every
violation in it, in the order of the items and of the declared properties.
-/
namespace DependencyWiring

namespace Schema

/-- The types of JSON values; an integer is a number without a fraction. -/
inductive Kind where
  | array
  | boolean
  | integer
  | null
  | object
  | string
  deriving DecidableEq, Repr, Inhabited

def Kind.name : Kind → String
  | array => "array"
  | boolean => "boolean"
  | integer => "integer"
  | null => "null"
  | object => "object"
  | string => "string"

def Kind.has : Kind → Json → Bool
  | array, .array _ => true
  | boolean, .bool _ => true
  | integer, .number n => n.isInteger
  | null, .null => true
  | object, .object _ => true
  | string, .string _ => true
  | _, _ => false

namespace Kind

@[simp] theorem has_boolean (b : Bool) : boolean.has (.bool b) = true := rfl

@[simp] theorem has_integer (n : Json.Number) : integer.has (.number n) = n.isInteger := rfl

@[simp] theorem has_null : null.has .null = true := rfl

@[simp] theorem not_has_null_object (members : List (String × Json)) :
    null.has (.object members) = false := rfl

@[simp] theorem has_string (s : String) : string.has (.string s) = true := rfl

end Kind

/-- A limit on the values of one kind; other values keep to it. -/
inductive Limit where
  | minimum (n : Nat)
  | minLength (n : Nat)
  | pattern (p : Pattern)
  deriving DecidableEq, Repr, Inhabited

end Schema

/-- An object has the required members and none but the declared ones. -/
inductive Schema where
  | const (text : String)
  | oneOfTexts (texts : List String)
  | typed (kinds : List Schema.Kind) (limits : List Schema.Limit)
  | array (minItems : Nat) (items : Schema)
  | object (required : List String) (properties : List (String × Schema))
  | oneOf (alternatives : List Schema)
  deriving Repr, Inhabited

namespace Schema

/-- How a value breaks a schema. -/
inductive Violation where
  | wrongKind (value : Json) (kinds : List Kind)
  | missing (name : String)
  | unexpected (names : List String)
  | notConst (text : String)
  | notOneOf (value : Json) (texts : List String)
  | belowMinimum (value : Json) (n : Nat)
  | tooShort (value : Json) (n : Nat)
  | noMatch (value : Json) (p : Pattern)
  | tooFewItems (value : Json) (n : Nat)
  | noAlternative (value : Json)
  | severalAlternatives (value : Json)
  deriving Repr, Inhabited

namespace Violation

/-- A word for one, or the word for several. -/
def counted (n : Nat) (one several : String) : String :=
  if n = 1 then one else several

/-- The texts quoted, the last one joined by `or`. -/
def choices : List String → String
  | [] => ""
  | [t] => Json.quote t
  | [t, u] => Json.quote t ++ " or " ++ Json.quote u
  | t :: ts => Json.quote t ++ ", " ++ choices ts

def kindsText : List Kind → String
  | [k] => "type " ++ Json.quote k.name
  | ks => "types " ++ ", ".intercalate (ks.map fun k => Json.quote k.name)

def message : Violation → String
  | wrongKind v ks => v.compact ++ " is not of " ++ kindsText ks
  | missing name => Json.quote name ++ " is a required property"
  | unexpected names =>
    "Additional properties are not allowed (" ++
      ", ".intercalate (names.map fun n => "'" ++ n ++ "'") ++ " " ++
      counted names.length "was" "were" ++ " unexpected)"
  | notConst text => Json.quote text ++ " was expected"
  | notOneOf v texts => v.compact ++ " is not one of " ++ choices texts
  | belowMinimum v n => v.compact ++ s!" is less than the minimum of {n}"
  | tooShort v n =>
    v.compact ++ s!" is shorter than {n} " ++ counted n "character" "characters"
  | noMatch v p => v.compact ++ " does not match \"" ++ p.text ++ "\""
  | tooFewItems v n => v.compact ++ s!" has less than {n} " ++ counted n "item" "items"
  | noAlternative v =>
    v.compact ++ " is not valid under any of the schemas listed in the 'oneOf' keyword"
  | severalAlternatives v =>
    v.compact ++ " is valid under more than one of the schemas listed in the 'oneOf' keyword"

end Violation

/-- The violation of a limit. -/
def Limit.violations (v : Json) : Limit → List Violation
  | .minimum n =>
    match v with
    | .number x => if x.isBelow n then [.belowMinimum v n] else []
    | _ => []
  | .minLength n =>
    match v with
    | .string s => if s.length < n then [.tooShort v n] else []
    | _ => []
  | .pattern p =>
    match v with
    | .string s => if p.accepts s.toList then [] else [.noMatch v p]
    | _ => []

namespace Limit

@[simp] theorem violations_minimum (n : Nat) (x : Json.Number) :
    (minimum n).violations (.number x) =
      if x.isBelow n then [.belowMinimum (.number x) n] else [] := rfl

@[simp] theorem violations_minimum_null (n : Nat) : (minimum n).violations .null = [] := rfl

@[simp] theorem violations_minLength (n : Nat) (s : String) :
    (minLength n).violations (.string s) =
      if s.length < n then [.tooShort (.string s) n] else [] := rfl

@[simp] theorem violations_pattern (p : Pattern) (s : String) :
    (Limit.pattern p).violations (.string s) =
      if p.accepts s.toList then [] else [.noMatch (.string s) p] := rfl

end Limit

/-- The names of members that are not declared. -/
def undeclared (properties : List (String × Schema)) (members : List (String × Json)) :
    List String :=
  (members.map Prod.fst).filter fun name => !(properties.map Prod.fst).contains name

mutual

/-- Every violation of a schema in a value. -/
def violations : Schema → Json → List Violation
  | const text, v =>
    match v with
    | .string s => if s = text then [] else [.notConst text]
    | _ => [.notConst text]
  | oneOfTexts texts, v =>
    match v with
    | .string s => if texts.contains s then [] else [.notOneOf v texts]
    | _ => [.notOneOf v texts]
  | typed kinds limits, v =>
    (if kinds.any fun k => k.has v then [] else [.wrongKind v kinds]) ++
      limits.flatMap (Limit.violations v)
  | array minItems items, v =>
    match v with
    | .array vs =>
      (if vs.length < minItems then [.tooFewItems v minItems] else []) ++
        vs.flatMap fun item => violations items item
    | _ => [.wrongKind v [.array]]
  | object required properties, v =>
    match v with
    | .object ms =>
      ((required.filter fun name => (Json.member? name ms).isNone).map .missing) ++
        propertyViolations properties ms ++
        (match undeclared properties ms with
        | [] => []
        | names => [.unexpected names])
    | _ => [.wrongKind v [.object]]
  | oneOf alternatives, v =>
    match countMatches alternatives v with
    | 0 => [.noAlternative v]
    | 1 => []
    | _ => [.severalAlternatives v]

/-- The violations in the members of declared properties that are there. -/
def propertyViolations : List (String × Schema) → List (String × Json) → List Violation
  | [], _ => []
  | (name, s) :: ps, ms =>
    (match Json.member? name ms with
      | some v => violations s v
      | none => []) ++ propertyViolations ps ms

/-- How many of the schemas a value keeps to. -/
def countMatches : List Schema → Json → Nat
  | [], _ => 0
  | s :: ss, v => (if (violations s v).isEmpty then 1 else 0) + countMatches ss v

end

/-! ## The violations of each schema -/

section

variable (v : Json) (vs : List Json) (members : List (String × Json))

theorem violations_const (text : String) :
    (const text).violations v =
      match v with
      | .string s => if s = text then [] else [.notConst text]
      | _ => [.notConst text] := rfl

theorem violations_oneOfTexts (texts : List String) :
    (oneOfTexts texts).violations v =
      match v with
      | .string s => if texts.contains s then [] else [.notOneOf v texts]
      | _ => [.notOneOf v texts] := rfl

theorem violations_typed (kinds : List Kind) (limits : List Limit) :
    (typed kinds limits).violations v =
      (if kinds.any fun k => k.has v then [] else [.wrongKind v kinds]) ++
        limits.flatMap (Limit.violations v) := rfl

theorem violations_array (minItems : Nat) (items : Schema) :
    (array minItems items).violations (.array vs) =
      (if vs.length < minItems then [.tooFewItems (.array vs) minItems] else []) ++
        vs.flatMap items.violations := rfl

theorem violations_object (required : List String) (properties : List (String × Schema)) :
    (object required properties).violations (.object members) =
      ((required.filter fun name => (Json.member? name members).isNone).map .missing) ++
        propertyViolations properties members ++
        (match undeclared properties members with
        | [] => []
        | names => [.unexpected names]) := rfl

theorem propertyViolations_cons (name : String) (s : Schema) (ps : List (String × Schema)) :
    propertyViolations ((name, s) :: ps) members =
      (match Json.member? name members with
        | some v => s.violations v
        | none => []) ++ propertyViolations ps members := rfl

theorem violations_oneOf (alternatives : List Schema) :
    (oneOf alternatives).violations v =
      match countMatches alternatives v with
      | 0 => [.noAlternative v]
      | 1 => []
      | _ => [.severalAlternatives v] := rfl

theorem countMatches_cons (s : Schema) (ss : List Schema) :
    countMatches (s :: ss) v =
      (if (s.violations v).isEmpty then 1 else 0) + countMatches ss v := rfl

end

end Schema

end DependencyWiring
