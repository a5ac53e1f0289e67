import DependencyWiring.Decimal.Shortest

/-!
# JSON values

A JSON value keeps an integer exactly and any other number as the double nearest to it. The members
of an object are sorted by name and no name occurs twice.
-/
namespace DependencyWiring

namespace Json

/-- Integers keep their digits; all other numbers are doubles. -/
inductive Number where
  | integer (n : Int)
  | binary (x : Binary64)
  deriving DecidableEq, Repr, Inhabited

namespace Number

/-- How a double is written: the exponents of the leading digit that are written without an
exponent, from the first up to but not including the second. -/
structure Layout where
  firstPositional : Int
  firstScientific : Int
  deriving DecidableEq, Repr

/-- Doubles from 10^-5 up to 10^16 are written without an exponent. -/
def layout : Layout := ⟨-5, 16⟩

/-- A decimal without an exponent, with at least one digit on either side of the point. -/
def positional (digits : List Char) (leading : Int) : List Char :=
  if leading < 0 then
    '0' :: '.' :: (List.replicate (-leading - 1).toNat '0' ++ digits)
  else
    let whole := leading.toNat + 1
    let front := digits.take whole ++ List.replicate (whole - digits.length) '0'
    let back := digits.drop whole
    front ++ '.' :: (if back = [] then ['0'] else back)

/-- One digit, the further digits behind a point, and the exponent with its sign. -/
def scientific (digits : List Char) (leading : Int) : List Char :=
  let back := digits.drop 1
  digits.take 1 ++ (if back = [] then [] else '.' :: back) ++
    'e' :: (if leading < 0 then '-' else '+') :: Nat.toDigits 10 leading.natAbs

/-- The text of the size of a double. -/
def sizeText (x : Binary64) : List Char :=
  if x.isZero then ['0', '.', '0']
  else
    let d := x.shortest
    let digits := Nat.toDigits 10 d.digits
    let leading := d.exponent + (digits.length : Int) - 1
    if layout.firstPositional ≤ leading ∧ leading < layout.firstScientific then
      positional digits leading
    else scientific digits leading

def text : Number → String
  | integer n => toString n
  | binary x => String.ofList ((if x.negative then ['-'] else []) ++ sizeText x)

/-- A double without a fraction counts as an integer. -/
def isInteger : Number → Bool
  | integer _ => true
  | binary x => x.quotient.1 % x.quotient.2 = 0

def isNegative : Number → Bool
  | integer n => n < 0
  | binary x => x.negative && !x.isZero

/-- Whether a number is less than a natural number. -/
def isBelow (x : Number) (n : Nat) : Bool :=
  match x with
  | integer k => k < n
  | binary b => x.isNegative || b.quotient.1 < n * b.quotient.2

end Number

end Json

inductive Json where
  | null
  | bool (b : Bool)
  | number (n : Json.Number)
  | string (s : String)
  | array (items : List Json)
  | object (members : List (String × Json))
  deriving Repr, Inhabited

namespace Json

def nat (n : Nat) : Json :=
  number (.integer n)

/-- Puts a member in its place; a member of the same name is replaced. -/
def insertMember (name : String) (value : Json) : List (String × Json) → List (String × Json)
  | [] => [(name, value)]
  | (k, v) :: ms =>
    if name < k then (name, value) :: (k, v) :: ms
    else if name = k then (name, value) :: ms
    else (k, v) :: insertMember name value ms

/-- The first member of a name. -/
def member? (name : String) : List (String × Json) → Option Json
  | [] => none
  | (k, v) :: ms => if k = name then some v else member? name ms

end Json

end DependencyWiring
