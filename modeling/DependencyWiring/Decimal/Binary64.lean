/-!
# Finite binary floating-point numbers of 64 bits

A finite double is a sign, a significand below 2^53 and an exponent from -1074 to 971. Rounding a
quotient of natural numbers to the nearest double, ties to the even significand, is exact
arithmetic on natural numbers, and multiplication and division are the exact result, rounded.
-/
namespace DependencyWiring

/-- The number `significand * 2 ^ exponent`, negated if so marked. -/
structure Binary64 where
  negative : Bool
  significand : Nat
  exponent : Int
  deriving DecidableEq, Repr, Inhabited

namespace Binary64

def minExponent : Int := -1074

def maxExponent : Int := 971

def zero : Binary64 := ⟨false, 0, minExponent⟩

def isZero (x : Binary64) : Bool :=
  x.significand = 0

def neg (x : Binary64) : Binary64 :=
  { x with negative := !x.negative }

/-- The quotient of two numbers, rounded to the nearest; a half goes to the even neighbour. -/
def roundDiv (num den : Nat) : Nat :=
  let q := num / den
  let r := num % den
  if 2 * r < den then q
  else if den < 2 * r then q + 1
  else if q % 2 = 0 then q else q + 1

/-- The quotient of `num` by `den * 2 ^ e`, as a numerator and a denominator. -/
def scaled (num den : Nat) (e : Int) : Nat × Nat :=
  if 0 ≤ e then (num, den * Nat.pow 2 e.toNat) else (num * Nat.pow 2 (-e).toNat, den)

/-- The exponent at which the quotient has a significand of 53 bits, or the least exponent. -/
def exponentOf (num den : Nat) : Int :=
  let e := (Nat.log2 num : Int) - Nat.log2 den - 53
  let q := scaled num den e
  max minExponent (if Nat.pow 2 53 ≤ q.1 / q.2 then e + 1 else e)

/-- The double nearest to a quotient, or nothing when the quotient is beyond all doubles. -/
def ofQuotient (num den : Nat) : Option Binary64 :=
  if num = 0 then some zero
  else
    let e := exponentOf num den
    let q := scaled num den e
    let s := roundDiv q.1 q.2
    let x : Binary64 :=
      if s = Nat.pow 2 53 then ⟨false, Nat.pow 2 52, e + 1⟩ else ⟨false, s, e⟩
    if maxExponent < x.exponent then none else some x

/-- The size of a double as a quotient. -/
def quotient (x : Binary64) : Nat × Nat :=
  if 0 ≤ x.exponent then (x.significand * Nat.pow 2 x.exponent.toNat, 1)
  else (x.significand, Nat.pow 2 (-x.exponent).toNat)

/-- The double nearest to a natural number times a power of ten, in the order of operations of a
reader that multiplies or divides once: first the number is rounded, then the power, then the
product or the quotient of the two. -/
def mulPow10 (x : Binary64) (k : Nat) : Option Binary64 := do
  let p ← ofQuotient (Nat.pow 10 k) 1
  ofQuotient (x.quotient.1 * p.quotient.1) (x.quotient.2 * p.quotient.2)

def divPow10 (x : Binary64) (k : Nat) : Option Binary64 := do
  let p ← ofQuotient (Nat.pow 10 k) 1
  ofQuotient (x.quotient.1 * p.quotient.2) (x.quotient.2 * p.quotient.1)

/-- The greatest power of ten among the doubles. -/
def maxPow10 : Nat := 308

/-- Divides by a power of ten that need not be a double itself. Two steps by 10^308 bring every
number below 2^64 to zero, so the number of steps is bounded. -/
def scaleDown : Nat → Binary64 → Nat → Option Binary64
  | 0, x, _ => some { x with significand := 0, exponent := minExponent }
  | steps + 1, x, k =>
    if k ≤ maxPow10 then divPow10 x k
    else if x.isZero then some x
    else do
      let y ← divPow10 x maxPow10
      scaleDown steps y (k - maxPow10)

/-- The double read from a decimal significand and an exponent of ten, or nothing when it is too
large. -/
def ofDecimal (significand : Nat) (exponent : Int) : Option Binary64 := do
  let x ← ofQuotient significand 1
  if 0 ≤ exponent then
    if exponent ≤ maxPow10 then mulPow10 x exponent.toNat
    else if x.isZero then some x else none
  else scaleDown 4 x (-exponent).toNat

end Binary64

end DependencyWiring
