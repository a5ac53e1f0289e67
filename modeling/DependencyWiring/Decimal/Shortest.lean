import DependencyWiring.Decimal.Binary64

/-!
# The shortest decimal that reads back

Among the decimals that round to a given double, the one with the fewest digits is chosen, and of
those the one nearest to the double. The search looks, for one digit, two digits and so on, at the
two neighbours of the double on the grid of decimals with that many digits. If any point of a grid
rounds to the double then one of these two does.
-/
namespace DependencyWiring.Binary64

/-- The decimal number `digits * 10 ^ exponent`. -/
structure Decimal where
  digits : Nat
  exponent : Int
  deriving DecidableEq, Repr, Inhabited

namespace Decimal

def quotient (d : Decimal) : Nat × Nat :=
  if 0 ≤ d.exponent then (d.digits * Nat.pow 10 d.exponent.toNat, 1)
  else (d.digits, Nat.pow 10 (-d.exponent).toNat)

/-- Takes zeros off the end of the digits; the bound is the number of digits. -/
def stripZeros : Nat → Decimal → Decimal
  | 0, d => d
  | bound + 1, d =>
    if d.digits ≠ 0 ∧ d.digits % 10 = 0 then stripZeros bound ⟨d.digits / 10, d.exponent + 1⟩
    else d

end Decimal

/-- Four times the size of the double, and of the two ends of the interval that rounds to it, all in
units of the exponent. Below a power of two the gap is half as wide. -/
def interval (x : Binary64) : Nat × Nat :=
  let m := 4 * x.significand
  if x.significand = Nat.pow 2 52 ∧ minExponent < x.exponent then (m - 1, m + 2)
  else (m - 2, m + 2)

/-- The size of `n` quarters of the unit of the double. -/
def quarters (x : Binary64) (n : Nat) : Nat × Nat :=
  quotient ⟨false, n, x.exponent - 2⟩

/-- Whether a decimal rounds to the double. The ends count when the significand is even. -/
def roundsTo (x : Binary64) (d : Decimal) : Bool :=
  let (low, high) := x.interval
  let (ln, ld) := x.quarters low
  let (hn, hd) := x.quarters high
  let (n, den) := d.quotient
  if x.significand % 2 = 0 then ln * den ≤ n * ld && n * hd ≤ hn * den
  else ln * den < n * ld && n * hd < hn * den

/-- The least power of ten that a quotient below one must be multiplied by to reach one. -/
def leadingZeros : Nat → Nat → Nat → Nat
  | 0, _, _ => 0
  | bound + 1, num, den => if den ≤ num then 0 else leadingZeros bound (num * 10) den + 1

/-- The exponent of the leading decimal digit. -/
def leadingExponent (x : Binary64) : Int :=
  let (num, den) := x.quotient
  if den ≤ num then ((Nat.toDigits 10 (num / den)).length : Int) - 1
  else -(leadingZeros 400 num den : Int)

/-- The neighbour below on the grid of decimals with the given exponent. -/
def below (x : Binary64) (exponent : Int) : Decimal :=
  let (num, den) := x.quotient
  if 0 ≤ exponent then ⟨num / (den * Nat.pow 10 exponent.toNat), exponent⟩
  else ⟨num * Nat.pow 10 (-exponent).toNat / den, exponent⟩

/-- Whether the neighbour below is nearer than the one above it; a tie goes to the even digits. -/
def belowIsNearer (x : Binary64) (d : Decimal) : Bool :=
  let (num, den) := x.quotient
  let (dn, dd) := Decimal.quotient ⟨2 * d.digits + 1, d.exponent⟩
  let middle := dn * den
  let value := 2 * num * dd
  value < middle || (value = middle && d.digits % 2 = 0)

/-- The neighbour on a grid that rounds to the double, the nearer one if both do. -/
def onGrid? (x : Binary64) (exponent : Int) : Option Decimal :=
  let low := x.below exponent
  let high : Decimal := ⟨low.digits + 1, exponent⟩
  match x.roundsTo low, x.roundsTo high with
  | true, true => some (if x.belowIsNearer low then low else high)
  | true, false => some low
  | false, true => some high
  | false, false => none

/-- Looks at the grids one after another, from the given exponent downwards. -/
def shortestFrom (x : Binary64) : Nat → Int → Decimal
  | 0, exponent => x.below exponent
  | grids + 1, exponent =>
    match x.onGrid? exponent with
    | some d => d
    | none => shortestFrom x grids (exponent - 1)

/-- The decimal with the fewest digits that rounds to a double other than zero. Seventeen digits
always suffice. -/
def shortest (x : Binary64) : Decimal :=
  (shortestFrom x 17 x.leadingExponent).stripZeros 20

end DependencyWiring.Binary64
