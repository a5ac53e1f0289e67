/-!
# Moments

A moment is an instant of Unix time together with the offset from UTC in which it is shown. Its
text is the one of RFC 3339. The proleptic Gregorian calendar is computed from the number of days
alone: 400 years have 146097 days, and a year is counted from March so that the leap day is its
last.
-/
namespace DependencyWiring

/-- Seconds since 1970 in UTC, nanoseconds after them, and the offset in seconds. -/
structure Moment where
  seconds : Int
  nanos : Nat
  offset : Int
  deriving DecidableEq, Repr, Inhabited

namespace Moment

structure Date where
  year : Int
  month : Nat
  day : Nat
  deriving DecidableEq, Repr

/-- The date that lies the given number of days after the first of January 1970. -/
def Date.ofDays (days : Int) : Date :=
  let shifted := days + 719468
  let era := shifted / 146097
  let dayOfEra := (shifted % 146097).toNat
  let yearOfEra :=
    (dayOfEra - dayOfEra / 1460 + dayOfEra / 36524 - dayOfEra / 146096) / 365
  let dayOfYear := dayOfEra - (365 * yearOfEra + yearOfEra / 4 - yearOfEra / 100)
  let monthFromMarch := (5 * dayOfYear + 2) / 153
  let day := dayOfYear - (153 * monthFromMarch + 2) / 5 + 1
  let month := if monthFromMarch < 10 then monthFromMarch + 3 else monthFromMarch - 9
  let year := (yearOfEra : Int) + era * 400
  ⟨if month ≤ 2 then year + 1 else year, month, day⟩

/-- A number in decimal with zeros in front up to the given width. -/
def padded (width n : Nat) : String :=
  let digits := Nat.toDigits 10 n
  String.ofList (List.replicate (width - digits.length) '0' ++ digits)

/-- The fraction of a second: nine digits without the zeros at their end, and nothing for zero. -/
def fraction (nanos : Nat) : String :=
  if nanos = 0 then ""
  else
    "." ++ String.ofList ((padded 9 nanos).toList.reverse.dropWhile (· = '0')).reverse

/-- The offset in hours and minutes, or `Z` at UTC itself. -/
def offsetText (offset : Int) : String :=
  if offset = 0 then "Z"
  else
    let minutes := offset.natAbs / 60
    (if offset < 0 then "-" else "+") ++ padded 2 (minutes / 60) ++ ":" ++ padded 2 (minutes % 60)

/-- The text of RFC 3339. The format has no text for a year outside 0 to 9999, for an offset of a
day or more and for an offset with seconds. -/
def rfc3339? (m : Moment) : Option String :=
  let shown := m.seconds + m.offset
  let date := Date.ofDays (shown / 86400)
  let time := (shown % 86400).toNat
  if date.year < 0 ∨ 9999 < date.year ∨ 86400 ≤ m.offset.natAbs ∨ m.offset.natAbs % 60 ≠ 0 then
    none
  else
    some (padded 4 date.year.toNat ++ "-" ++ padded 2 date.month ++ "-" ++ padded 2 date.day ++
      "T" ++ padded 2 (time / 3600) ++ ":" ++ padded 2 (time / 60 % 60) ++ ":" ++
      padded 2 (time % 60) ++ fraction m.nanos ++ offsetText m.offset)

/-- The text of RFC 3339, or nothing when there is none. -/
def text (m : Moment) : String :=
  m.rfc3339?.getD ""

end Moment

end DependencyWiring
