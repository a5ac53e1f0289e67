import DependencyWiring.Json
import DependencyWiring.Json.Refusal

/-!
# Reading JSON

One value with blanks around it, and nothing else. A repeated member of an object keeps the last
value. Reading goes over the list of characters. The number of characters bounds the number of
steps, and arrays and objects may be nested 127 deep.
-/
namespace DependencyWiring.Json

def isSpace (c : Char) : Bool :=
  c = ' ' || c = '\n' || c = '\t' || c = '\r'

def skipSpace (cs : List Char) : List Char :=
  cs.dropWhile isSpace

/-! ## Numbers -/

def digitValue (c : Char) : Nat :=
  c.toNat - 48

/-- The greatest significand that is kept exactly: the greatest number of 64 bits. -/
def maxSignificand : Nat := Nat.pow 2 64 - 1

/-- Digits taken into a number until one would make it too large, with their count. -/
def takeDigits (limit : Nat) : Nat → List Char → Nat × Nat × List Char
  | n, [] => (n, 0, [])
  | n, c :: cs =>
    if c.isDigit ∧ n * 10 + digitValue c ≤ limit then
      let (value, count, rest) := takeDigits limit (n * 10 + digitValue c) cs
      (value, count + 1, rest)
    else (n, 0, c :: cs)

def startsWithDigit : List Char → Bool
  | c :: _ => c.isDigit
  | [] => false

def signed (negative : Bool) (x : Binary64) : Binary64 :=
  if negative then x.neg else x

/-- A double from its parts; `rest` is what follows the number. -/
def decimalNumber (negative : Bool) (significand : Nat) (exponent : Int) (rest : List Char) :
    Except Refusal (Number × List Char) :=
  match Binary64.ofDecimal significand exponent with
  | some x => .ok (.binary (signed negative x), rest)
  | none => .error (.after .numberOutOfRange rest)

/-- The greatest exponent that is read; with more digits the number is out of range or zero. -/
def maxExponentValue : Nat := Nat.pow 2 31 - 1

/-- Reads the exponent behind its letter. -/
def readExponent (negative : Bool) (significand : Nat) (exponent : Int) (cs : List Char) :
    Except Refusal (Number × List Char) :=
  let (below, digits) :=
    match cs with
    | '+' :: r => (false, r)
    | '-' :: r => (true, r)
    | r => (false, r)
  match digits with
  | [] => .error (.after .endInValue [])
  | c :: r =>
    if c.isDigit then
      let (e, _, rest) := takeDigits maxExponentValue (digitValue c) r
      if startsWithDigit rest then
        if significand ≠ 0 ∧ ¬ below then .error (.after .numberOutOfRange (rest.drop 1))
        else .ok (.binary (signed negative .zero), rest.dropWhile Char.isDigit)
      else
        decimalNumber negative significand (if below then exponent - e else exponent + e) rest
    else .error (.ahead1 .invalidNumber (c :: r))

/-- Reads an exponent if there is one. -/
def readTail (negative : Bool) (significand : Nat) (exponent : Int) (cs : List Char) :
    Except Refusal (Number × List Char) :=
  match cs with
  | 'e' :: r => readExponent negative significand exponent r
  | 'E' :: r => readExponent negative significand exponent r
  | r => decimalNumber negative significand exponent r

/-- Reads the digits behind the point. Digits that no longer fit are passed over. -/
def readFraction (negative : Bool) (significand : Nat) (exponent : Int) (cs : List Char) :
    Except Refusal (Number × List Char) :=
  let (s, count, rest) := takeDigits maxSignificand significand cs
  if startsWithDigit rest then
    readTail negative s (exponent - count) (rest.dropWhile Char.isDigit)
  else if count = 0 then
    match rest with
    | [] => .error (.ahead1 .endInValue [])
    | _ => .error (.ahead1 .invalidNumber rest)
  else readTail negative s (exponent - count) rest

/-- An integer of 64 bits, signed if it is negative, keeps its digits. Zero with a sign does not. -/
def integerNumber (negative : Bool) (n : Nat) (rest : List Char) :
    Except Refusal (Number × List Char) :=
  if ¬ negative then .ok (.integer n, rest)
  else if 1 ≤ n ∧ n ≤ Nat.pow 2 63 then .ok (.integer (-(n : Int)), rest)
  else decimalNumber true n 0 rest

/-- Reads what follows the whole digits that were kept. -/
def readWhole (negative : Bool) (n : Nat) (cs : List Char) : Except Refusal (Number × List Char) :=
  match cs with
  | '.' :: r => readFraction negative n 0 r
  | 'e' :: r => readExponent negative n 0 r
  | 'E' :: r => readExponent negative n 0 r
  | r => integerNumber negative n r

/-- Reads a number behind its sign. -/
def readNumber (negative : Bool) (cs : List Char) : Except Refusal (Number × List Char) :=
  match cs with
  | [] => .error (.after .endInValue [])
  | '0' :: r =>
    if startsWithDigit r then .error (.ahead1 .invalidNumber r) else readWhole negative 0 r
  | c :: r =>
    if c.isDigit then
      let (n, _, rest) := takeDigits maxSignificand (digitValue c) r
      if startsWithDigit rest then
        let dropped := rest.takeWhile Char.isDigit
        match rest.dropWhile Char.isDigit with
        | '.' :: r => readFraction negative n dropped.length r
        | r => readTail negative n dropped.length r
      else readWhole negative n rest
    else .error (.ahead1 .invalidNumber (c :: r))

/-! ## Strings -/

def hexValue? (c : Char) : Option Nat :=
  if c.isDigit then some (c.toNat - 48)
  else if 'a' ≤ c ∧ c ≤ 'f' then some (c.toNat - 87)
  else if 'A' ≤ c ∧ c ≤ 'F' then some (c.toNat - 55)
  else none

/-- The value of four hexadecimal digits. -/
def hexQuad? (cs : List Char) : Option (Nat × List Char) :=
  match cs with
  | a :: b :: c :: d :: r => do
    let a ← hexValue? a
    let b ← hexValue? b
    let c ← hexValue? c
    let d ← hexValue? d
    return (((a * 16 + b) * 16 + c) * 16 + d, r)
  | _ => none

def readHexQuad (cs : List Char) : Except Refusal (Nat × List Char) :=
  match hexQuad? cs with
  | some q => .ok q
  | none =>
    if byteLength cs < 4 then .error (.after .endInString [])
    else .error ⟨.invalidEscape, cs, 4⟩

def isHighSurrogate (n : Nat) : Bool := 0xD800 ≤ n && n ≤ 0xDBFF

def isLowSurrogate (n : Nat) : Bool := 0xDC00 ≤ n && n ≤ 0xDFFF

/-- Takes one expected character of a surrogate pair. -/
def readPairMark (mark : Char) (cs : List Char) : Except Refusal (List Char) :=
  match cs with
  | [] => .error (.after .endInString [])
  | c :: r => if c = mark then .ok r else .error (.ahead1 .unpairedEscape (c :: r))

/-- Reads a character escaped by its code. Two escapes that form a surrogate pair are one
character, and half a pair is none. -/
def readCodeEscape (cs : List Char) : Except Refusal (Char × List Char) := do
  let (n, r) ← readHexQuad cs
  if isLowSurrogate n then .error (.after .loneSurrogate r)
  else if isHighSurrogate n then
    let r ← readPairMark '\\' r
    let r ← readPairMark 'u' r
    let (m, r) ← readHexQuad r
    if isLowSurrogate m then
      return (Char.ofNat ((n - 0xD800) * 0x400 + (m - 0xDC00) + 0x10000), r)
    else .error (.after .loneSurrogate r)
  else return (Char.ofNat n, r)

/-- Reads an escape behind its backslash. -/
def readEscape (cs : List Char) : Except Refusal (Char × List Char) :=
  match cs with
  | [] => .error (.after .endInString [])
  | c :: r =>
    if c = '"' ∨ c = '\\' ∨ c = '/' then .ok (c, r)
    else if c = 'b' then .ok (Char.ofNat 8, r)
    else if c = 'f' then .ok (Char.ofNat 12, r)
    else if c = 'n' then .ok ('\n', r)
    else if c = 'r' then .ok ('\r', r)
    else if c = 't' then .ok ('\t', r)
    else if c = 'u' then readCodeEscape r
    else .error (.ahead1 .invalidEscape (c :: r))

/-- Reads a string behind its opening quote. -/
def readString : Nat → List Char → Except Refusal (List Char × List Char)
  | 0, _ => .error (.after .endInString [])
  | steps + 1, cs =>
    match cs with
    | [] => .error (.after .endInString [])
    | c :: r =>
      if c = '"' then .ok ([], r)
      else if c = '\\' then do
        let (x, r) ← readEscape r
        let (xs, r) ← readString steps r
        return (x :: xs, r)
      else if c.toNat < 32 then .error (.ahead1 .controlCharacter (c :: r))
      else do
        let (xs, r) ← readString steps r
        return (c :: xs, r)

/-! ## Values -/

/-- Reads the rest of a word whose first letter is taken. -/
def readWord (value : Json) : List Char → List Char → Except Refusal (Json × List Char)
  | [], cs => .ok (value, cs)
  | _, [] => .error (.after .endInValue [])
  | w :: ws, c :: cs =>
    if c = w then readWord value ws cs else .error (.ahead1 .expectedWord (c :: cs))

/-- Takes the colon between a name and its value. -/
def readColon (cs : List Char) : Except Refusal (List Char) :=
  match skipSpace cs with
  | [] => .error (.ahead1 .endInObject [])
  | c :: r => if c = ':' then .ok r else .error (.ahead1 .expectedColon (c :: r))

mutual

/-- Reads a value that may hold the given number of nested levels. -/
def readValue (steps depth : Nat) (cs : List Char) : Except Refusal (Json × List Char) :=
  match steps with
  | 0 => .error (.after .endInValue [])
  | steps + 1 =>
    match skipSpace cs with
    | [] => .error (.ahead1 .endInValue [])
    | c :: r =>
      if c = 'n' then readWord .null ['u', 'l', 'l'] r
      else if c = 't' then readWord (.bool true) ['r', 'u', 'e'] r
      else if c = 'f' then readWord (.bool false) ['a', 'l', 's', 'e'] r
      else if c = '-' then (readNumber true r).map fun (n, r) => (.number n, r)
      else if c.isDigit then (readNumber false (c :: r)).map fun (n, r) => (.number n, r)
      else if c = '"' then
        (readString steps r).map fun (s, r) => (.string (String.ofList s), r)
      else if c = '[' then
        match depth with
        | 0 => .error (.ahead1 .tooDeep (c :: r))
        | depth + 1 => (readItems steps depth true r).map fun (vs, r) => (.array vs, r)
      else if c = '\x7b' then
        match depth with
        | 0 => .error (.ahead1 .tooDeep (c :: r))
        | depth + 1 => (readMembers steps depth true [] r).map fun (ms, r) => (.object ms, r)
      else .error (.ahead1 .expectedValue (c :: r))

/-- Reads the items of an array up to its bracket. -/
def readItems (steps depth : Nat) (first : Bool) (cs : List Char) :
    Except Refusal (List Json × List Char) :=
  match steps with
  | 0 => .error (.after .endInList [])
  | steps + 1 =>
    match skipSpace cs with
    | [] => .error (.ahead1 .endInList [])
    | c :: r =>
      if c = ']' then .ok ([], r)
      else do
        let start ←
          if first then .ok (c :: r)
          else if c = ',' then
            match skipSpace r with
            | [] => .error (.ahead1 .endInValue [])
            | d :: t => if d = ']' then .error (.ahead1 .trailingComma (d :: t)) else .ok (d :: t)
          else .error (.ahead1 .expectedCommaOrBracket (c :: r))
        let (v, r) ← readValue steps depth start
        let (vs, r) ← readItems steps depth false r
        return (v :: vs, r)

/-- Reads the members of an object up to its brace. -/
def readMembers (steps depth : Nat) (first : Bool) (read : List (String × Json))
    (cs : List Char) : Except Refusal (List (String × Json) × List Char) :=
  match steps with
  | 0 => .error (.after .endInObject [])
  | steps + 1 =>
    match skipSpace cs with
    | [] => .error (.ahead1 .endInObject [])
    | c :: r =>
      if c = '\x7d' then .ok (read, r)
      else do
        let start ←
          if first then
            if c = '"' then .ok r else .error (.ahead1 .keyNotString (c :: r))
          else if c = ',' then
            match skipSpace r with
            | [] => .error (.ahead1 .endInValue [])
            | d :: t =>
              if d = '"' then .ok t
              else if d = '\x7d' then .error (.ahead1 .trailingComma (d :: t))
              else .error (.ahead1 .keyNotString (d :: t))
          else .error (.ahead1 .expectedCommaOrBrace (c :: r))
        let (name, r) ← readString steps start
        let r ← readColon r
        let (v, r) ← readValue steps depth r
        readMembers steps depth false (insertMember (String.ofList name) v read) r

end

/-- The nesting that is still read. -/
def maxDepth : Nat := 127

/-- Reads a text that holds one value. -/
def read (cs : List Char) : Except Refusal Json :=
  match readValue (2 * cs.length + 2) maxDepth cs with
  | .error e => .error e
  | .ok (v, r) =>
    match skipSpace r with
    | [] => .ok v
    | rest => .error (.ahead1 .trailingCharacters rest)

/-- Reads a text that holds one value, or says where and why it does not. -/
def parse (s : String) : Except String Json :=
  (read s.toList).mapError (Refusal.message s.toList)

end DependencyWiring.Json
