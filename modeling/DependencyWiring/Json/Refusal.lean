/-!
# Why a text is no JSON

A refusal is a cause and the place where it was noticed. The place is what remained unread, with the
number of bytes beyond that point which had been looked at, so that a line and a column can be
counted once the whole text is at hand.
-/
namespace DependencyWiring.Json

inductive Cause where
  | endInValue
  | endInList
  | endInObject
  | endInString
  | expectedValue
  | expectedWord
  | expectedColon
  | expectedCommaOrBrace
  | expectedCommaOrBracket
  | keyNotString
  | trailingComma
  | trailingCharacters
  | invalidNumber
  | numberOutOfRange
  | invalidEscape
  | unpairedEscape
  | loneSurrogate
  | controlCharacter
  | tooDeep
  deriving DecidableEq, Repr, Inhabited

def Cause.message : Cause → String
  | endInValue => "EOF while parsing a value"
  | endInList => "EOF while parsing a list"
  | endInObject => "EOF while parsing an object"
  | endInString => "EOF while parsing a string"
  | expectedValue => "expected value"
  | expectedWord => "expected ident"
  | expectedColon => "expected `:`"
  | expectedCommaOrBrace => "expected `,` or `\x7d`"
  | expectedCommaOrBracket => "expected `,` or `]`"
  | keyNotString => "key must be a string"
  | trailingComma => "trailing comma"
  | trailingCharacters => "trailing characters"
  | invalidNumber => "invalid number"
  | numberOutOfRange => "number out of range"
  | invalidEscape => "invalid escape"
  | unpairedEscape => "unexpected end of hex escape"
  | loneSurrogate => "lone leading surrogate in hex escape"
  | controlCharacter => "control character (\\u0000-\\u001F) found while parsing a string"
  | tooDeep => "recursion limit exceeded"

structure Refusal where
  cause : Cause
  unread : List Char
  ahead : Nat
  deriving DecidableEq, Repr, Inhabited

namespace Refusal

/-- Noticed after everything before the unread text was taken. -/
def after (cause : Cause) (unread : List Char) : Refusal :=
  ⟨cause, unread, 0⟩

/-- Noticed by looking at the next byte. -/
def ahead1 (cause : Cause) (unread : List Char) : Refusal :=
  ⟨cause, unread, 1⟩

end Refusal

/-- The length of a text in UTF-8. -/
def byteLength (cs : List Char) : Nat :=
  (cs.map Char.utf8Size).foldr (· + ·) 0

/-- The line and the column of a byte offset, counted on from those of the start of the text.
Columns are bytes. -/
def locate : List Char → Nat → Nat → Nat → Nat × Nat
  | [], _, line, column => (line, column)
  | c :: cs, offset, line, column =>
    if offset < c.utf8Size then (line, column + offset)
    else if c = '\n' then locate cs (offset - c.utf8Size) (line + 1) 0
    else locate cs (offset - c.utf8Size) line (column + c.utf8Size)

namespace Refusal

/-- How many bytes of the text had been taken or looked at. -/
def offset (text : List Char) (r : Refusal) : Nat :=
  byteLength text - byteLength r.unread + min r.ahead (byteLength r.unread)

/-- The cause with its line, counted from one, and its column. -/
def message (text : List Char) (r : Refusal) : String :=
  let (line, column) := locate text (r.offset text) 1 0
  s!"{r.cause.message} at line {line} column {column}"

end Refusal

end DependencyWiring.Json
