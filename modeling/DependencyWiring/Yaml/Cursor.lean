import DependencyWiring.Yaml.Character
import DependencyWiring.Yaml.Refusal

/-!
# Moving over a text

A cursor is the unread text with the place where it starts, and with the knowledge whether nothing
but blanks stands before that place on its line. It also knows how many characters are left, which
bounds the steps of every loop over the rest, and how many of them have been looked at, which
decides how the columns of a block scalar are counted.
-/
namespace DependencyWiring.Yaml

structure Cursor where
  rest : List Char
  mark : Mark
  fresh : Bool
  left : Nat
  window : Nat
  deriving Repr, Inhabited

namespace Cursor

def start (cs : List Char) : Cursor :=
  ⟨cs, ⟨0, 0, 0⟩, true, cs.length, 0⟩

/-- The next character. -/
def char (c : Cursor) : Char :=
  c.rest.headD endMark

/-- The character that many places behind the next one. -/
def ahead (c : Cursor) (n : Nat) : Char :=
  c.rest.getD n endMark

/-- Looks at the next characters, at least that many. -/
def look (c : Cursor) (n : Nat) : Cursor :=
  { c with window := max c.window n }

/-- Passes over characters of one line of which none ends the indentation. -/
def advance (c : Cursor) (n : Nat) : Cursor :=
  { c with
    rest := c.rest.drop n
    mark := ⟨c.mark.index + n, c.mark.line, c.mark.column + n⟩
    left := c.left - n
    window := c.window - n }

/-- Passes over content of one line. -/
def take (c : Cursor) (n : Nat) : Cursor :=
  { c.advance n with fresh := c.fresh && n = 0 }

/-- Passes over a line break; a carriage return and a line feed together are one. -/
def takeBreak (c : Cursor) : Cursor :=
  let n := if c.char = '\r' && c.ahead 1 = '\n' then 2 else 1
  if isBreak c.char then
    let next := (c.look 2).advance n
    { next with mark := ⟨next.mark.index, c.mark.line + 1, 0⟩, fresh := true }
  else c

/-- Passes over a comment up to the end of its line. -/
def takeComment (c : Cursor) : Cursor :=
  c.take (c.rest.takeWhile fun x => !isBreakOrEnd x).length

/-- Passes over the rest of a line of a block scalar. The characters that have been looked at count
one each, those behind them as many as they have bytes. The end of the line is looked at. -/
def takeContentLine (c : Cursor) : List Char × Cursor :=
  let line := c.rest.takeWhile fun x => !isBreakOrEnd x
  let width := min line.length c.window + ((line.drop c.window).map Char.utf8Size).foldr (· + ·) 0
  let mark : Mark := ⟨c.mark.index + width, c.mark.line, c.mark.column + width⟩
  (line, { (c.advance line.length).look 1 with mark := mark })

/-- Whether three equal marks and a separator follow. -/
def startsWithMarks (c : Cursor) (mark : Char) : Bool :=
  c.char = mark && c.ahead 1 = mark && c.ahead 2 = mark && isSeparator (c.ahead 3)

/-- Whether the line starts with the mark of the start or of the end of a document. -/
def atDocumentMark (c : Cursor) : Bool :=
  c.mark.column = 0 && (c.startsWithMarks '-' || c.startsWithMarks '.')

/-- The kinds of blanks that were passed over. -/
structure Blanks where
  tab : Bool
  space : Bool
  deriving DecidableEq, Repr, Inhabited

/-- Passes over the blanks before the next token of the line, and over a comment behind them. -/
def takeBlanks (c : Cursor) (tabs : Bool) : Except Refusal (Cursor × Blanks) :=
  let blanks := c.rest.takeWhile fun x => x = ' ' || (tabs && x = '\t')
  let next := c.advance blanks.length
  let kinds : Blanks := ⟨blanks.contains '\t', blanks.contains ' '⟩
  if next.char = '#' then
    if blanks = [] then .error ⟨.commentNotSeparated, next.mark⟩ else .ok (next.takeComment, kinds)
  else .ok (next, kinds)

/-- The bound on the steps of a loop that passes over at least one character in each. -/
def bound (c : Cursor) : Nat :=
  c.left + 1

end Cursor

end DependencyWiring.Yaml
