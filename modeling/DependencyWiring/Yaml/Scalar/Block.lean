import DependencyWiring.Yaml.Scalar.Folding

/-!
# Block scalars

A block scalar is a header and the lines below it that are indented. A literal scalar keeps its line
breaks and a folded one folds those between lines that start without a blank. The header says what
becomes of the breaks at the end, and may give the indentation.
-/
namespace DependencyWiring.Yaml.Block

inductive Style where
  | literal
  | folded
  deriving DecidableEq, Repr, Inhabited

/-- What becomes of the line breaks at the end of a block scalar. -/
inductive Chomping where
  | strip
  | clip
  | keep
  deriving DecidableEq, Repr, Inhabited

def chomping? (c : Char) : Option Chomping :=
  if c = '+' then some .keep else if c = '-' then some .strip else none

/-- The header: the chomping, and by how much the lines are indented, zero if it does not say. -/
structure Header where
  chomping : Chomping
  increment : Nat
  deriving DecidableEq, Repr, Inhabited

/-- Reads the digit of the indentation if there is one. -/
def readIncrement (start : Mark) (c : Cursor) : Except Refusal (Nat × Cursor) :=
  if c.char.isDigit then
    if c.char = '0' then .error ⟨.blockIndentationZero, start⟩
    else .ok (c.char.toNat - 48, c.take 1)
  else .ok (0, c)

/-- Reads the two marks behind the style, in either order. -/
def readHeader (start : Mark) (c : Cursor) : Except Refusal (Header × Cursor) :=
  match chomping? c.char with
  | some chomping => do
    let (n, c) ← readIncrement start (c.take 1)
    return (⟨chomping, n⟩, c)
  | none => do
    let (n, c) ← readIncrement start c
    match if n = 0 then none else chomping? c.char with
    | some chomping => return (⟨chomping, n⟩, c.take 1)
    | none => return (⟨.clip, n⟩, c)

/-- How many characters are looked at where a line starts. -/
def lineWindow : Nat := 16

/-- Passes over spaces up to a column, looking at more of the line when it has to. -/
def takeIndentation (indent : Nat) : Nat → Cursor → Cursor
  | 0, c => c
  | steps + 1, c =>
    let c := c.look lineWindow
    let spaces := (c.rest.take (min c.window (indent - c.mark.column))).takeWhile (· = ' ')
    let next := c.advance spaces.length
    if next.window = 0 && next.mark.column < indent then takeIndentation indent steps next
    else next.look 2

/-- Passes over the indentation of the next line with content, and counts the breaks of the empty
lines before it. -/
def takeEmptyLines (indent : Nat) : Nat → Nat → Cursor → Nat × Cursor
  | 0, n, c => (n, c)
  | steps + 1, n, c =>
    let c := takeIndentation indent c.bound c
    if isBreak c.char then takeEmptyLines indent steps (n + 1) c.takeBreak else (n, c)

/-- The same before the indentation is known. It also gives the longest indentation met. -/
def takeFirstLines : Nat → Nat → Nat → Cursor → Nat × Nat × Cursor
  | 0, n, widest, c => (n, widest, c)
  | steps + 1, n, widest, c =>
    let c := (c.advance (c.rest.takeWhile (· = ' ')).length).look 1
    let widest := max widest c.mark.column
    if isBreak c.char then takeFirstLines steps (n + 1) widest c.takeBreak else (n, widest, c)

/-- What was read of a scalar: the text backwards, whether the last line has a break, how many empty
lines followed, and whether the last line starts with a blank. -/
structure Progress where
  text : List Char
  broken : Bool
  empties : Nat
  blankStart : Bool
  cursor : Cursor
  deriving Repr, Inhabited

/-- The text between two lines. -/
def between (style : Style) (p : Progress) : List Char :=
  if style = .folded && p.broken && !p.blankStart && !isBlank p.cursor.char then
    if p.empties = 0 then [' '] else Gap.newlines p.empties
  else (if p.broken then ['\n'] else []) ++ Gap.newlines p.empties

/-- Takes the lines that have the indentation. -/
def takeLines (style : Style) (indent : Nat) : Nat → Progress → Progress
  | 0, p => p
  | steps + 1, p =>
    let c := if indent = 0 then p.cursor.look 4 else p.cursor
    if c.mark.column ≠ indent || isEnd c.char then p
    else if indent = 0 && c.startsWithMarks '.' then p
    else
      let (line, next) := c.takeContentLine
      let text := line.reverse ++ ((between style p).reverse ++ p.text)
      if isEnd next.char then ⟨text, false, 0, isBlank c.char, next⟩
      else
        let (n, next) := takeEmptyLines indent next.bound 0 next.takeBreak
        takeLines style indent steps ⟨text, true, n, isBlank c.char, next⟩

/-- The breaks at the end of the scalar. A last line without a break gets one. -/
def tail (chomping : Chomping) (indent : Nat) (p : Progress) : List Char :=
  match chomping with
  | .strip => []
  | .clip => ending
  | .keep => ending ++ Gap.newlines p.empties
where
  ending : List Char :=
    (if p.broken then ['\n'] else []) ++
      (if isEnd p.cursor.char && max indent 1 ≤ p.cursor.mark.column then ['\n'] else [])

/-- The text of a scalar without content at the end of the document. -/
def emptyText (chomping : Chomping) (sameLine : Bool) (headerBroken : Bool) (empties : Nat) :
    List Char :=
  let headerBreak := if headerBroken then ['\n'] else []
  match chomping with
  | .strip => []
  | .clip => if sameLine then [] else headerBreak
  | .keep =>
    if sameLine then [] else if empties = 0 then headerBreak else Gap.newlines empties

/-- Reads a block scalar inside a block indented to the given column. The mark is that of the first
content, or that of the header when there is none. -/
def read (style : Style) (indent : Int) (c : Cursor) :
    Except Refusal (String × Mark × Cursor) := do
  let start := c.mark
  let (header, c) ← readHeader start (c.take 1)
  let (c, _) ← c.takeBlanks true
  if !isBreakOrEnd c.char then .error ⟨.blockHeader, start⟩
  else
    let headerBroken := isBreak c.char
    let c := c.takeBreak
    if c.char = '\t' then .error ⟨.blockTab, start⟩
    else
      let (empties, width, c) :=
        if header.increment = 0 then
          let (n, widest, c) := takeFirstLines c.bound 0 0 c
          let width := max widest (indent + 1).toNat
          (n, if 0 < indent then max width 1 else width, c)
        else
          let width := (max indent 0).toNat + header.increment
          let (n, c) := takeEmptyLines width c.bound 0 c
          (n, width, c)
      if isEnd c.char then
        let text := emptyText header.chomping (c.mark.line = start.line) headerBroken empties
        return (String.ofList text, start, c)
      else if c.mark.column < width && indent < c.mark.column then
        .error ⟨.blockIndentation, c.mark⟩
      else
        let p := takeLines style width c.bound ⟨[], false, empties, false, c⟩
        let text := p.text.reverse ++ tail header.chomping width p
        return (String.ofList text, c.mark, p.cursor)

end DependencyWiring.Yaml.Block
