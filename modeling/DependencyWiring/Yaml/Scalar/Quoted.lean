import DependencyWiring.Yaml.Scalar.Folding

/-!
# Quoted scalars

Between single quotes only the quote itself is special and is written twice. Between double quotes
a backslash starts an escape, and a backslash at the end of a line joins the line to the next one.
Lines are folded in both.
-/
namespace DependencyWiring.Yaml.Quoted

inductive Style where
  | single
  | double
  deriving DecidableEq, Repr, Inhabited

def Style.quote : Style → Char
  | single => '\''
  | double => '"'

/-- The characters with an escape of one letter. -/
def simpleEscape? (c : Char) : Option Char :=
  match c with
  | '0' => some (Char.ofNat 0)
  | 'a' => some (Char.ofNat 0x7)
  | 'b' => some (Char.ofNat 0x8)
  | 't' => some '\t'
  | '\t' => some '\t'
  | 'n' => some '\n'
  | 'v' => some (Char.ofNat 0xB)
  | 'f' => some (Char.ofNat 0xC)
  | 'r' => some '\r'
  | 'e' => some (Char.ofNat 0x1B)
  | ' ' => some ' '
  | '"' => some '"'
  | '/' => some '/'
  | '\\' => some '\\'
  | 'N' => some (Char.ofNat 0x85)
  | '_' => some (Char.ofNat 0xA0)
  | 'L' => some (Char.ofNat 0x2028)
  | 'P' => some (Char.ofNat 0x2029)
  | _ => none

/-- How many hexadecimal digits follow the letter of an escape by code. -/
def codeLength? (c : Char) : Option Nat :=
  match c with
  | 'x' => some 2
  | 'u' => some 4
  | 'U' => some 8
  | _ => none

/-- The number that hexadecimal digits spell. -/
def hexNumber? : Nat → List Char → Option Nat
  | n, [] => some n
  | n, c :: cs => (hexValue? c).bind fun d => hexNumber? (n * 16 + d) cs

/-- The character of a code point, which a surrogate is not. -/
def ofCodePoint? (n : Nat) : Option Char :=
  if h : n.isValidChar then some (Char.ofNatAux n h) else none

/-- Reads an escape, from its backslash on. -/
def readEscape (start : Mark) (c : Cursor) : Except Refusal (Char × Cursor) :=
  match simpleEscape? (c.ahead 1) with
  | some x => .ok (x, c.take 2)
  | none =>
    match codeLength? (c.ahead 1) with
    | none => .error ⟨.quotedEscape, start⟩
    | some n =>
      let digits := (c.rest.drop 2).take n
      match if digits.length = n then hexNumber? 0 digits else none with
      | none => .error ⟨.quotedHexDigits, start⟩
      | some code =>
        match ofCodePoint? code with
        | none => .error ⟨.quotedCodePoint, start⟩
        | some x => .ok (x, c.take (2 + n))

/-- What was read of a scalar. The text is kept backwards. -/
structure Progress where
  text : List Char
  joined : Bool
  cursor : Cursor
  deriving Repr, Inhabited

/-- Takes content up to a blank, a line break, the closing quote or the end of the text. -/
def takeContent (style : Style) (start : Mark) : Nat → Progress → Except Refusal Progress
  | 0, p => .ok p
  | steps + 1, p =>
    let c := p.cursor
    if isSeparator c.char then .ok p
    else
      match style with
      | .single =>
        if c.char = '\'' then
          if c.ahead 1 = '\'' then
            takeContent style start steps ⟨'\'' :: p.text, p.joined, c.take 2⟩
          else .ok p
        else takeContent style start steps ⟨c.char :: p.text, p.joined, c.take 1⟩
      | .double =>
        if c.char = '"' then .ok p
        else if c.char = '\\' then
          if isBreak (c.ahead 1) then .ok ⟨p.text, true, (c.take 1).takeBreak⟩
          else
            match readEscape start c with
            | .error e => .error e
            | .ok (x, next) => takeContent style start steps ⟨x :: p.text, p.joined, next⟩
        else takeContent style start steps ⟨c.char :: p.text, p.joined, c.take 1⟩

/-- Takes the blanks and line breaks between two pieces of content. -/
def takeGap (indent : Int) : Nat → Gap → Bool → Cursor → Except Refusal (Gap × Bool × Cursor)
  | 0, g, newLine, c => .ok (g, newLine, c)
  | steps + 1, g, newLine, c =>
    if isBlank c.char then
      if newLine then
        if c.char = '\t' && c.mark.column < indent then .error ⟨.quotedTab, c.mark⟩
        else takeGap indent steps g newLine (c.advance 1)
      else takeGap indent steps { g with blanks := g.blanks ++ [c.char] } newLine (c.advance 1)
    else if isBreak c.char then
      if newLine then takeGap indent steps { g with empties := g.empties + 1 } true c.takeBreak
      else takeGap indent steps { g with blanks := [], broken := true } true c.takeBreak
    else .ok (g, newLine, c)

/-- Takes content and gaps in turn up to the closing quote. -/
def takeLines (style : Style) (indent : Int) (start : Mark) :
    Nat → List Char → Cursor → Except Refusal (List Char × Cursor)
  | 0, _, _ => .error ⟨.quotedUnclosed, start⟩
  | steps + 1, text, c =>
    if c.atDocumentMark then .error ⟨.quotedDocumentMark, start⟩
    else if isEnd c.char then .error ⟨.quotedUnclosed, start⟩
    else if c.mark.column < indent then .error ⟨.quotedIndentation, start⟩
    else
      match takeContent style start c.bound ⟨text, false, c⟩ with
      | .error e => .error e
      | .ok p =>
        if p.cursor.char = style.quote then .ok (p.text, p.cursor)
        else
          match takeGap indent p.cursor.bound .none p.joined p.cursor with
          | .error e => .error e
          | .ok (g, newLine, next) =>
            let between := if newLine then g.folded else g.blanks
            takeLines style indent start steps (between.reverse ++ p.text) next

/-- What may stand behind the closing quote on its line. -/
def mayFollow (flow : Bool) (start : Mark) (c : Cursor) : Bool :=
  isBreakOrEnd c.char ||
    (flow && (c.char = ',' || c.char = '\x7d' || c.char = ']')) ||
    (c.char = ':' && (flow || start.line = c.mark.line))

/-- Reads a quoted scalar, and the blanks behind it. -/
def read (style : Style) (flow : Bool) (indent : Int) (c : Cursor) :
    Except Refusal (String × Cursor) := do
  let (text, closing) ← takeLines style indent c.mark c.bound [] (c.take 1)
  let (next, _) ← (closing.take 1).takeBlanks true
  if mayFollow flow c.mark next then return (String.ofList text.reverse, next)
  else .error ⟨.quotedTrailing, next.mark⟩

end DependencyWiring.Yaml.Quoted
