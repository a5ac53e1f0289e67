import DependencyWiring.Yaml.Cursor
import DependencyWiring.Yaml.Token

/-!
# Tags, anchors and directives

The tokens that a wiring document may not use. They are read all the same, so that a text is refused
for what is wrong in it first.
-/
namespace DependencyWiring.Yaml.Tag

/-- The name behind the mark of an anchor or an alias. -/
def readName (c : Cursor) : Except Refusal (String × Cursor) :=
  let name := (c.rest.drop 1).takeWhile isAnchor
  if name = [] then .error ⟨.anchorName, c.mark⟩
  else .ok (String.ofList name, c.take (name.length + 1))

/-- The byte that an escape of a URI spells, if one follows. -/
def escapedByte? (cs : List Char) : Option Nat :=
  match cs with
  | '%' :: a :: b :: _ => do return (← hexValue? a) * 16 + (← hexValue? b)
  | _ => none

/-- How many bytes a character has that starts with the byte. -/
def byteCount? (byte : Nat) : Option Nat :=
  if byte < 0x80 then some 1
  else if 0xC0 ≤ byte ∧ byte < 0xE0 then some 2
  else if 0xE0 ≤ byte ∧ byte < 0xF0 then some 3
  else if 0xF0 ≤ byte ∧ byte < 0xF8 then some 4
  else none

/-- Reads the escaped bytes behind the first one of a character. The bytes are set one after another
without taking their marks away. -/
def readTrailing (start : Mark) : Nat → Nat → Cursor → Except Refusal (Nat × Cursor)
  | 0, code, c => .ok (code, c)
  | n + 1, code, c =>
    match escapedByte? c.rest with
    | none => .error ⟨.tagEscape, start⟩
    | some byte =>
      if byte / 64 = 2 then readTrailing start n (code * 256 + byte) (c.take 3)
      else .error ⟨.tagTrailingByte, start⟩

/-- Reads a character that is escaped byte by byte. -/
def readEscape (start : Mark) (c : Cursor) : Except Refusal (Char × Cursor) :=
  match escapedByte? c.rest with
  | none => .error ⟨.tagEscape, start⟩
  | some byte =>
    match byteCount? byte with
    | none => .error ⟨.tagLeadingByte, start⟩
    | some n => do
      let (code, c) ← readTrailing start (n - 1) byte (c.take 3)
      if h : code.isValidChar then return (Char.ofNatAux code h, c)
      else .error ⟨.tagCodePoint, start⟩

/-- Reads the characters of a class, escapes included. -/
def readUri (start : Mark) (belongs : Char → Bool) :
    Nat → Cursor → Except Refusal (List Char × Cursor)
  | 0, c => .ok ([], c)
  | steps + 1, c =>
    if !belongs c.char then .ok ([], c)
    else do
      let (x, next) ← if c.char = '%' then readEscape start c else .ok (c.char, c.take 1)
      let (xs, next) ← readUri start belongs steps next
      return (x :: xs, next)

/-- Reads a handle: an exclamation mark, a word, and the closing mark if there is one. In a
directive the closing mark must be there. -/
def readHandle (directive : Bool) (start : Mark) (c : Cursor) :
    Except Refusal (List Char × Cursor) :=
  if c.char ≠ '!' then .error ⟨.tagStart, start⟩
  else
    let w := (c.rest.drop 1).takeWhile isWord
    let next := c.take (w.length + 1)
    if next.char = '!' then .ok ('!' :: (w ++ ['!']), next.take 1)
    else if directive && w ≠ [] then .error ⟨.tagDirectiveHandle, start⟩
    else .ok ('!' :: w, next)

/-- Reads what a directive puts in the place of a handle. -/
def readReplacement (start : Mark) (c : Cursor) : Except Refusal (List Char × Cursor) := do
  let (x, next) ←
    if c.char = '!' then .ok (c.char, c.take 1)
    else if !isTag c.char then .error ⟨.tagDirectivePrefix, start⟩
    else if c.char = '%' then readEscape start c
    else .ok (c.char, c.take 1)
  let (xs, next) ← readUri start isUri next.bound next
  return (x :: xs, next)

/-- Reads a tag written in full between angle brackets. -/
def readVerbatim (start : Mark) (c : Cursor) : Except Refusal (List Char × Cursor) := do
  let c := c.take 2
  let (uri, next) ← readUri start isUri c.bound c
  if next.char = '>' then return (uri, next.take 1) else .error ⟨.tagUnclosed, start⟩

/-- Reads a tag that has a handle, or none but the first mark. -/
def readShorthand (start : Mark) (c : Cursor) :
    Except Refusal (List Char × List Char × Cursor) := do
  let (handle, c) ← readHandle false start c
  if 2 ≤ handle.length ∧ handle.getLast? = some '!' then
    let (suffix, c) ← readUri start isTag c.bound c
    if suffix = [] then .error ⟨.tagEmpty, start⟩ else return (handle, suffix, c)
  else
    let (more, c) ← readUri start isTag c.bound c
    let suffix := handle.drop 1 ++ more
    if suffix = [] then return ([], ['!'], c) else return (['!'], suffix, c)

/-- Reads a tag. -/
def read (flow : Bool) (c : Cursor) : Except Refusal (TokenKind × Cursor) := do
  let (handle, suffix, next) ←
    if c.ahead 1 = '<' then (readVerbatim c.mark c).map fun (uri, next) => ([], uri, next)
    else readShorthand c.mark c
  if isSeparator next.char || (flow && isFlow next.char) then
    return (.tag (String.ofList handle) (String.ofList suffix), next)
  else .error ⟨.tagEnd, c.mark⟩

/-! ## Directives -/

def takeSpaces (c : Cursor) : Cursor :=
  c.advance (c.rest.takeWhile isBlank).length

/-- The greatest number of digits of a version. -/
def maxVersionDigits : Nat := 9

def readVersionNumber (start : Mark) (c : Cursor) : Except Refusal Cursor :=
  let n := (c.rest.takeWhile Char.isDigit).length
  if n = 0 then .error ⟨.versionExpected, start⟩
  else if maxVersionDigits < n then .error ⟨.versionTooLong, start⟩
  else .ok (c.take n)

def readVersion (start : Mark) (c : Cursor) : Except Refusal (TokenKind × Cursor) := do
  let c ← readVersionNumber start (takeSpaces c)
  if c.char ≠ '.' then .error ⟨.versionSeparator, start⟩
  else
    let c ← readVersionNumber start (c.take 1)
    return (.versionDirective, c)

def readTagDirective (start : Mark) (c : Cursor) : Except Refusal (TokenKind × Cursor) := do
  let (handle, c) ← readHandle true start (takeSpaces c)
  let (uri, c) ← readReplacement start (takeSpaces c)
  if isSeparator c.char then return (.tagDirective (String.ofList handle) (String.ofList uri), c)
  else .error ⟨.tagDirectiveEnd, start⟩

/-- Reads a directive with its line. An unknown directive has no effect. -/
def readDirective (c : Cursor) : Except Refusal (TokenKind × Cursor) := do
  let start := c.mark
  let named := c.take 1
  let name := named.rest.takeWhile isWord
  let c := named.take name.length
  if name = [] then .error ⟨.directiveName, named.mark⟩
  else if !isSeparator c.char then .error ⟨.directiveLetter, named.mark⟩
  else
    let (kind, c) ←
      if String.ofList name = "YAML" then readVersion start c
      else if String.ofList name = "TAG" then readTagDirective start c
      else .ok (.tagDirective "" "", c.takeComment)
    let (c, _) ← c.takeBlanks true
    if isBreakOrEnd c.char then return (kind, c.takeBreak) else .error ⟨.directiveEnd, start⟩

end DependencyWiring.Yaml.Tag
