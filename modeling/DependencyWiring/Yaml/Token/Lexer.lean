import DependencyWiring.Yaml.Scalar.Block
import DependencyWiring.Yaml.Scalar.Plain
import DependencyWiring.Yaml.Scalar.Quoted
import DependencyWiring.Yaml.Token.Tag

/-!
# Tokens of a text

The lexer walks over the text and keeps the tokens it cannot hand out yet: a scalar or a bracket may
turn out to be the key of a mapping once a colon follows on its line, and then the tokens that start
the mapping stand before it. Every step passes over at least one character, so the length of the
text bounds the number of steps.
-/
namespace DependencyWiring.Yaml

/-- A place where a key may have started, with the number of the token it would be. A required key
stands where the block asks for one. -/
structure KeyCandidate where
  possible : Bool
  required : Bool
  number : Nat
  mark : Mark
  deriving DecidableEq, Repr, Inhabited

def KeyCandidate.none : KeyCandidate :=
  ⟨false, false, 0, ⟨0, 0, 0⟩⟩

def KeyCandidate.giveUp (k : KeyCandidate) : KeyCandidate :=
  { k with possible := false }

/-- The column of the block outside an open one, and whether the open one has an end token. -/
structure OpenIndent where
  outer : Int
  isBlock : Bool
  deriving DecidableEq, Repr, Inhabited

/-- What the lexer knows between two steps. The innermost bracket and block come first. A brace, or
the mark of a key in brackets, opens a flow mapping, and then a colon in brackets starts none. A
colon that starts one opens a single pair. -/
structure Lexer where
  cursor : Cursor
  pending : List Token
  handedOut : Nat
  started : Bool
  adjacentValueAt : Nat
  keyAllowed : Bool
  candidates : List KeyCandidate
  indent : Int
  indents : List OpenIndent
  flowLevel : Nat
  inFlowMapping : Bool
  singlePairOpen : Bool
  deriving Repr, Inhabited

abbrev Lex (α : Type) : Type := StateT Lexer (Except Refusal) α

namespace Lexer

def start (cs : List Char) : Lexer where
  cursor := .start cs
  pending := []
  handedOut := 0
  started := false
  adjacentValueAt := 0
  keyAllowed := true
  candidates := []
  indent := -1
  indents := []
  flowLevel := 0
  inFlowMapping := false
  singlePairOpen := false

def inFlow (s : Lexer) : Bool :=
  s.flowLevel ≠ 0

/-- How deep brackets may be nested. -/
def maxFlowLevel : Nat := 255

/-- How many characters a key of a block mapping may have. -/
def maxKeyLength : Nat := 1024

/-- Whether a key that started at the candidate can no longer be completed. -/
def isStale (s : Lexer) (k : KeyCandidate) : Bool :=
  k.possible && !s.inFlow &&
    (k.mark.line < s.cursor.mark.line || k.mark.index + maxKeyLength < s.cursor.mark.index)

/-- Gives up the candidates that can no longer be keys. A required one must have been completed. -/
def dropStale (s : Lexer) : Except Refusal Lexer :=
  if s.candidates.any fun k => s.isStale k && k.required then
    .error ⟨.keyWithoutColon, s.cursor.mark⟩
  else
    .ok { s with
      candidates := s.candidates.map fun k => if s.isStale k then k.giveUp else k }

/-- Whether the next token may turn out to be a key. -/
def awaitsColon (s : Lexer) : Bool :=
  s.candidates.any fun k => k.possible && k.number = s.handedOut

end Lexer

namespace Lex

def refuse {α : Type} (cause : Cause) (mark : Mark) : Lex α :=
  throw ⟨cause, mark⟩

def cursor : Lex Cursor := do
  return (← get).cursor

def moveTo (c : Cursor) : Lex Unit :=
  modify fun s => { s with cursor := c }

def allowKey (allowed : Bool) : Lex Unit :=
  modify fun s => { s with keyAllowed := allowed }

def push (mark : Mark) (kind : TokenKind) : Lex Unit :=
  modify fun s => { s with pending := s.pending ++ [⟨mark, kind⟩] }

/-- Puts a token before the one with the given number. -/
def insertAt (number : Nat) (mark : Mark) (kind : TokenKind) : Lex Unit :=
  modify fun s =>
    let (front, back) := s.pending.splitAt (number - s.handedOut)
    { s with pending := front ++ ⟨mark, kind⟩ :: back }

/-! ## Keys -/

/-- Notes that a key may start here. -/
def saveKey : Lex Unit :=
  modify fun s =>
    if s.keyAllowed then
      let required :=
        !s.inFlow && s.indent = s.cursor.mark.column &&
          (match s.indents with
            | i :: _ => i.isBlock
            | [] => false)
      let candidate : KeyCandidate :=
        ⟨true, required, s.handedOut + s.pending.length, s.cursor.mark⟩
      { s with candidates := candidate :: s.candidates.drop 1 }
    else s

/-- Gives up the innermost candidate. -/
def removeKey : Lex Unit := do
  match (← get).candidates with
  | [] => pure ()
  | k :: ks =>
    if k.possible && k.required then refuse .keyExpected (← cursor).mark
    else modify fun s => { s with candidates := k.giveUp :: ks }

/-! ## Indentation -/

/-- Opens a block at a column if it is indented more than the open one. Its token stands before the
token with the given number, or comes last. -/
def rollIndent (column : Nat) (number : Option Nat) (kind : TokenKind) (mark : Mark) :
    Lex Unit := do
  if (← get).inFlow then return
  modify fun s =>
    match s.indents with
    | i :: is =>
      if s.indent ≤ column && !i.isBlock then { s with indent := i.outer, indents := is } else s
    | [] => s
  let s ← get
  if s.indent < column then
    set { s with indent := (column : Int), indents := ⟨s.indent, true⟩ :: s.indents }
    match number with
    | some n => insertAt n mark kind
    | none => push mark kind

/-- The content behind a mark is indented by one column more than the block, without being a block.
-/
def rollContent : Lex Unit :=
  modify fun s =>
    match s.indents with
    | i :: _ =>
      if !s.inFlow && i.isBlock then
        { s with indent := s.indent + 1, indents := ⟨s.indent, false⟩ :: s.indents }
      else s
    | [] => s

/-- Closes what is indented and is no block. -/
def closeContent (indent : Int) : List OpenIndent → Int × List OpenIndent
  | [] => (indent, [])
  | i :: is => if i.isBlock then (indent, i :: is) else closeContent i.outer is

def unrollContent : Lex Unit :=
  modify fun s =>
    let (indent, indents) := closeContent s.indent s.indents
    { s with indent := indent, indents := indents }

/-- Closes what is indented more than a column, and counts the blocks. -/
def closeBlocks (column : Int) (indent : Int) : List OpenIndent → Nat × Int × List OpenIndent
  | [] => (0, indent, [])
  | i :: is =>
    if column < indent then
      let (n, indent, is) := closeBlocks column i.outer is
      (if i.isBlock then n + 1 else n, indent, is)
    else (0, indent, i :: is)

/-- Closes the blocks that are indented more than a column. -/
def unrollIndent (column : Int) : Lex Unit :=
  modify fun s =>
    if s.inFlow then s
    else
      let (n, indent, indents) := closeBlocks column s.indent s.indents
      { s with
        indent := indent
        indents := indents
        pending := s.pending ++ List.replicate n ⟨s.cursor.mark, .blockEnd⟩ }

/-! ## Between tokens -/

/-- Passes over blanks, comments and line breaks. A tab may not indent a block. -/
def takeBetween : Nat → Lex Unit
  | 0 => pure ()
  | steps + 1 => do
    let s ← get
    let c := s.cursor
    if c.char = '\t' && s.indents ≠ [] && c.fresh && c.mark.column < s.indent then
      let (next, _) ← c.takeBlanks true
      if !isBreakOrEnd next.char then refuse .tabIndentation next.mark
      moveTo next
      takeBetween steps
    else if isBlank c.char then
      moveTo (c.advance 1)
      takeBetween steps
    else if isBreak c.char then
      moveTo c.takeBreak
      if !s.inFlow then allowKey true
      takeBetween steps
    else if c.char = '#' then
      moveTo c.takeComment
      takeBetween steps

def skipToToken : Lex Unit := do
  takeBetween (← cursor).bound

/-- Passes over the blanks behind a mark. -/
def skipBlanks (tabs : Bool) : Lex Cursor.Blanks := do
  let (next, kinds) ← (← cursor).takeBlanks tabs
  moveTo next
  return kinds

/-- Passes over the separation behind the mark of a key: spaces, comments and line breaks, and at
least one blank or break of them. -/
def takeSeparation : Nat → Bool → Lex Bool
  | 0, found => return found
  | steps + 1, found => do
    let s ← get
    let c := s.cursor
    if c.char = ' ' then
      moveTo (c.advance 1)
      takeSeparation steps true
    else if isBreak c.char then
      moveTo c.takeBreak
      if !s.inFlow then allowKey true
      takeSeparation steps true
    else if c.char = '#' then
      moveTo c.takeComment
      takeSeparation steps found
    else return found

/-! ## Tokens -/

def streamStart : Lex Unit := do
  push (← cursor).mark .streamStart
  modify fun s => { s with started := true, keyAllowed := true, candidates := [.none] }

/-- The end of the text starts a line of its own. -/
def streamEnd : Lex Unit := do
  let c ← cursor
  if c.mark.column ≠ 0 then
    moveTo { c with mark := ⟨c.mark.index, c.mark.line + 1, 0⟩ }
  let s ← get
  if s.candidates.any fun k => k.required && k.possible then
    refuse .keyExpected s.cursor.mark
  set { s with candidates := s.candidates.map KeyCandidate.giveUp }
  unrollIndent (-1)
  removeKey
  allowKey false
  push (← cursor).mark .streamEnd

def directive : Lex Unit := do
  unrollIndent (-1)
  removeKey
  allowKey false
  let c ← cursor
  let (kind, next) ← Tag.readDirective c
  moveTo next
  push c.mark kind

def documentMark (kind : TokenKind) : Lex Unit := do
  unrollIndent (-1)
  removeKey
  allowKey false
  let c ← cursor
  moveTo (c.take 3)
  push c.mark kind

def documentEnd : Lex Unit := do
  documentMark .documentEnd
  let _ ← skipBlanks true
  let c ← cursor
  if !isBreakOrEnd c.char then refuse .contentAfterDocumentEnd c.mark

/-- Ends the mapping of a single pair. There is one such mapping at a time: the first comma or
closing bracket ends it, also that of a bracket inside the pair. -/
def endSinglePair (mark : Mark) : Lex Unit := do
  if (← get).singlePairOpen then
    modify fun s => { s with inFlowMapping := false, singlePairOpen := false }
    push mark .flowMappingEnd

def flowStart (kind : TokenKind) : Lex Unit := do
  saveKey
  rollContent
  let c ← cursor
  if Lexer.maxFlowLevel ≤ (← get).flowLevel then refuse .tooDeep c.mark
  modify fun s =>
    { s with
      flowLevel := s.flowLevel + 1
      candidates := .none :: s.candidates
      keyAllowed := true }
  moveTo (c.take 1)
  if kind = .flowMappingStart then modify fun s => { s with inFlowMapping := true }
  let _ ← skipBlanks true
  push c.mark kind

def flowEnd (kind : TokenKind) : Lex Unit := do
  removeKey
  modify fun s =>
    if s.inFlow then
      { s with flowLevel := s.flowLevel - 1, candidates := s.candidates.drop 1 }
    else s
  allowKey false
  let c ← cursor
  endSinglePair c.mark
  moveTo (c.take 1)
  let _ ← skipBlanks true
  modify fun s =>
    if s.inFlow then { s with adjacentValueAt := s.cursor.mark.index } else s
  push c.mark kind

def flowEntry : Lex Unit := do
  removeKey
  allowKey true
  let c ← cursor
  endSinglePair c.mark
  moveTo (c.take 1)
  let _ ← skipBlanks true
  push c.mark .flowEntry

def blockEntry : Lex Unit := do
  let s ← get
  let c := s.cursor
  if s.inFlow then refuse .entryInFlow c.mark
  if !s.keyAllowed then refuse .entryNotAllowed c.mark
  match s.pending.getLast? with
  | some ⟨mark, kind⟩ =>
    let property :=
      match kind with
      | .anchor _ => true
      | .tag _ _ => true
      | _ => false
    if property && c.mark.column = 0 && mark.column = 0 && -1 < s.indent then
      refuse .anchorIndentation mark
  | none => pure ()
  moveTo (c.take 1)
  rollIndent c.mark.column none .blockSequenceStart c.mark
  let kinds ← skipBlanks true
  let next ← cursor
  if kinds.tab && next.char = '-' && isSeparator (next.ahead 1) then
    refuse .entryTab next.mark
  let _ ← skipBlanks false
  let next ← cursor
  if isBreak next.char || isFlow next.char then rollContent
  removeKey
  allowKey true
  push (← cursor).mark .blockEntry

def key : Lex Unit := do
  let s ← get
  let c := s.cursor
  if s.inFlow then modify fun s => { s with inFlowMapping := true }
  else
    if !s.keyAllowed then refuse .keyNotAllowed c.mark
    rollIndent c.mark.column none .blockMappingStart c.mark
  removeKey
  allowKey (!s.inFlow)
  moveTo (c.take 1)
  let found ← takeSeparation (← cursor).bound false
  let next ← cursor
  if !found then refuse .expectedBlank next.mark
  if next.char = '\t' then refuse .keyTab next.mark
  push c.mark .key

/-- A colon. With a candidate before it the tokens of a key are put in front of the candidate. -/
def value : Lex Unit := do
  let s ← get
  let c := s.cursor
  let candidate := s.candidates.headD .none
  let singlePair := s.inFlow && !s.inFlowMapping
  modify fun s => { s with singlePairOpen := singlePair }
  moveTo (c.take 1)
  if (← cursor).char = '\t' then
    let kinds ← skipBlanks true
    let next ← cursor
    if !kinds.space && (next.char = '-' || isWord next.char) then refuse .colonTab next.mark
  if candidate.possible then
    insertAt candidate.number candidate.mark .key
    if singlePair then
      if candidate.mark.line < c.mark.line then refuse .colonMisplaced c.mark
      insertAt candidate.number (← cursor).mark .flowMappingStart
    rollIndent candidate.mark.column (some candidate.number) .blockMappingStart c.mark
    rollContent
    modify fun s =>
      { s with candidates := candidate.giveUp :: s.candidates.drop 1 }
    allowKey false
  else
    if singlePair then push (← cursor).mark .flowMappingStart
    if !s.inFlow then
      if !s.keyAllowed then refuse .valueNotAllowed c.mark
      rollIndent c.mark.column none .blockMappingStart c.mark
    rollContent
    allowKey (!s.inFlow)
  push c.mark .value

def anchor (kind : String → TokenKind) : Lex Unit := do
  saveKey
  allowKey false
  let c ← cursor
  let (name, next) ← Tag.readName c
  moveTo next
  push c.mark (kind name)

def tag : Lex Unit := do
  saveKey
  allowKey false
  let s ← get
  let (kind, next) ← Tag.read s.inFlow s.cursor
  moveTo next
  push s.cursor.mark kind

def blockScalar (style : Block.Style) : Lex Unit := do
  saveKey
  allowKey true
  unrollContent
  let s ← get
  let (text, mark, next) ← Block.read style s.indent s.cursor
  moveTo next
  push mark (.scalar text)

/-- A quoted scalar. In brackets a colon right behind it is a mark. -/
def quotedScalar (style : Quoted.Style) : Lex Unit := do
  saveKey
  allowKey false
  let s ← get
  let (text, next) ← Quoted.read style s.inFlow s.indent s.cursor
  moveTo next
  skipToToken
  modify fun s => { s with adjacentValueAt := s.cursor.mark.index }
  push s.cursor.mark (.scalar text)

def plainScalar : Lex Unit := do
  saveKey
  allowKey false
  unrollContent
  let s ← get
  let (text, next) ← Plain.read s.inFlow (s.indent + 1) s.cursor
  moveTo next
  if next.fresh then allowKey true
  push s.cursor.mark (.scalar text)

/-- The token that the next characters start. -/
def dispatch : Lex Unit := do
  let s ← get
  let c := s.cursor
  let x := c.char
  let separated := isSeparator (c.ahead 1)
  if x = '[' then flowStart .flowSequenceStart
  else if x = '\x7b' then flowStart .flowMappingStart
  else if x = ']' then flowEnd .flowSequenceEnd
  else if x = '\x7d' then flowEnd .flowMappingEnd
  else if x = ',' then flowEntry
  else if x = '-' && separated then blockEntry
  else if x = '?' && separated then key
  else if x = ':' && (separated ||
      (s.inFlow && (isFlow (c.ahead 1) || c.mark.index = s.adjacentValueAt))) then value
  else if x = '*' then anchor .anchorRef
  else if x = '&' then anchor .anchor
  else if x = '!' then tag
  else if x = '|' && !s.inFlow then blockScalar .literal
  else if x = '>' && !s.inFlow then blockScalar .folded
  else if x = '\'' then quotedScalar .single
  else if x = '"' then quotedScalar .double
  else if x = '%' || x = '@' || x.toNat = 0x60 then refuse (.unexpectedCharacter x) c.mark
  else plainScalar

/-- Reads on up to the end of the next token of the text. -/
def step : Lex Unit := do
  if !(← get).started then streamStart
  else
    skipToToken
    set (← (← get).dropStale)
    unrollIndent (← cursor).mark.column
    moveTo ((← cursor).look 4)
    let s ← get
    let c := s.cursor
    if isEnd c.char then streamEnd
    else if c.mark.column = 0 && c.char = '%' then directive
    else if c.mark.column = 0 && c.startsWithMarks '-' then documentMark .documentStart
    else if c.mark.column = 0 && c.startsWithMarks '.' then documentEnd
    else if c.mark.column < s.indent then refuse .invalidIndentation c.mark
    else dispatch

end Lex

/-- The tokens of a text in order, and what is wrong with the text behind them if anything is. -/
structure TokenStream where
  tokens : List Token
  refusal : Option Refusal
  deriving Repr, Inhabited

namespace TokenStream

/-- Hands out a token when it can no longer become a key, and reads on otherwise. -/
def run : Nat → Lexer → TokenStream
  | 0, s => ⟨[], some ⟨.endExpected, s.cursor.mark⟩⟩
  | steps + 1, s =>
    match s.pending with
    | [] => readOn steps s
    | t :: ts =>
      match s.dropStale with
      | .error e => ⟨[], some e⟩
      | .ok s =>
        if s.awaitsColon then readOn steps s
        else if t.kind = .streamEnd then ⟨[t], none⟩
        else
          let later := run steps { s with pending := ts, handedOut := s.handedOut + 1 }
          ⟨t :: later.tokens, later.refusal⟩
where
  readOn (steps : Nat) (s : Lexer) : TokenStream :=
    match Lex.step.run s with
    | .error e => ⟨[], some e⟩
    | .ok (_, s) => run steps s

/-- The tokens of a text. A character starts at most four tokens, each of which may be held back
once, and every block that is opened is closed. -/
def ofText (cs : List Char) : TokenStream :=
  run (16 * cs.length + 16) (.start cs)

end TokenStream

end DependencyWiring.Yaml
