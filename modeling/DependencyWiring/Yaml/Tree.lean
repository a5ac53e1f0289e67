import DependencyWiring.Yaml.Token.Lexer

/-!
# The tree that tokens spell

The first document of a token stream, with all that YAML allows in it: keys of every kind, and
properties before every node. What a wiring document may not use is refused later, so a text that is
no YAML is refused as such first. The number of tokens bounds the number of steps.
-/
namespace DependencyWiring.Yaml

/-- What stands before a node. -/
structure Properties where
  anchor : Bool
  tag : Bool
  deriving DecidableEq, Repr, Inhabited

def Properties.none : Properties := ⟨false, false⟩

inductive Tree where
  | scalar (text : String) (properties : Properties) (mark : Mark)
  | sequence (items : List Tree) (properties : Properties) (mark : Mark)
  | mapping (entries : List (Tree × Tree)) (properties : Properties) (mark : Mark)
  | anchorRef (mark : Mark)
  deriving Repr, Inhabited

namespace Tree

/-- A node that is left out. -/
def omitted (mark : Mark) : Tree :=
  scalar "~" .none mark

end Tree

/-- The tokens that are left, with the anchors and the tag handles that the document declares. -/
structure Builder where
  stream : TokenStream
  anchors : List String
  handles : List String
  deriving Repr, Inhabited

abbrev Build (α : Type) : Type := StateT Builder (Except Refusal) α

namespace Build

def refuse {α : Type} (cause : Cause) (mark : Mark) : Build α :=
  throw ⟨cause, mark⟩

/-- The next token. -/
def peek : Build Token := do
  let s := (← get).stream
  match s.tokens with
  | t :: _ => return t
  | [] => throw (s.refusal.getD ⟨.endExpected, ⟨0, 0, 0⟩⟩)

def skip : Build Unit :=
  modify fun b => { b with stream := { b.stream with tokens := b.stream.tokens.drop 1 } }

/-- Takes an anchor if one follows. -/
def takeAnchor : Build Bool := do
  match (← peek).kind with
  | .anchor name =>
    skip
    modify fun b => { b with anchors := name :: b.anchors }
    return true
  | _ => return false

/-- Whether a handle stands for nothing unless a directive declares it. -/
def isNamedHandle (handle : String) : Bool :=
  2 ≤ handle.length && handle.toList.head? = some '!' && handle.toList.getLast? = some '!'

/-- Takes a tag if one follows. Its handle must be declared; the mark is that of the properties. -/
def takeTag (start : Mark) : Build Bool := do
  match (← peek).kind with
  | .tag handle _ =>
    skip
    if handle ≠ "!!" && isNamedHandle handle && !(← get).handles.contains handle then
      refuse .undeclaredHandle start
    return true
  | _ => return false

/-- Takes the properties of a node, in either order. -/
def takeProperties : Build Properties := do
  let start := (← peek).mark
  if ← takeAnchor then
    let tag ← takeTag start
    return ⟨true, tag⟩
  else if ← takeTag start then
    let anchor ← takeAnchor
    return ⟨anchor, true⟩
  else return .none

/-- A node that takes the place of an alias. -/
def referenceTo (name : String) (mark : Mark) : Build Tree := do
  skip
  if !(← get).anchors.contains name then refuse .unknownAnchor mark
  return .anchorRef mark

def isEntryEnd : TokenKind → Bool
  | .blockEntry | .blockEnd => true
  | _ => false

def isIndentlessEnd : TokenKind → Bool
  | .blockEntry | .key | .value | .blockEnd => true
  | _ => false

def isBlockPairEnd : TokenKind → Bool
  | .key | .value | .blockEnd => true
  | _ => false

def isFlowKeyEnd : TokenKind → Bool
  | .value | .flowEntry | .flowMappingEnd => true
  | _ => false

def isFlowValueEnd : TokenKind → Bool
  | .flowEntry | .flowMappingEnd => true
  | _ => false

def isSinglePairKeyEnd : TokenKind → Bool
  | .value | .flowEntry | .flowSequenceEnd => true
  | _ => false

def isSinglePairValueEnd : TokenKind → Bool
  | .flowEntry | .flowSequenceEnd => true
  | _ => false

mutual

/-- A node. Blocks may start only where `block` says so, and a sequence that is not indented more
than its key only where `indentless` says so. -/
def node (block indentless : Bool) : Nat → Build Tree
  | 0 => throw ⟨.endExpected, ⟨0, 0, 0⟩⟩
  | steps + 1 => do
    let first ← peek
    match first.kind with
    | .anchorRef name => referenceTo name first.mark
    | _ =>
      let properties ← takeProperties
      let t ← peek
      match t.kind with
      | .scalar text =>
        skip
        return .scalar text properties t.mark
      | .flowSequenceStart =>
        skip
        return .sequence (← flowItems true steps) properties t.mark
      | .flowMappingStart =>
        skip
        return .mapping (← flowPairs true steps) properties t.mark
      | .blockEntry =>
        if indentless then return .sequence (← indentlessItems steps) properties t.mark
        else noContent properties t.mark
      | .blockSequenceStart =>
        if block then
          skip
          return .sequence (← blockItems steps) properties t.mark
        else noContent properties t.mark
      | .blockMappingStart =>
        if block then
          skip
          return .mapping (← blockPairs steps) properties t.mark
        else noContent properties t.mark
      | _ => noContent properties t.mark

/-- A node of properties alone is an empty scalar; without properties there must be content. -/
def noContent (properties : Properties) (mark : Mark) : Build Tree :=
  if properties = .none then refuse .contentExpected mark
  else return .scalar "" properties mark

/-- The items of a block sequence, up to its end. -/
def blockItems : Nat → Build (List Tree)
  | 0 => throw ⟨.endExpected, ⟨0, 0, 0⟩⟩
  | steps + 1 => do
    let t ← peek
    match t.kind with
    | .blockEnd =>
      skip
      return []
    | .blockEntry =>
      skip
      let next ← peek
      let item ← if isEntryEnd next.kind then pure (.omitted next.mark) else node true false steps
      return item :: (← blockItems steps)
    | _ => refuse .blockEntryExpected t.mark

/-- The items of a sequence that has no block of its own. -/
def indentlessItems : Nat → Build (List Tree)
  | 0 => throw ⟨.endExpected, ⟨0, 0, 0⟩⟩
  | steps + 1 => do
    match (← peek).kind with
    | .blockEntry =>
      skip
      let next ← peek
      let item ←
        if isIndentlessEnd next.kind then pure (.omitted next.mark) else node true false steps
      return item :: (← indentlessItems steps)
    | _ => return []

/-- The entries of a block mapping, up to its end. -/
def blockPairs : Nat → Build (List (Tree × Tree))
  | 0 => throw ⟨.endExpected, ⟨0, 0, 0⟩⟩
  | steps + 1 => do
    let t ← peek
    match t.kind with
    | .blockEnd =>
      skip
      return []
    | .key =>
      skip
      let next ← peek
      let key ← if isBlockPairEnd next.kind then pure (.omitted next.mark) else node true true steps
      let value ← blockValue steps
      return (key, value) :: (← blockPairs steps)
    | .value =>
      let value ← blockValue steps
      return (.omitted t.mark, value) :: (← blockPairs steps)
    | _ => refuse .blockKeyExpected t.mark

/-- The value of an entry of a block mapping. -/
def blockValue : Nat → Build Tree
  | 0 => throw ⟨.endExpected, ⟨0, 0, 0⟩⟩
  | steps + 1 => do
    let t ← peek
    match t.kind with
    | .value =>
      skip
      let next ← peek
      if isBlockPairEnd next.kind then return .omitted next.mark else node true true steps
    | _ => return .omitted t.mark

/-- The items of a sequence in brackets, up to its closing bracket. -/
def flowItems (first : Bool) : Nat → Build (List Tree)
  | 0 => throw ⟨.endExpected, ⟨0, 0, 0⟩⟩
  | steps + 1 => do
    let t ← peek
    match t.kind with
    | .flowSequenceEnd =>
      skip
      return []
    | _ =>
      if !first then
        if t.kind = .flowEntry then skip else refuse .flowSequenceSeparator t.mark
      let t ← peek
      match t.kind with
      | .flowSequenceEnd =>
        skip
        return []
      | .key =>
        skip
        let item ← singlePair t.mark steps
        return item :: (← flowItems false steps)
      | _ =>
        let item ← node false false steps
        return item :: (← flowItems false steps)

/-- A mapping of one pair that stands in a sequence behind the mark of a key. -/
def singlePair (mark : Mark) : Nat → Build Tree
  | 0 => throw ⟨.endExpected, ⟨0, 0, 0⟩⟩
  | steps + 1 => do
    let t ← peek
    let key ←
      if isSinglePairKeyEnd t.kind then
        skip
        pure (.omitted t.mark)
      else node false false steps
    let t ← peek
    let value ←
      if t.kind = .value then
        skip
        let next ← peek
        if isSinglePairValueEnd next.kind then pure (.omitted next.mark)
        else node false false steps
      else pure (.omitted t.mark)
    return .mapping [(key, value)] .none mark

/-- The entries of a mapping in braces, up to its closing brace. -/
def flowPairs (first : Bool) : Nat → Build (List (Tree × Tree))
  | 0 => throw ⟨.endExpected, ⟨0, 0, 0⟩⟩
  | steps + 1 => do
    let t ← peek
    match t.kind with
    | .flowMappingEnd =>
      skip
      return []
    | _ =>
      if !first then
        if t.kind = .flowEntry then skip else refuse .flowMappingSeparator t.mark
      let t ← peek
      match t.kind with
      | .flowMappingEnd =>
        skip
        return []
      | .key =>
        skip
        let next ← peek
        let key ←
          if isFlowKeyEnd next.kind then pure (.omitted next.mark) else node false false steps
        let value ← flowValue steps
        return (key, value) :: (← flowPairs false steps)
      | .value =>
        let value ← flowValue steps
        return (.omitted t.mark, value) :: (← flowPairs false steps)
      | _ =>
        let key ← node false false steps
        let next ← peek
        return (key, .omitted next.mark) :: (← flowPairs false steps)

/-- The value of an entry of a mapping in braces. -/
def flowValue : Nat → Build Tree
  | 0 => throw ⟨.endExpected, ⟨0, 0, 0⟩⟩
  | steps + 1 => do
    let t ← peek
    match t.kind with
    | .value =>
      skip
      let next ← peek
      if isFlowValueEnd next.kind then return .omitted t.mark else node false false steps
    | _ => return .omitted t.mark

end

/-! ## Documents -/

/-- Passes over the ends of documents before the first one. -/
def skipDocumentEnds : Nat → Build Unit
  | 0 => pure ()
  | steps + 1 => do
    if (← peek).kind = .documentEnd then
      skip
      skipDocumentEnds steps

/-- Takes the directives of a document. Each one takes the place of those before it. -/
def takeDirectives (versioned : Bool) : Nat → Build Unit
  | 0 => pure ()
  | steps + 1 => do
    let t ← peek
    match t.kind with
    | .versionDirective =>
      if versioned then refuse .repeatedVersion t.mark
      modify fun b => { b with handles := [] }
      skip
      takeDirectives true steps
    | .tagDirective handle _ =>
      modify fun b => { b with handles := [handle] }
      skip
      takeDirectives versioned steps
    | _ => pure ()

def startsExplicitly : TokenKind → Bool
  | .versionDirective | .tagDirective _ _ | .documentStart => true
  | _ => false

def isDocumentBoundary : TokenKind → Bool
  | .versionDirective | .tagDirective _ _ | .documentStart | .documentEnd | .streamEnd => true
  | _ => false

def isDirective : TokenKind → Bool
  | .versionDirective | .tagDirective _ _ => true
  | _ => false

/-- What follows a document: its end, another document, or nothing. -/
def checkDocumentEnd : Build Unit := do
  let t ← peek
  if isDirective t.kind then refuse .directiveWithoutDocumentEnd t.mark

/-- The first document, or the place of the end of a text without one. -/
def document (steps : Nat) : Build (Mark ⊕ Tree) := do
  skip
  skipDocumentEnds steps
  let t ← peek
  if t.kind = .streamEnd then return .inl t.mark
  let tree ←
    if startsExplicitly t.kind then
      takeDirectives false steps
      let t ← peek
      if t.kind ≠ .documentStart then refuse .documentStartExpected t.mark
      skip
      let t ← peek
      if isDocumentBoundary t.kind then pure (.omitted t.mark) else node true false steps
    else node true false steps
  checkDocumentEnd
  return .inr tree

end Build

namespace Tree

/-- The first document of a stream. -/
def ofStream (s : TokenStream) : Except Refusal (Mark ⊕ Tree) :=
  (Build.document (4 * s.tokens.length + 4)).run' ⟨s, [], []⟩

end Tree

end DependencyWiring.Yaml
