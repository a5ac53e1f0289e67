/-!
# Why a text is no document

A place in the text and a cause. The causes are those of the characters, of the structure that the
tokens have, and of the few features that a wiring document may not use.
-/
namespace DependencyWiring.Yaml

/-- A place in a text: how many characters stand before it, its line and its column. Lines and
columns count from zero. -/
structure Mark where
  index : Nat
  line : Nat
  column : Nat
  deriving DecidableEq, Repr, Inhabited

inductive Cause where
  | contentAfterDocumentEnd
  | invalidIndentation
  | unexpectedCharacter (c : Char)
  | keyWithoutColon
  | keyExpected
  | tabIndentation
  | commentNotSeparated
  | expectedBlank
  | directiveEnd
  | directiveName
  | directiveLetter
  | versionSeparator
  | versionTooLong
  | versionExpected
  | tagDirectiveEnd
  | tagDirectiveHandle
  | tagDirectivePrefix
  | tagStart
  | tagEnd
  | tagUnclosed
  | tagEmpty
  | tagEscape
  | tagLeadingByte
  | tagTrailingByte
  | tagCodePoint
  | anchorName
  | entryInFlow
  | entryNotAllowed
  | anchorIndentation
  | entryTab
  | keyNotAllowed
  | keyTab
  | colonTab
  | colonMisplaced
  | valueNotAllowed
  | tooDeep
  | blockIndentationZero
  | blockHeader
  | blockTab
  | blockIndentation
  | quotedDocumentMark
  | quotedUnclosed
  | quotedIndentation
  | quotedTab
  | quotedEscape
  | quotedHexDigits
  | quotedCodePoint
  | quotedTrailing
  | plainIndentation
  | plainHyphen
  | plainTab
  | documentStartExpected
  | repeatedVersion
  | directiveWithoutDocumentEnd
  | unknownAnchor
  | undeclaredHandle
  | contentExpected
  | blockKeyExpected
  | blockEntryExpected
  | flowMappingSeparator
  | flowSequenceSeparator
  | endExpected
  | keyNotScalar
  | anchorUsed
  | tagUsed
  deriving DecidableEq, Repr, Inhabited

namespace Cause

def message : Cause → String
  | contentAfterDocumentEnd => "invalid content after document end marker"
  | invalidIndentation => "invalid indentation"
  | unexpectedCharacter c => "unexpected character: `" ++ String.ofList [c] ++ "'"
  | keyWithoutColon => "simple key expect ':'"
  | keyExpected => "simple key expected"
  | tabIndentation => "tabs disallowed within this context (block indentation)"
  | commentNotSeparated => "comments must be separated from other tokens by whitespace"
  | expectedBlank => "expected whitespace"
  | directiveEnd => "while scanning a directive, did not find expected comment or line break"
  | directiveName => "while scanning a directive, could not find expected directive name"
  | directiveLetter => "while scanning a directive, found unexpected non-alphabetical character"
  | versionSeparator =>
    "while scanning a YAML directive, did not find expected digit or '.' character"
  | versionTooLong => "while scanning a YAML directive, found extremely long version number"
  | versionExpected => "while scanning a YAML directive, did not find expected version number"
  | tagDirectiveEnd => "while scanning TAG, did not find expected whitespace or line break"
  | tagDirectiveHandle => "while parsing a tag directive, did not find expected '!'"
  | tagDirectivePrefix => "invalid global tag character"
  | tagStart => "while scanning a tag, did not find expected '!'"
  | tagEnd => "while scanning a tag, did not find expected whitespace or line break"
  | tagUnclosed => "while scanning a verbatim tag, did not find the expected '>'"
  | tagEmpty => "while parsing a tag, did not find expected tag URI"
  | tagEscape => "while parsing a tag, did not find URI escaped octet"
  | tagLeadingByte => "while parsing a tag, found an incorrect leading UTF-8 octet"
  | tagTrailingByte => "while parsing a tag, found an incorrect trailing UTF-8 octet"
  | tagCodePoint => "while parsing a tag, found an invalid UTF-8 codepoint"
  | anchorName =>
    "while scanning an anchor or alias, did not find expected alphabetic or numeric character"
  | entryInFlow => "\"-\" is only valid inside a block"
  | entryNotAllowed => "block sequence entries are not allowed in this context"
  | anchorIndentation => "invalid indentation for anchor"
  | entryTab => "'-' must be followed by a valid YAML whitespace"
  | keyNotAllowed => "mapping keys are not allowed in this context"
  | keyTab => "tabs disallowed in this context"
  | colonTab => "':' must be followed by a valid YAML whitespace"
  | colonMisplaced => "illegal placement of ':' indicator"
  | valueNotAllowed => "mapping values are not allowed in this context"
  | tooDeep => "recursion limit exceeded"
  | blockIndentationZero =>
    "while scanning a block scalar, found an indentation indicator equal to 0"
  | blockHeader =>
    "while scanning a block scalar, did not find expected comment or line break"
  | blockTab => "a block scalar content cannot start with a tab"
  | blockIndentation => "wrongly indented line in block scalar"
  | quotedDocumentMark => "while scanning a quoted scalar, found unexpected document indicator"
  | quotedUnclosed => "while scanning a quoted scalar, found unexpected end of stream"
  | quotedIndentation => "invalid indentation in quoted scalar"
  | quotedTab => "tab cannot be used as indentation"
  | quotedEscape => "while parsing a quoted scalar, found unknown escape character"
  | quotedHexDigits =>
    "while parsing a quoted scalar, did not find expected hexadecimal number"
  | quotedCodePoint =>
    "while parsing a quoted scalar, found invalid Unicode character escape code"
  | quotedTrailing => "invalid trailing content after double-quoted scalar"
  | plainIndentation => "invalid indentation in flow construct"
  | plainHyphen => "plain scalar cannot start with '-' followed by ,[]\x7b\x7d"
  | plainTab => "while scanning a plain scalar, found a tab"
  | documentStartExpected => "did not find expected <document start>"
  | repeatedVersion => "duplicate version directive"
  | directiveWithoutDocumentEnd => "missing explicit document end marker before directive"
  | unknownAnchor => "while parsing node, found unknown anchor"
  | undeclaredHandle => "the handle wasn't declared"
  | contentExpected => "while parsing a node, did not find expected node content"
  | blockKeyExpected => "while parsing a block mapping, did not find expected key"
  | blockEntryExpected =>
    "while parsing a block collection, did not find expected '-' indicator"
  | flowMappingSeparator =>
    "while parsing a flow mapping, did not find expected ',' or '\x7d'"
  | flowSequenceSeparator => "while parsing a flow sequence, expected ',' or ']'"
  | endExpected => "unexpected eof"
  | keyNotScalar => "Keys in mappings must be scalar"
  | anchorUsed => "Unexpected definition of anchor"
  | tagUsed => "Unexpected use of YAML tag"

end Cause

structure Refusal where
  cause : Cause
  mark : Mark
  deriving DecidableEq, Repr, Inhabited

/-- The place and the cause. Here lines and columns count from one. -/
def Refusal.message (r : Refusal) : String :=
  s!"{r.mark.line + 1}:{r.mark.column + 1}: " ++ r.cause.message

end DependencyWiring.Yaml
