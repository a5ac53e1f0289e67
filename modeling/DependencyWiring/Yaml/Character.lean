/-!
# Character classes of YAML

The end of the text is read as the null character, so a null character in a text ends it. Blanks are
space and tab, and a line ends with a carriage return, a line feed or both.
-/
namespace DependencyWiring.Yaml

def endMark : Char := Char.ofNat 0

def isEnd (c : Char) : Bool :=
  c = endMark

def isBreak (c : Char) : Bool :=
  c = '\n' || c = '\r'

def isBreakOrEnd (c : Char) : Bool :=
  isBreak c || isEnd c

def isBlank (c : Char) : Bool :=
  c = ' ' || c = '\t'

def isSeparator (c : Char) : Bool :=
  isBlank c || isBreakOrEnd c

/-- The characters that have a meaning of their own inside brackets. -/
def isFlow (c : Char) : Bool :=
  c = ',' || c = '[' || c = ']' || c = '\x7b' || c = '\x7d'

/-- Letters, digits, underscore and hyphen of ASCII. -/
def isWord (c : Char) : Bool :=
  c.isAlphanum || c = '_' || c = '-'

def isByteOrderMark (c : Char) : Bool :=
  c.toNat = 0xFEFF

/-- A character of the name of an anchor. -/
def isAnchor (c : Char) : Bool :=
  !isSeparator c && !isByteOrderMark c && !isFlow c

/-- A character of a URI. -/
def isUri (c : Char) : Bool :=
  c.isAlphanum || c = '-' || "#;/?:@&=+$,_.!~*'()[]%".toList.contains c

/-- A character of a tag behind its handle. -/
def isTag (c : Char) : Bool :=
  isUri c && !isFlow c && c ≠ '!'

/-- The value of a hexadecimal digit. -/
def hexValue? (c : Char) : Option Nat :=
  if c.isDigit then some (c.toNat - 48)
  else if 'a' ≤ c ∧ c ≤ 'f' then some (c.toNat - 87)
  else if 'A' ≤ c ∧ c ≤ 'F' then some (c.toNat - 55)
  else none

end DependencyWiring.Yaml
