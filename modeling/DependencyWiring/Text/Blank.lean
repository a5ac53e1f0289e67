import DependencyWiring.Text.Pieces

/-!
# Blank characters and the lines of a text

Names, type tokens and comment lines are read after the blank characters around them are taken
away. A blank is a character with the Unicode property White_Space, so a no-break space counts
and a zero-width space does not.
-/
namespace DependencyWiring.Text

/-- The property White_Space: twenty-five characters. -/
def isBlank (c : Char) : Bool :=
  let n := c.toNat
  (0x9 ≤ n && n ≤ 0xD) || n == 0x20 || n == 0x85 || n == 0xA0 || n == 0x1680 ||
    (0x2000 ≤ n && n ≤ 0x200A) || n == 0x2028 || n == 0x2029 || n == 0x202F ||
    n == 0x205F || n == 0x3000

/-- The text without the blanks at its end. -/
def dropBlankEnd : List Char → List Char
  | [] => []
  | c :: cs =>
    match dropBlankEnd cs with
    | [] => if isBlank c then [] else [c]
    | r => c :: r

/-- The characters between the blanks at both ends. -/
def trimChars (cs : List Char) : List Char :=
  dropBlankEnd (cs.dropWhile isBlank)

/-- The text between the blanks at both ends. -/
def trim (s : String) : String :=
  String.ofList (trimChars s.toList)

/-- The lines of a text, each without the blanks around it. -/
def trimmedLines (cs : List Char) : List (List Char) :=
  (pieces '\n' cs).map trimChars

end DependencyWiring.Text
