/-!
# Patterns of texts

A pattern is a row of parts, each of which takes one character of a set or several. A text matches
when the parts take all of it.
-/
namespace DependencyWiring.Schema

/-- A set of characters: ranges of which the ends belong to it. -/
abbrev CharSet := List (Char × Char)

namespace CharSet

def single (c : Char) : CharSet := [(c, c)]

def digits : CharSet := [('0', '9')]

def upperCase : CharSet := [('A', 'Z')]

def letters : CharSet := [('A', 'Z'), ('a', 'z')]

def has (set : CharSet) (c : Char) : Bool :=
  set.any fun r => r.1 ≤ c && c ≤ r.2

/-- The set as it is written in a pattern. A single dot is written behind a backslash. -/
def text : CharSet → String
  | [(a, b)] =>
    if a = b then String.ofList (if a = '.' then ['\\', '.'] else [a])
    else String.ofList ['[', a, '-', b, ']']
  | set => String.ofList ('[' :: set.flatMap (fun r => [r.1, '-', r.2]) ++ [']'])

end CharSet

/-- One part of a pattern. -/
inductive Part where
  | one (set : CharSet)
  | oneOrMore (set : CharSet)
  deriving DecidableEq, Repr, Inhabited

abbrev Pattern := List Part

namespace Pattern

/-- Whether the parts take the whole text. -/
def accepts : Pattern → List Char → Bool
  | [], cs => cs.isEmpty
  | _ :: _, [] => false
  | .one set :: ps, c :: cs => set.has c && accepts ps cs
  | .oneOrMore set :: ps, c :: cs =>
    set.has c && (accepts ps cs || accepts (.oneOrMore set :: ps) cs)
termination_by structural _ cs => cs

def partText : Part → String
  | .one set => set.text
  | .oneOrMore set => set.text ++ "+"

/-- The pattern as it is written, from the start to the end of a text. -/
def text (p : Pattern) : String :=
  "^" ++ String.join (p.map partText) ++ "$"

end Pattern

end DependencyWiring.Schema
