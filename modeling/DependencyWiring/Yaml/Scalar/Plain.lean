import DependencyWiring.Yaml.Scalar.Folding

/-!
# Plain scalars

A plain scalar has no quotes. It ends before a colon with a separator behind it, before a comment,
and inside brackets before every character that has a meaning there. It goes on over the following
lines as long as they are indented.
-/
namespace DependencyWiring.Yaml.Plain

/-- Whether a character, with those behind it, belongs to a plain scalar. -/
def continues (flow : Bool) (c : Char) (behind : List Char) : Bool :=
  let next := behind.headD endMark
  if isSeparator c then false
  else if c = ':' then !(isSeparator next || (flow && isFlow next))
  else !(flow && isFlow c)

/-- The characters up to the next blank or the end of the scalar. -/
def word (flow : Bool) : List Char → List Char
  | [] => []
  | c :: cs => if continues flow c cs then c :: word flow cs else []

/-- What was read of a scalar. The text is kept backwards. -/
structure Progress where
  text : List Char
  gap : Gap
  cursor : Cursor
  deriving Repr, Inhabited

/-- Takes a word, after the gap before it. -/
def takeWord (flow : Bool) (p : Progress) : Progress :=
  let w := word flow p.cursor.rest
  if w = [] then p
  else
    let between := if p.cursor.fresh then p.gap.folded else p.gap.blanks
    ⟨w.reverse ++ (between.reverse ++ p.text), .none, p.cursor.take w.length⟩

/-- Takes the blanks and line breaks behind a word. A tab may not indent content. -/
def takeGap (indent : Int) (start : Mark) : Nat → Progress → Except Refusal Progress
  | 0, p => .ok p
  | steps + 1, p =>
    let c := p.cursor
    if isBlank c.char then
      if !c.fresh then
        takeGap indent start steps
          { p with
            gap := { p.gap with blanks := p.gap.blanks ++ [c.char] }
            cursor := c.advance 1 }
      else if c.mark.column < indent && c.char = '\t' then
        match c.takeBlanks true with
        | .error e => .error e
        | .ok (next, _) =>
          if isBreakOrEnd next.char then takeGap indent start steps { p with cursor := next }
          else .error ⟨.plainTab, start⟩
      else takeGap indent start steps { p with cursor := c.advance 1 }
    else if isBreak c.char then
      let gap : Gap :=
        if c.fresh then { p.gap with empties := p.gap.empties + 1 }
        else { p.gap with blanks := [], broken := true }
      takeGap indent start steps { p with gap := gap, cursor := c.takeBreak }
    else .ok p

/-- Takes words and gaps in turn. -/
def takeLines (flow : Bool) (indent : Int) (start : Mark) : Nat → Progress → Except Refusal Progress
  | 0, p => .ok p
  | steps + 1, p =>
    let c := p.cursor
    if c.atDocumentMark || c.char = '#' then .ok p
    else if flow && c.char = '-' && isFlow (c.ahead 1) then .error ⟨.plainHyphen, c.mark⟩
    else
      let p := takeWord flow p
      if !(isBlank p.cursor.char || isBreak p.cursor.char) then .ok p
      else
        match takeGap indent start p.cursor.bound p with
        | .error e => .error e
        | .ok p =>
          if !flow && p.cursor.mark.column < indent then .ok p
          else takeLines flow indent start steps p

/-- Reads a plain scalar whose lines are indented by at least the given column. -/
def read (flow : Bool) (indent : Int) (c : Cursor) : Except Refusal (String × Cursor) :=
  if flow && c.mark.column < indent then .error ⟨.plainIndentation, c.mark⟩
  else do
    let p ← takeLines flow indent c.mark c.bound ⟨[], .none, c⟩
    return (String.ofList p.text.reverse, p.cursor)

end DependencyWiring.Yaml.Plain
