import DependencyWiring.Text.Pieces

/-!
# Reports of test runs

The text of TAP, the Test Anything Protocol: one line for each test with its number, the reason of a
failure in comment lines under it, and the plan at the end.
-/
namespace DependencyWiring.Tap

/-- A test and, when it failed, the reason. -/
structure Test where
  name : String
  failure : Option String
  deriving DecidableEq, Repr, Inhabited

def Test.failed (t : Test) : Bool :=
  t.failure.isSome

/-- The comment lines that give a reason. -/
def reasonLines (reason : String) : List String :=
  (Text.lines reason.toList).map fun line => "  # " ++ String.ofList line

/-- The lines of the test of a number. Quiet reports leave out a test that passed. -/
def testLines (quiet : Bool) (number : Nat) (t : Test) : List String :=
  match t.failure with
  | none => if quiet then [] else [s!"ok {number} - {t.name}"]
  | some reason => s!"not ok {number} - {t.name}" :: reasonLines reason

/-- The lines of tests numbered on from a number. -/
def linesFrom (quiet : Bool) (number : Nat) : List Test → List String
  | [] => []
  | t :: ts => testLines quiet number t ++ linesFrom quiet (number + 1) ts

def failures (tests : List Test) : Nat :=
  tests.countP Test.failed

/-- The plan, and how many tests failed if any did. -/
def planLines (tests : List Test) : List String :=
  s!"1..{tests.length}" ::
    if 0 < failures tests then [s!"# {failures tests} of {tests.length} failed"] else []

/-- The lines of a report. -/
def report (quiet : Bool) (tests : List Test) : List String :=
  linesFrom quiet 1 tests ++ planLines tests

end DependencyWiring.Tap
