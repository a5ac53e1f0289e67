import DependencyWiring.Conformance.Tap
import DependencyWiring.FileSystem
import DependencyWiring.Model.Compilation
import DependencyWiring.Text.Sorted

/-!
# Conformance suites

A suite is a directory with documents that must compile without errors in `positive`, and documents
in `negative` that must give exactly the diagnostic codes listed in the file beside each of them.
-/
namespace DependencyWiring.Conformance

/-- A file counts as a document by the ending of its name, in lower case only. -/
def isDocumentName (name : String) : Bool :=
  match Path.extension? name with
  | some ending => ["yaml", "yml", "json"].contains ending
  | none => false

/-- The name of the file that lists the codes of a document. A name that is two dots once its ending
is taken off names the directory above, which takes no ending. -/
def expectedName (name : String) : String :=
  match Path.splitExtension name.toList with
  | some (before, _) =>
    if before = ['.'] then ".." else String.ofList before ++ ".expected"
  | none => name ++ ".expected"

/-- The codes that a file lists: its lines that are neither empty nor a comment. -/
def expectedCodes (text : String) : List String :=
  ((Text.trimmedLines text.toList).filter fun line => line ≠ [] && line.head? ≠ some '#').map
    String.ofList

def codesOf (m : Model) : List String :=
  m.diagnostics.map fun d => d.code.name

def joinLines (lines : List String) : String :=
  "\n".intercalate lines

/-- Why a document that must compile did not, if it did not. -/
def positiveFailure : Except SourceError Model → Option String
  | .error e => some e.message
  | .ok m =>
    if m.isGeneratable then none
    else some ("unexpected errors:\n" ++ joinLines (m.diagnostics.map Diagnostic.text))

/-- Why a document did not give the expected errors, if it did not. -/
def negativeFailure (expected : List String) : Except SourceError Model → Option String
  | .error e => some e.message
  | .ok m =>
    if m.isGeneratable then some "expected errors but compilation succeeded"
    else if codesOf m = expected then none
    else
      some ("diagnostic mismatch:\n--- expected\n" ++ joinLines expected ++ "\n+++ got\n" ++
        joinLines (codesOf m))

variable {m : Type → Type} [Monad m] [FileSystem m] (options : Options)

def compile (path : String) : m (Except SourceError Model) :=
  Model.ofSource FileSystem.readText options path

/-- The names of the documents in a directory in order. -/
def documentNames (directory : String) : m (List String) := do
  let names ← FileSystem.entryNames directory
  pure (Text.sortedDistinct (names.filter isDocumentName))

def positiveTest (directory name : String) : m Tap.Test := do
  let result ← compile options (Path.child directory name)
  pure ⟨"positive/" ++ name, positiveFailure result⟩

def negativeOutcome (path expectedPath : String) : m (Option String) := do
  if ← FileSystem.isPresent expectedPath then
    match ← FileSystem.readText expectedPath with
    | .error reason =>
      pure (some s!"failed to read expected file: cannot read {expectedPath}: {reason}")
    | .ok text =>
      let result ← compile options path
      pure (negativeFailure (expectedCodes text) result)
  else pure (some ("missing expected file: " ++ expectedPath))

def negativeTest (directory name : String) : m Tap.Test := do
  let failure ← negativeOutcome options (Path.child directory name)
    (Path.child directory (expectedName name))
  pure ⟨"negative/" ++ name, failure⟩

/-- The tests of one part of a suite. -/
def partTests (test : String → String → m Tap.Test) (directory : String) :
    m (List Tap.Test) := do
  let names ← documentNames directory
  names.mapM (test directory)

/-- The tests of a suite. -/
def tests (suite : String) : m (List Tap.Test) := do
  let positive ← partTests (positiveTest options) (Path.child suite "positive")
  let negative ← partTests (negativeTest options) (Path.child suite "negative")
  pure (positive ++ negative)

end DependencyWiring.Conformance
