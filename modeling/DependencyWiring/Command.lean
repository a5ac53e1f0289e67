import DependencyWiring.Command.Invocation
import DependencyWiring.Conformance
import DependencyWiring.Interchange.Schema
import DependencyWiring.Json.Reader

/-!
# Commands

Each command reads what it needs, decides, and answers with lines for both outputs and an exit
status: 0 when all is well, 1 when something is wrong with what it was given, and 2 for a command
line that asks for nothing.
-/
namespace DependencyWiring.Command

/-- The exit status of a command and what it prints. Every line is ended by a line feed. -/
structure Outcome where
  status : Nat
  out : List String
  err : List String
  deriving DecidableEq, Repr, Inhabited

namespace Outcome

/-- The printed form of lines. -/
def print (lines : List String) : String :=
  String.join (lines.map (· ++ "\n"))

def failed (err : List String) : Outcome := ⟨1, [], err⟩

end Outcome

/-- How a command answers. -/
structure Style where
  form : OutputForm
  quiet : Bool
  deriving DecidableEq, Repr, Inhabited

namespace Style

/-- Lines that a quiet command leaves out. -/
def unlessQuiet (s : Style) (lines : List String) : List String :=
  if s.quiet then [] else lines

/-- The line that tells why a command cannot go on. -/
def errorLines (s : Style) (message : String) : List String :=
  s.unlessQuiet
    (match s.form with
    | .text => [message]
    | .json => [(Json.object [("error", .string message)]).compact])

end Style

/-! ## Models -/

def summaryLine (m : Model) : String :=
  let s := Diagnostic.summary m.diagnostics
  s!"{s.errors} error(s), {s.warnings} warning(s), {s.infos} info(s)"

/-- The diagnostics of a model with their numbers. -/
def diagnosticsReport (m : Model) : Json :=
  let s := Diagnostic.summary m.diagnostics
  .object
    [("diagnostics", Interchange.ofDiagnostics m.diagnostics),
      ("errors", .nat s.errors),
      ("infos", .nat s.infos),
      ("warnings", .nat s.warnings)]

def diagnosticLines (ds : List Diagnostic) : List String :=
  ds.map Diagnostic.text

/-- The diagnostics of a model, and their numbers unless the command is quiet. -/
def checkOutcome (s : Style) (m : Model) : Outcome :=
  { status := if m.isGeneratable then 0 else 1
    out :=
      match s.form with
      | .text => diagnosticLines m.diagnostics ++ s.unlessQuiet [summaryLine m]
      | .json => [(diagnosticsReport m).pretty]
    err := [] }

/-- What is said of a model from which no code may be generated. -/
def rejectionLines (s : Style) (m : Model) : List String :=
  match s.form with
  | .text => s.unlessQuiet (diagnosticLines m.diagnostics ++ [summaryLine m])
  | .json => [(diagnosticsReport m).pretty]

/-- The warnings on a model, as text in either form of answers. -/
def warningLines (s : Style) (m : Model) : List String :=
  s.unlessQuiet (diagnosticLines (m.diagnostics.filter fun d => d.severity = .warning))

def documentText (m : Model) : String :=
  (Interchange.ofModel m).pretty

/-- What is said when a document was written. -/
def writtenLines (s : Style) (path : String) : List String :=
  s.unlessQuiet
    (match s.form with
    | .text => ["wrote " ++ path]
    | .json => [(Json.object [("written", .string path)]).compact])

section

variable {m : Type → Type} [Monad m] [FileSystem m]

/-- Compiles the document at a path and goes on with its model. -/
def withModel (options : Options) (s : Style) (path : String) (next : Model → m Outcome) :
    m Outcome := do
  match ← Model.ofSource FileSystem.readText options path with
  | .error e => pure (.failed (s.errorLines ("error: " ++ e.message)))
  | .ok model => next model

def check (options : Options) (s : Style) (path : String) : m Outcome :=
  withModel options s path fun model => pure (checkOutcome s model)

/-- Gives out the document of a model, which is written to a path if there is one. -/
def deliver (s : Style) (model : Model) (out : Option String) : m Outcome :=
  match out with
  | none => pure ⟨0, [documentText model], warningLines s model⟩
  | some path => do
    match ← FileSystem.write path (documentText model ++ "\n") with
    | .ok _ => pure ⟨0, writtenLines s path, warningLines s model⟩
    | .error e =>
      pure (.failed (warningLines s model ++
        s.errorLines s!"error writing '{path}': {e.message}"))

def compile (options : Options) (s : Style) (path : String) (out : Option String) : m Outcome :=
  withModel options s path fun model =>
    if model.isGeneratable then deliver s model out
    else pure (.failed (rejectionLines s model))

end

/-! ## Interchange documents -/

def validLines (s : Style) : List String :=
  s.unlessQuiet
    (match s.form with
    | .text => ["valid"]
    | .json => [(Json.object [("valid", .bool true)]).compact])

def invalidLines (s : Style) (messages : List String) : List String :=
  match s.form with
  | .text => s.unlessQuiet ("invalid wiring model" :: messages.map ("  - " ++ ·))
  | .json =>
    [(Json.object
      [("errors", .array (messages.map .string)), ("valid", .bool false)]).pretty]

/-- Checks the text of an interchange document. -/
def validateText (s : Style) (path text : String) : Outcome :=
  match Json.parse text with
  | .error reason => .failed (s.errorLines s!"error parsing JSON in '{path}': {reason}")
  | .ok v =>
    match Interchange.schema.violations v with
    | [] => ⟨0, validLines s, []⟩
    | found => .failed (invalidLines s (found.map Schema.Violation.message))

section

variable {m : Type → Type} [Monad m] [FileSystem m]

def validate (s : Style) (path : String) : m Outcome := do
  match ← FileSystem.readText path with
  | .error reason => pure (.failed (s.errorLines s!"error reading file '{path}': {reason}"))
  | .ok text => pure (validateText s path text)

/-! ## Suites -/

def test (options : Options) (quiet : Bool) (suite : String) : m Outcome := do
  if ← FileSystem.isPresent suite then
    let tests ← Conformance.tests options suite
    pure ⟨if 0 < Tap.failures tests then 1 else 0, Tap.report quiet tests, []⟩
  else pure (.failed ["error: conformance suite directory not found: " ++ suite])

end

/-! ## Codes -/

/-- A text with blanks behind it up to a width. -/
def padEnd (width : Nat) (text : String) : String :=
  text ++ String.ofList (List.replicate (width - text.length) ' ')

/-- The codes with their severities. -/
def codesOutcome (form : OutputForm) : Outcome :=
  match form with
  | .text => ⟨0, Code.all.map fun c => padEnd 40 c.name ++ " " ++ c.severity.name, []⟩
  | .json =>
    let rows := Code.all.map fun c =>
      Json.object [("code", .string c.name), ("severity", .string c.severity.name)]
    ⟨0, [(Json.array rows).pretty], []⟩

def versionLine : String := "wiregen 0.1.0"

/-! ## Runs -/

section

variable {m : Type → Type} [Monad m] [FileSystem m]

/-- Runs what a command line asks for at a moment. -/
def run (moment : Moment) (i : Invocation) : m Outcome :=
  let s : Style := ⟨i.form, i.quiet⟩
  let options : Options := ⟨Options.defaultTool, moment, i.sourceId⟩
  match i.task with
  | .check path => check options s path
  | .compile path out => compile options s path out
  | .validate path => validate s path
  | .test suite => test { options with sourceId := none } i.quiet suite
  | .codes => pure (codesOutcome i.form)
  | .version => pure ⟨0, [versionLine], []⟩

/-- What is said of a command line that asks for nothing. -/
def usage : Outcome :=
  ⟨2, [], ["error: expected check, compile, validate, test or codes with its arguments"]⟩

/-- Runs the words of a command line at a moment. -/
def runWords (moment : Moment) (words : List String) : m Outcome :=
  match Invocation.parse words with
  | none => pure usage
  | some i => run moment i

end

end DependencyWiring.Command
