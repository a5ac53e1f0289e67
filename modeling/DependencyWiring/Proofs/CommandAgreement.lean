import DependencyWiring.Command
import DependencyWiring.Proofs.PlacelessModels
import DependencyWiring.Proofs.WrittenFiles

/-!
# What commands agree on

Checking a document and compiling it come to the same verdict, a document is written only if code
may be generated from its model, and a command that fails leaves all files as they were. How a
command answers decides what it prints and nothing else.
-/
namespace DependencyWiring

/-! ## The verdict on a text -/

namespace Model

end Model

/-! ## The document at a path -/

namespace Workspace

/-- The model of the document at a path, or why there is none. -/
def compiled (w : Workspace) (options : Options) (path : String) : Except SourceError Model :=
  match Format.ofPath path with
  | none => .error (.unsupportedFormat path)
  | some format =>
    match (w.readBytes path >>= FileSystem.decode).mapError FileError.message with
    | .error reason => .error (.unreadable path reason)
    | .ok text => .ok (Model.ofText options (options.sourceId.getD path) format text)

/-- The path has the ending of a format and leads to a file that is a text, and this is the model of
that text. -/
def HasModel (w : Workspace) (options : Options) (path : String) (model : Model) : Prop :=
  ∃ format bytes text, Format.ofPath path = some format ∧ w.readBytes path = .ok bytes ∧
    String.fromUTF8? bytes = some text ∧
    model = Model.ofText options (options.sourceId.getD path) format text

theorem compiled_eq_ok {w : Workspace} {options : Options} {path : String} {model : Model} :
    w.compiled options path = .ok model ↔ w.HasModel options path model := by
  unfold compiled HasModel
  cases Format.ofPath path with
  | none => simp
  | some format =>
    cases hbytes : w.readBytes path with
    | error e => simp [bind, Except.bind, Except.mapError]
    | ok bytes =>
      cases htext : String.fromUTF8? bytes with
      | none => simp [bind, Except.bind, Except.mapError, FileSystem.decode, htext]
      | some text =>
        simp [bind, Except.bind, Except.mapError, FileSystem.decode, htext, eq_comm]

variable (w : Workspace) (options options' : Options) (path : String)

variable {options options'}

end Workspace

namespace Command

/-- What an invocation answers at a moment, and the files that it leaves. -/
def exec (moment : Moment) (i : Invocation) (w : Workspace) : Outcome × Workspace :=
  (run moment i : StateM Workspace Outcome).run w

section

variable {w : Workspace} {options : Options} {path : String} {model : Model}

theorem run_readText : (FileSystem.readText path : StateM Workspace _).run w =
    ((w.readBytes path >>= FileSystem.decode).mapError FileError.message, w) := rfl

/-- Compiling reads the document and leaves the files alone. -/
theorem run_ofSource :
    (Model.ofSource FileSystem.readText options path : StateM Workspace _).run w =
      (w.compiled options path, w) := by
  unfold Model.ofSource Workspace.compiled
  cases Format.ofPath path with
  | none => rfl
  | some format =>
    dsimp only
    rw [StateT.run_bind, run_readText]
    cases (w.readBytes path >>= FileSystem.decode).mapError FileError.message <;> rfl

end

/-- The options of a run. -/
def runOptions (moment : Moment) (sourceId : Option String) : Options :=
  ⟨Options.defaultTool, moment, sourceId⟩

section

variable (w : Workspace) (moment : Moment) (form : OutputForm) (quiet : Bool) (path : String)
  (sourceId : Option String)

end

namespace Sample

def moment : Moment := ⟨0, 0, 0⟩

def settingsText : String :=
  "\x7b\"codeGen\": \x7b\"registryClassName\": \"Registry\", " ++
    "\"generatedCodePath\": \"Generated\", \"namespaceName\": \"App.Generated\", " ++
    "\"initializerName\": \"Initialize\"\x7d\x7d\n"

/-- A directory with a document of settings alone. -/
def settings : Workspace where
  root := .directory [("wiring.json", .file settingsText.toUTF8)]
  directory := []

end Sample

end Command

end DependencyWiring
