import DependencyWiring.Check
import DependencyWiring.Declared.Reader
import DependencyWiring.Document
import DependencyWiring.Model.Builder
import DependencyWiring.Path

/-!
# From documents to models

Compiling never fails on a document: what is wrong with it is said by the diagnostics of the model.
A document of which nothing can be read gives a model without declarations and one diagnostic. Only
a document that cannot be had at all gives no model.
-/
namespace DependencyWiring

/-- What a run writes into provenance, and the identifier that replaces the path of a source. -/
structure Options where
  tool : String
  moment : Moment
  sourceId : Option String
  deriving DecidableEq, Repr, Inhabited

namespace Options

/-- The name of the tool unless another is given. -/
def defaultTool : String := "wiregen/0.1.0"

def stamp (o : Options) (stage : Stage) : Stamp :=
  ⟨stage, o.tool, o.moment⟩

end Options

/-- Why there is no document to compile. -/
inductive SourceError where
  | unsupportedFormat (path : String)
  | unreadable (path reason : String)
  deriving DecidableEq, Repr

namespace SourceError

def message : SourceError → String
  | unsupportedFormat path =>
    s!"unsupported source format for {path}: expected .yaml, .yml or .json"
  | unreadable path reason => s!"cannot read {path}: {reason}"

end SourceError

/-- The format that the ending of a path tells, in any case of letters. -/
def Format.ofPath (path : String) : Option Format := do
  let ending ← Path.extension? path
  let lower := String.ofList (ending.toList.map Char.toLower)
  if lower = "yaml" ∨ lower = "yml" then some .yaml
  else if lower = "json" then some .json
  else none

namespace Model

/-- The place of a document as a whole when its text gives none. -/
def rootOrigin (source : String) : Origin :=
  ⟨source, 0, none, LogicalPath.root⟩

/-- The model of a document of which nothing could be read. -/
def refused (options : Options) (source : String) (cause : Note) : Model :=
  let provenance := (options.stamp .extract).start (rootOrigin source)
  { source
    codeGen :=
      { registryClassName := Placeholder.missing "registryClassName"
        generatedCodePath := Placeholder.missing "generatedCodePath"
        namespaceName := Placeholder.missing "namespaceName"
        initializerName := Placeholder.missing "initializerName"
        packageReferences := []
        provenance }
    namespaces := []
    namedInstances := []
    provenance
    diagnostics := [cause.diagnostic] }

/-- The model of declarations without diagnostics, and the notes of building and of checking it. -/
structure Judged where
  model : Model
  built : List Note
  checked : List Note
  deriving Repr, Inhabited

/-- Builds the model of declarations and checks it. -/
def judge (options : Options) (declared : Declared.Model) : Judged :=
  let built := build (options.stamp .transform) declared
  { model := built.value
    built := built.notes
    checked := Check.notes ⟨built.value, declared, Declared.Index.ofModel declared⟩ }

/-- The model of declarations with all diagnostics on them, after the notes made before. -/
def ofDeclared (options : Options) (declared : Declared.Model) (before : List Note) : Model :=
  let judged := judge options declared
  { judged.model with
    diagnostics := (before ++ judged.built ++ judged.checked).map Note.diagnostic }

/-- The model of a document tree. -/
def ofNode (options : Options) (source : String) (root : Node) : Model :=
  match (Declared.Reading.mk source (options.stamp .extract)).readDocument root with
  | .error cause => refused options source cause
  | .ok declared => ofDeclared options declared.value declared.notes

/-- What is said of a text that gives no document tree. -/
def syntaxNote (source : String) : SyntaxError → Note
  | .malformed reason => ⟨.unreadableText reason, rootOrigin source⟩
  | .rootNotMapping p => ⟨.rootNotMapping none, ⟨source, p.line, p.column, LogicalPath.root⟩⟩

/-- The model of a text. -/
def ofText (options : Options) (source : String) (format : Format) (text : String) : Model :=
  if isBlankText text then refused options source ⟨.emptyDocument, rootOrigin source⟩
  else
    match Node.parse format text with
    | .ok root => ofNode options source root
    | .error e => refused options source (syntaxNote source e)

/-- The model of the document at a path, which `read` gives or says why not. -/
def ofSource {m : Type → Type} [Monad m] (read : String → m (Except String String))
    (options : Options) (path : String) : m (Except SourceError Model) := do
  match Format.ofPath path with
  | none => pure (.error (.unsupportedFormat path))
  | some format =>
    match ← read path with
    | .error reason => pure (.error (.unreadable path reason))
    | .ok text => pure (.ok (ofText options (options.sourceId.getD path) format text))

end Model

end DependencyWiring
