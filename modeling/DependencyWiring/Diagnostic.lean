import DependencyWiring.Diagnostic.Code
import DependencyWiring.Provenance

/-!
# Diagnostics

What is said about a document: a code, how severe it is, a message, and the place it is about. Every
way to say something takes the severity from the code.
-/
namespace DependencyWiring

structure Diagnostic where
  code : Code
  severity : Severity
  message : String
  location : String
  line : Option Nat
  deriving DecidableEq, Repr, Inhabited

namespace Diagnostic

def isError (d : Diagnostic) : Bool :=
  d.severity = .error

/-- A diagnostic about a place in the source. -/
def atOrigin (code : Code) (message : String) (o : Origin) : Diagnostic :=
  ⟨code, code.severity, message, o.location, some o.line⟩

/-- A diagnostic about an entity, or about a named location when there is no entity. -/
def about (code : Code) (message : String) (entity : Option Provenance) (location : String) :
    Diagnostic :=
  match entity with
  | some p => atOrigin code message p.origin
  | none => ⟨code, code.severity, message, location, none⟩

/-- The text shown to a reader. -/
def text (d : Diagnostic) : String :=
  s!"{d.code.name}: {d.message} (at {d.location})"

/-- How many diagnostics there are of each severity. -/
structure Summary where
  errors : Nat
  warnings : Nat
  infos : Nat
  deriving DecidableEq, Repr, Inhabited

def countOf (severity : Severity) (ds : List Diagnostic) : Nat :=
  (ds.filter fun d => d.severity = severity).length

def summary (ds : List Diagnostic) : Summary :=
  ⟨countOf .error ds, countOf .warning ds, countOf .info ds⟩

def hasErrors (ds : List Diagnostic) : Bool :=
  ds.any isError

end Diagnostic

end DependencyWiring
