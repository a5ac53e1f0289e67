import DependencyWiring.LogicalPath
import DependencyWiring.Moment

/-!
# Provenance

Every declared and every modelled entity carries the places it came from, one entry for each stage
that touched it. There is always a first entry, so every entity has a location.
-/
namespace DependencyWiring

/-- A place in a source. Lines and columns count from zero. -/
structure Origin where
  source : String
  line : Nat
  column : Option Nat
  path : String
  deriving DecidableEq, Repr, Inhabited

namespace Origin

/-- The place of a value that stands nowhere in the source. -/
def unknown (source : String) : Origin :=
  ⟨source, 0, none, LogicalPath.unknown⟩

/-- The source and the logical path. -/
def location (o : Origin) : String :=
  o.source ++ "#" ++ o.path

end Origin

/-- The stages that leave an entry: reading the document and building the model. -/
inductive Stage where
  | extract
  | transform
  deriving DecidableEq, Repr, Inhabited

namespace Stage

def name : Stage → String
  | extract => "extract"
  | transform => "transform"

def other : Stage → Stage
  | extract => transform
  | transform => extract

end Stage

/-- What an entry says beside its place: the stage, the tool and the time of the run. -/
structure Stamp where
  stage : Stage
  tool : String
  moment : Moment
  deriving DecidableEq, Repr, Inhabited

/-- A place, stamped. -/
structure ProvenanceEntry where
  origin : Origin
  stamp : Stamp
  deriving DecidableEq, Repr, Inhabited

/-- The entries of one entity in the order in which they were made. -/
structure Provenance where
  first : ProvenanceEntry
  later : List ProvenanceEntry
  deriving DecidableEq, Repr, Inhabited

namespace Provenance

/-- The version of the layout of provenance in documents. -/
def formatVersion : Nat := 1

def entries (p : Provenance) : List ProvenanceEntry :=
  p.first :: p.later

def length (p : Provenance) : Nat :=
  p.entries.length

def latest (p : Provenance) : ProvenanceEntry :=
  p.later.getLast?.getD p.first

/-- The place of the entity, as the latest entry gives it. -/
def origin (p : Provenance) : Origin :=
  p.latest.origin

def location (p : Provenance) : String :=
  p.origin.location

/-- The same provenance with one entry more. -/
def append (p : Provenance) (e : ProvenanceEntry) : Provenance :=
  ⟨p.first, p.later ++ [e]⟩

@[simp] theorem entries_append (p : Provenance) (e : ProvenanceEntry) :
    (p.append e).entries = p.entries ++ [e] := rfl

@[simp] theorem latest_append (p : Provenance) (e : ProvenanceEntry) :
    (p.append e).latest = e := by
  simp [append, latest]

end Provenance

namespace Stamp

/-- The same run at another stage. -/
def atStage (s : Stamp) (stage : Stage) : Stamp :=
  { s with stage := stage }

/-- A provenance of one entry. -/
def start (s : Stamp) (o : Origin) : Provenance :=
  ⟨⟨o, s⟩, []⟩

/-- One entry more at the place where the entity already is. -/
def extend (s : Stamp) (p : Provenance) : Provenance :=
  p.append ⟨p.origin, s⟩

@[simp] theorem origin_start (s : Stamp) (o : Origin) : (s.start o).origin = o := rfl

@[simp] theorem origin_extend (s : Stamp) (p : Provenance) : (s.extend p).origin = p.origin := by
  simp [extend, Provenance.origin]

end Stamp

end DependencyWiring
