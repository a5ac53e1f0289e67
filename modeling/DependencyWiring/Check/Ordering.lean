import DependencyWiring.Check.Scope

/-!
# Order of instances

An instance may refer only to instances declared before it. A cycle of references always has a
reference that goes forward, so every cycle is noted too.
-/
namespace DependencyWiring.Check

/-- The note on a wiring of the instance at a position. -/
def orderNotes (s : Scope) (i : Nat) (inst : NamedInstance) (w : Wiring × Provenance) :
    List Note :=
  match w.1 with
  | .value _ => []
  | .instanceOf target =>
    if !isLookedUp target then []
    else
      match s.index.instancePosition? target with
      | none => [noteOn (.missingInstance inst.name target) w.2]
      | some j => if i ≤ j then [noteOn (.laterInstance inst.name target) w.2] else []

def orderingNotes (s : Scope) : List Note :=
  s.model.namedInstances.zipIdx.flatMap fun (inst, i) =>
    if inst.isPlaceholder then [] else inst.wirings.flatMap (orderNotes s i inst)

end DependencyWiring.Check
