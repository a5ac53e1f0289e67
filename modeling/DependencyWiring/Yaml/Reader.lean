import DependencyWiring.Node
import DependencyWiring.Yaml.Tree

/-!
# Reading a document tree from YAML

A wiring document uses a part of YAML: its root is a mapping, keys are scalars, and no node has an
anchor or a tag. A repeated key keeps its last value and takes the last place. A text without a
document is an empty mapping.
-/
namespace DependencyWiring.Yaml

/-- Why a text gives no document tree. -/
inductive ReadError where
  | refused (r : Refusal)
  | rootNotMapping (position : Position)
  deriving DecidableEq, Repr

def Mark.position (m : Mark) : Position :=
  ⟨m.line, some m.column⟩

namespace Tree

/-- No scalar may have a property. The anchor is refused first. -/
def checkScalar (p : Properties) (mark : Mark) : Except Refusal Unit :=
  if p.anchor then .error ⟨.anchorUsed, mark⟩
  else if p.tag then .error ⟨.tagUsed, mark⟩
  else .ok ()

/-- No sequence and no mapping may have a property. The tag is refused first. -/
def checkCollection (p : Properties) (mark : Mark) : Except Refusal Unit :=
  if p.tag then .error ⟨.tagUsed, mark⟩
  else if p.anchor then .error ⟨.anchorUsed, mark⟩
  else .ok ()

/-- The text of a key. -/
def keyText : Tree → Except Refusal String
  | scalar text p m => (checkScalar p m).map fun _ => text
  | sequence _ p m => (checkCollection p m).bind fun _ => .error ⟨.keyNotScalar, m⟩
  | mapping _ p m => (checkCollection p m).bind fun _ => .error ⟨.keyNotScalar, m⟩
  | anchorRef m => .error ⟨.anchorUsed, m⟩

/-- Puts an entry last, in place of an earlier entry of the same key. -/
def insertLast (key : String) (value : Node) (entries : List (String × Node)) :
    List (String × Node) :=
  entries.filter (fun e => e.1 ≠ key) ++ [(key, value)]

mutual

/-- The document tree of a tree without properties whose keys are scalars. -/
def toNode : Tree → Except Refusal Node
  | scalar text p m => (checkScalar p m).map fun _ => .scalar text m.position
  | sequence items p m => do
    checkCollection p m
    return .sequence (← toNodes items) m.position
  | mapping entries p m => do
    checkCollection p m
    return .mapping (← toEntries [] entries) m.position
  | anchorRef m => .error ⟨.anchorUsed, m⟩

def toNodes : List Tree → Except Refusal (List Node)
  | [] => .ok []
  | t :: ts => do
    let n ← toNode t
    return n :: (← toNodes ts)

def toEntries (read : List (String × Node)) :
    List (Tree × Tree) → Except Refusal (List (String × Node))
  | [] => .ok read
  | (k, v) :: es => do
    let key ← keyText k
    let value ← toNode v
    toEntries (insertLast key value read) es

end

/-- The root must be a mapping. -/
def toRoot : Tree → Except ReadError Node
  | mapping entries p m => (toNode (mapping entries p m)).mapError .refused
  | scalar _ p m =>
    ((checkScalar p m).mapError .refused).bind fun _ => .error (.rootNotMapping m.position)
  | sequence _ p m =>
    ((checkCollection p m).mapError .refused).bind fun _ => .error (.rootNotMapping m.position)
  | anchorRef m => .error (.refused ⟨.anchorUsed, m⟩)

end Tree

/-- Reads the first document of a text. -/
def read (cs : List Char) : Except ReadError Node :=
  match Tree.ofStream (TokenStream.ofText cs) with
  | .error e => .error (.refused e)
  | .ok (.inl mark) => .ok (.mapping [] mark.position)
  | .ok (.inr tree) => tree.toRoot

end DependencyWiring.Yaml
