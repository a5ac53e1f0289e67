import DependencyWiring.Proofs.AcceptedDocuments
import DependencyWiring.Proofs.ChartedModel
import DependencyWiring.Proofs.KeptDeclarations

/-!
# Located diagnostics

A diagnostic names a place of the document: that of a node by the path of its trail, or that of a
mapping by the path of a key, which the mapping holds or lacks. These places are a chart, so
reading, building and checking name no others.
-/
namespace DependencyWiring

/-! ## Places in a document -/

namespace Node

variable {root : Node}

/-- A node is at its own position, and a key is looked for at that of the mapping. -/
inductive Locates (root : Node) : Trail → Position → Prop
  | node {trail : Trail} {n : Node} : root.Reaches trail n → root.Locates trail n.position
  | key {trail : Trail} {entries : List (String × Node)} {position : Position} (name : String) :
      root.Reaches trail (.mapping entries position) →
      root.Locates (trail ++ [.key name]) position

/-- A trail of this path leads to the node. Only the root is called so, though a key may be too. -/
def StandsAt (root n : Node) (path : String) : Prop :=
  ∃ trail, root.Reaches trail n ∧ Trail.path trail = path ∧ (path = LogicalPath.root → trail = [])

theorem standsAt_root (root : Node) : root.StandsAt root LogicalPath.root :=
  ⟨[], .here root, rfl, fun _ => rfl⟩

theorem standsAt_of_declared {s : Slot} {n : Node} (h : root.declared? s = some n) :
    root.StandsAt n s.path := by
  have hfollow : root.follow s.trail = some n := by
    cases s with
    | element i j =>
      rw [declared?] at h
      split at h
      · exact absurd h (by simp)
      · exact h
    | _ => exact h
  refine ⟨s.trail, reaches_of_follow hfollow, rfl, fun hroot => ?_⟩
  rw [Slot.trail, (Trail.path_ofKeys_cases s.keys).2 hroot]
  rfl

end Node

/-- The origin is a place in the document that a trail of its path locates. -/
def Origin.PointsInto (o : Origin) (source : String) (root : Node) : Prop :=
  ∃ trail position, root.Locates trail position ∧
    o = ⟨source, position.line, position.column, Trail.path trail⟩

namespace Declared.Reading

variable (r : Reading) {root : Node}

theorem pointsInto_of_standsAt {n : Node} {path : String} (h : root.StandsAt n path) :
    (r.origin n path).PointsInto r.source root := by
  obtain ⟨trail, hreaches, rfl, -⟩ := h
  exact ⟨trail, n.position, .node hreaches, rfl⟩

theorem pointsInto_key {entries : List (String × Node)} {position : Position} {path : String}
    (h : root.StandsAt (.mapping entries position) path) (name : String) :
    (r.origin (.mapping entries position) (LogicalPath.key path name)).PointsInto r.source
      root := by
  obtain ⟨trail, hreaches, rfl, hroot⟩ := h
  refine ⟨trail ++ [.key name], position, .key name hreaches, ?_⟩
  rw [Trail.path_key hroot]
  rfl

/-- What stands in the document is a chart of all its places. -/
theorem charts_document (root : Node) :
    r.Charts root.StandsAt fun o => o.PointsInto r.source root where
  place h := r.pointsInto_of_standsAt h
  owner := by
    intro n path entries name h he
    cases n with
    | mapping => exact r.pointsInto_key h name
    | sequence => simp [Node.entries?] at he
    | scalar => simp [Node.entries?] at he
  value := by
    intro n v path name entries h he hmem
    obtain ⟨trail, hreaches, rfl, hroot⟩ := h
    cases n with
    | mapping entries' position =>
      obtain rfl := Option.some.inj he
      have hvalue := hreaches.append (.key hmem (.here v))
      refine ⟨trail ++ [.key name], v.position, .node hvalue, ?_⟩
      rw [Trail.path_key hroot]
      rfl
    | sequence => simp [Node.entries?] at he
    | scalar => simp [Node.entries?] at he
  child := by
    intro n v path name h hv hkey
    obtain ⟨trail, hreaches, rfl, hroot⟩ := h
    obtain ⟨entries, position, rfl, hmem⟩ := Node.mem_entries_of_get hv
    exact ⟨trail ++ [.key name], hreaches.append (.key hmem (.here v)), Trail.path_key hroot name,
      fun h => absurd h hkey⟩
  item := by
    intro n v path name index h hv
    obtain ⟨trail, hreaches, rfl, hroot⟩ := h
    rw [Node.getElem_listed] at hv
    exact ⟨trail ++ [.key name, .item index], hreaches.append (Node.reaches_of_follow hv),
      Trail.path_item hroot name index, fun h => absurd h (LogicalPath.item_ne_root _ _ _)⟩

end Declared.Reading

/-! ## Places of diagnostics -/

namespace Model

variable (options : Options) (source : String) {root : Node} {entries : List (String × Node)}

theorem pointsInto_of_standsAt {n : Node} {path : String} (h : root.StandsAt n path) :
    (options.trace source n path).origin.PointsInto source root :=
  (options.reading source).pointsInto_of_standsAt h

theorem pointsInto_codeGen (he : root.entries? = some entries) :
    (options.trace source ((root.get? "codeGen").getD root)
      (LogicalPath.key LogicalPath.root "codeGen")).origin.PointsInto source root := by
  have hchart := (options.reading source).charts_document root
  have hroot := Node.standsAt_root root
  cases hv : root.get? "codeGen" with
  | none => exact hchart.owner "codeGen" hroot he
  | some v => exact hchart.place (hchart.child hroot hv (by decide))

theorem pointsInto_of_mem_provenances (he : root.entries? = some entries) {p : Provenance}
    (hp : p ∈ (build (options.stamp .transform)
      ((options.reading source).readRoot root entries).value).value.provenances) :
    p.origin.PointsInto source root := by
  rcases trace_of_mem_provenances options source hp with rfl | rfl | ⟨s, n, hn, rfl⟩
  · exact pointsInto_of_standsAt options source (Node.standsAt_root root)
  · exact pointsInto_codeGen options source he
  · exact pointsInto_of_standsAt options source (Node.standsAt_of_declared hn)

theorem pointsInto_of_readDocument {declared : Report Declared.Model}
    (h : (options.reading source).readDocument root = .ok declared) :
    Note.AllAt (declared.notes ++ (judge options declared.value).built ++
      (judge options declared.value).checked) fun o => o.PointsInto source root := by
  obtain ⟨entries, he, rfl⟩ := Declared.Reading.eq_readRoot_of_readDocument _ h
  have hchart := (options.reading source).charts_document root
  have hgives := hchart.gives_readRoot (Node.standsAt_root root) he
  refine .append (.append hgives.notes (gives_build hgives.value).notes) ?_
  exact Check.allAt_notes (fun p hp => pointsInto_of_mem_provenances options source he hp)
    hgives.value

theorem exists_notes_ofNode (root : Node) :
    ∃ notes, Note.AllAt notes (fun o => o.PointsInto source root) ∧
      (ofNode options source root).diagnostics = notes.map Note.diagnostic := by
  cases hread : (options.reading source).readDocument root with
  | error cause =>
    rw [ofNode_of_error hread]
    refine ⟨[cause], .single ?_, rfl⟩
    rw [(Declared.Reading.cause_of_readDocument _ hread).2.1]
    exact Declared.Reading.pointsInto_of_standsAt _ (Node.standsAt_root root)
  | ok declared =>
    rw [ofNode_of_ok hread]
    exact ⟨_, pointsInto_of_readDocument options source hread, rfl⟩

/-- Every diagnostic names a place of the document: its location ends with the path of a trail, and
its line is that of the node that the trail reaches or, when the trail ends with a key, that of the
mapping that holds or lacks this key. -/
theorem ofNode_locatesDiagnostics (root : Node) {d : Diagnostic}
    (hd : d ∈ (ofNode options source root).diagnostics) :
    ∃ trail position, root.Locates trail position ∧
      d.location = source ++ "#" ++ Trail.path trail ∧ d.line = some position.line := by
  obtain ⟨notes, hnotes, hdiagnostics⟩ := exists_notes_ofNode options source root
  rw [hdiagnostics] at hd
  obtain ⟨n, hn, rfl⟩ := List.mem_map.mp hd
  obtain ⟨trail, position, hlocates, horigin⟩ := hnotes n hn
  refine ⟨trail, position, hlocates, ?_, ?_⟩
  · exact congrArg Origin.location horigin
  · exact congrArg (fun o => some o.line) horigin

end Model

namespace Sample

/-- A class on a line of its own, without its list of parameters. -/
def bareClass : Node :=
  .mapping [("className", .scalar "Node" ⟨5, some 19⟩)] ⟨5, some 8⟩

def bareTypes : Node :=
  mapping [("codeGen", codeGen), ("namespaces", sequence [mapping
    [("namespaceName", text "App"), ("classes", sequence [bareClass])]])]

def parametersMissing : Note :=
  ⟨.missingKey .classType "initializerParameters",
    ⟨"types", 5, some 8, "namespaces[0].classes[0].initializerParameters"⟩⟩

theorem parametersMissing_mem :
    parametersMissing.diagnostic ∈ (Model.ofNode options "types" bareTypes).diagnostics := by
  decide +kernel

end Sample

namespace Model

/-- A key that is lacking is reported on the line of the class that lacks it. -/
theorem bareTypes_locatesDiagnostics :
    Sample.parametersMissing.diagnostic ∈
      (ofNode Sample.options "types" Sample.bareTypes).diagnostics ∧
    ∃ trail position, Sample.bareTypes.Locates trail position ∧
      Sample.parametersMissing.diagnostic.location = "types" ++ "#" ++ Trail.path trail ∧
      Sample.parametersMissing.diagnostic.line = some position.line :=
  ⟨Sample.parametersMissing_mem,
    ofNode_locatesDiagnostics Sample.options "types" Sample.bareTypes Sample.parametersMissing_mem⟩

end Model

end DependencyWiring
