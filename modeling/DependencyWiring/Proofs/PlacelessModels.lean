import DependencyWiring.Proofs.ComparedChecks
import DependencyWiring.Proofs.ComparedReading
import DependencyWiring.Proofs.FaithfulDocuments
import DependencyWiring.Proofs.LocatedDiagnostics

/-!
# Models without places

The positions of nodes, the name of the source, the tool and the time of a run are written into
provenance and into the places of diagnostics, and nothing else depends on them. Every run is
compared here with the one in which all of these are blank, so that any two runs on trees that
differ only in positions are compared with each other.
-/
namespace DependencyWiring

/-! ## Trees and places without positions -/

namespace Node

mutual

/-- The tree without the positions of its nodes. -/
def placeless : Node → Node
  | mapping entries _ => .mapping (placelessEntries entries) nowhere
  | sequence items _ => .sequence (placelessItems items) nowhere
  | scalar text _ => .scalar text nowhere

def placelessItems : List Node → List Node
  | [] => []
  | n :: items => n.placeless :: placelessItems items

def placelessEntries : List (String × Node) → List (String × Node)
  | [] => []
  | (key, n) :: entries => (key, n.placeless) :: placelessEntries entries

end

theorem placelessItems_eq_map (items : List Node) :
    placelessItems items = items.map placeless := by
  induction items with
  | nil => rfl
  | cons n items ih => rw [placelessItems, ih, List.map_cons]

theorem placelessEntries_eq_map (entries : List (String × Node)) :
    placelessEntries entries = entries.map fun e => (e.1, e.2.placeless) := by
  induction entries with
  | nil => rfl
  | cons e entries ih => rw [placelessEntries, ih, List.map_cons]

@[simp] theorem position_placeless (n : Node) : n.placeless.position = nowhere := by
  cases n <;> rfl

@[simp] theorem shape_placeless (n : Node) : n.placeless.shape = n.shape := by
  cases n <;> rfl

@[simp] theorem text_placeless (n : Node) : n.placeless.text? = n.text? := by
  cases n <;> rfl

theorem entries_placeless (n : Node) :
    n.placeless.entries? = n.entries?.map (List.map fun e => (e.1, e.2.placeless)) := by
  cases n with
  | mapping entries => exact congrArg some (placelessEntries_eq_map entries)
  | sequence => rfl
  | scalar => rfl

theorem items_placeless (n : Node) : n.placeless.items? = n.items?.map (List.map placeless) := by
  cases n with
  | mapping => rfl
  | sequence items => exact congrArg some (placelessItems_eq_map items)
  | scalar => rfl

theorem lookup_placeless (key : String) (entries : List (String × Node)) :
    lookup key (entries.map fun e => (e.1, e.2.placeless)) =
      (lookup key entries).map placeless := by
  induction entries with
  | nil => rfl
  | cons e entries ih =>
    rw [List.map_cons, lookup, lookup, ih]
    split <;> rfl

theorem get_placeless (n : Node) (key : String) :
    n.placeless.get? key = (n.get? key).map placeless := by
  rw [get?, get?, entries_placeless]
  cases n.entries? with
  | none => rfl
  | some entries => exact lookup_placeless key entries

end Node

/-- Only the logical path is left of a place. -/
def Origin.placeless (o : Origin) : Origin :=
  ⟨"", 0, none, o.path⟩

/-- Only the logical path and the stage are left of an entry. -/
def ProvenanceEntry.placeless (e : ProvenanceEntry) : ProvenanceEntry :=
  ⟨e.origin.placeless, ⟨e.stamp.stage, "", .epoch⟩⟩

def Provenance.placeless (p : Provenance) : Provenance :=
  ⟨p.first.placeless, p.later.map ProvenanceEntry.placeless⟩

def Note.placeless (n : Note) : Note :=
  ⟨n.finding, n.origin.placeless⟩

/-- All that tells places and runs apart is erased. -/
def Relocation.placeless : Relocation where
  source _ := ""
  origin := Origin.placeless
  provenance := Provenance.placeless
  origin_provenance p := by
    obtain ⟨first, later⟩ := p
    simp only [Provenance.placeless, Provenance.origin, Provenance.latest, List.getLast?_map]
    cases later.getLast? <;> rfl

def Comparison.placeless : Comparison where
  toRelocation := .placeless
  notes as bs := bs = as.map Note.placeless
  nil := rfl
  append has hbs := by rw [has, hbs, List.map_append]
  single _ _ := rfl

/-- The run that leaves no trace of itself. -/
def Options.blank : Options := ⟨"", .epoch, none⟩

theorem Relocation.placeless_carries (options : Options) (stage : Stage) :
    Relocation.placeless.Carries (options.stamp stage) (Options.blank.stamp stage) := by
  intro p
  have horigin := Relocation.placeless.origin_provenance p
  simp only [Stamp.extend, Provenance.append, Relocation.placeless] at horigin ⊢
  rw [horigin]
  simp [Provenance.placeless, ProvenanceEntry.placeless, Options.stamp, Options.blank]

/-! ## The blank run -/

namespace Declared.Reading

/-- Every reading is compared with the blank one. -/
theorem parallel_placeless (options : Options) (source : String) :
    Parallel .placeless (options.reading source) (Options.blank.reading "")
      fun _ n n' => n' = n.placeless where
  source := rfl
  origin := by
    rintro _ n _ path rfl
    rw [origin, Node.position_placeless]
    rfl
  provenance := by
    rintro _ n _ path rfl
    rw [provenance, origin, Node.position_placeless]
    rfl
  shape := by
    rintro _ n _ rfl
    exact n.shape_placeless
  text := by
    rintro _ n _ rfl
    exact n.text_placeless
  keys := by
    rintro kind n _ entries entries' path rfl he he'
    rw [Node.entries_placeless, he] at he'
    obtain rfl := Option.some.inj he'
    change _ = List.map _ _
    rw [notes_checkKeys, notes_checkKeys, List.filter_map, List.map_map, List.map_map]
    apply List.map_congr_left
    intro e _
    simp only [Function.comp_apply, origin, Node.position_placeless]
    rfl
  value := by
    rintro kind n _ key role rfl -
    rw [Node.get_placeless]
    cases n.get? key with
    | none => exact .none
    | some v => exact .some rfl
  item := by
    rintro role n _ items items' rfl hi hi'
    rw [Node.items_placeless, hi] at hi'
    obtain rfl := Option.some.inj hi'
    rw [List.forall₂_map_right_iff, List.forall₂_same]
    exact fun _ _ => rfl

end Declared.Reading

namespace Model

/-- The blank run gives the model of any run, with all that tells places and runs apart erased. -/
theorem ofNode_blank (options : Options) (source : String) (root : Node) :
    ∃ notes, Note.AllAt notes (fun o => o.source = source) ∧
      (ofNode options source root).diagnostics = notes.map Note.diagnostic ∧
      ofNode .blank "" root.placeless =
        { (ofNode options source root).relocate .placeless with
          diagnostics := (notes.map Note.placeless).map Note.diagnostic } := by
  have hempty : root.entries? = some [] ↔ root.placeless.entries? = some [] := by
    rw [Node.entries_placeless]
    cases root.entries? <;> simp
  rcases (Declared.Reading.parallel_placeless options source).readDocument_cases rfl hempty with
    ⟨cause, hread, hread'⟩ | ⟨p, q, hread, hread', hmatches⟩
  · have horigin := (Declared.Reading.cause_of_readDocument _ hread).2.1
    rw [ofNode_of_error hread, ofNode_of_error hread']
    refine ⟨[cause], .single ?_, rfl, rfl⟩
    rw [horigin]
    rfl
  · obtain ⟨hmodel, hbuilt, hchecked⟩ := judge_relocate .placeless
      (Relocation.placeless_carries options .transform) p.value
    have hvalue : q.value = p.value.relocate .placeless := hmatches.value
    have hnotes := Comparison.append _ (Comparison.append _ hmatches.notes hbuilt) hchecked
    rw [ofNode_of_ok hread, ofNode_of_ok hread', hvalue]
    refine ⟨_, ?_, rfl, ?_⟩
    · intro n hn
      obtain ⟨trail, position, -, horigin⟩ := pointsInto_of_readDocument options source hread n hn
      rw [horigin]
    · have hentities : ∀ ds, { (judge .blank (p.value.relocate .placeless)).model with
          diagnostics := ds } =
          { (judge options p.value).model.relocate .placeless with diagnostics := ds } := by
        intro ds
        exact congrArg (fun m : Model => { m with diagnostics := ds }) hmodel
      rw [← hnotes]
      exact hentities _

/-- The verdict on a document tree is that of the blank run. -/
theorem isGeneratable_ofNode_blank (options : Options) (source : String) (root : Node) :
    (ofNode .blank "" root.placeless).isGeneratable =
      (ofNode options source root).isGeneratable := by
  obtain ⟨notes, -, hdiagnostics, hblank⟩ := ofNode_blank options source root
  have herrors : Diagnostic.hasErrors ((notes.map Note.placeless).map Note.diagnostic) =
      Diagnostic.hasErrors (notes.map Note.diagnostic) := by
    simp only [Diagnostic.hasErrors, List.any_map]
    rfl
  rw [isGeneratable, isGeneratable, hblank, hdiagnostics]
  exact congrArg not herrors

end Model

/-! ## Any two runs -/

/-- The diagnostics say the same of one logical path, each of its own source. -/
structure Diagnostic.AgreesAcross (source source' : String) (d d' : Diagnostic) : Prop where
  code : d'.code = d.code
  severity : d'.severity = d.severity
  message : d'.message = d.message
  path : ∃ path, d.location = source ++ "#" ++ path ∧ d'.location = source' ++ "#" ++ path

/-- Notes that differ only in places make diagnostics that agree. -/
theorem Note.agreesAcross {n n' : Note} {source source' : String}
    (h : n.placeless.diagnostic = n'.placeless.diagnostic) (hsource : n.origin.source = source)
    (hsource' : n'.origin.source = source') :
    n.diagnostic.AgreesAcross source source' n'.diagnostic := by
  have hcode : n'.code = n.code := congrArg Diagnostic.code h.symm
  have hmessage : n'.finding.message = n.finding.message := congrArg Diagnostic.message h.symm
  have hlocation : "" ++ "#" ++ n.origin.path = "" ++ "#" ++ n'.origin.path :=
    congrArg Diagnostic.location h
  have hpath : n.origin.path = n'.origin.path := by simpa using hlocation
  refine ⟨hcode, congrArg Code.severity hcode, hmessage, n.origin.path, ?_, ?_⟩
  · rw [← hsource]
    rfl
  · rw [← hsource', hpath]
    rfl

theorem Note.agreesAcross_diagnostics {notes notes' : List Note} {source source' : String}
    (h : (notes.map Note.placeless).map Note.diagnostic =
      (notes'.map Note.placeless).map Note.diagnostic)
    (hsource : AllAt notes fun o => o.source = source)
    (hsource' : AllAt notes' fun o => o.source = source') :
    List.Forall₂ (Diagnostic.AgreesAcross source source') (notes.map Note.diagnostic)
      (notes'.map Note.diagnostic) := by
  rw [List.map_map, List.map_map, ← List.forall₂_eq_eq_eq, List.forall₂_map_left_iff,
    List.forall₂_map_right_iff, List.forall₂_iff_zip] at h
  rw [List.forall₂_map_left_iff, List.forall₂_map_right_iff, List.forall₂_iff_zip]
  refine ⟨h.1, ?_⟩
  intro n n' hmem
  obtain ⟨hn, hn'⟩ := List.of_mem_zip hmem
  exact agreesAcross (h.2 hmem) (hsource n hn) (hsource' n' hn')

namespace Model

/-- The models differ only in places, sources and runs: all their entities are the same once these
are erased from provenance, and their diagnostics agree one by one. -/
structure AgreesAcross (m m' : Model) : Prop where
  entities : { m'.relocate .placeless with diagnostics := [] } =
    { m.relocate .placeless with diagnostics := [] }
  diagnostics : List.Forall₂ (Diagnostic.AgreesAcross m.source m'.source) m.diagnostics
    m'.diagnostics
  isGeneratable : m'.isGeneratable = m.isGeneratable

theorem source_ofNode (options : Options) (source : String) (root : Node) :
    (ofNode options source root).source = source := by
  cases hread : (options.reading source).readDocument root with
  | error cause => rw [ofNode_of_error hread]; rfl
  | ok declared =>
    obtain ⟨entries, -, rfl⟩ := Declared.Reading.eq_readRoot_of_readDocument _ hread
    rw [ofNode_of_ok hread]
    rfl

theorem hasErrors_eq {source source' : String} {ds ds' : List Diagnostic}
    (h : List.Forall₂ (Diagnostic.AgreesAcross source source') ds ds') :
    Diagnostic.hasErrors ds' = Diagnostic.hasErrors ds := by
  induction h with
  | nil => rfl
  | cons hd _ ih =>
    simp only [Diagnostic.hasErrors, List.any_cons, Diagnostic.isError, hd.severity] at ih ⊢
    rw [ih]

/-- Positions, sources, tools and times make no difference beyond provenance and the places of
diagnostics: runs on trees that differ only in positions give models that agree in every entity, in
which of them are valid, in every derived name and in whether they are generatable. -/
theorem ofNode_agreesAcross (options options' : Options) (source source' : String)
    {root root' : Node} (h : root.placeless = root'.placeless) :
    (ofNode options source root).AgreesAcross (ofNode options' source' root') := by
  obtain ⟨notes, hsource, hdiagnostics, hblank⟩ := ofNode_blank options source root
  obtain ⟨notes', hsource', hdiagnostics', hblank'⟩ := ofNode_blank options' source' root'
  rw [← h, hblank] at hblank'
  have hentities := congrArg (fun m : Model => { m with diagnostics := [] }) hblank'
  have hsame := congrArg Model.diagnostics hblank'
  have hagree : List.Forall₂ (Diagnostic.AgreesAcross source source')
      (ofNode options source root).diagnostics (ofNode options' source' root').diagnostics := by
    rw [hdiagnostics, hdiagnostics']
    exact Note.agreesAcross_diagnostics hsame hsource hsource'
  refine ⟨hentities.symm, ?_, ?_⟩
  · rw [source_ofNode, source_ofNode]
    exact hagree
  · exact congrArg not (hasErrors_eq hagree)

end Model

namespace Sample

/-- The same class and namespace, written in another file elsewhere on another day. -/
def movedTypes : Node :=
  bareTypes.placeless

def laterOptions : Options := ⟨"wiregen/0.2.0", ⟨86400, 0, 0⟩, some "moved"⟩

theorem placeless_movedTypes : bareTypes.placeless = movedTypes.placeless := by
  rfl

end Sample

namespace Model

/-- The models name different places, and agree in all else. -/
theorem bareTypes_agreesAcross :
    (ofNode Sample.options "types" Sample.bareTypes).diagnostics ≠
      (ofNode Sample.laterOptions "moved" Sample.movedTypes).diagnostics ∧
    (ofNode Sample.options "types" Sample.bareTypes).AgreesAcross
      (ofNode Sample.laterOptions "moved" Sample.movedTypes) :=
  ⟨by decide +kernel, ofNode_agreesAcross Sample.options Sample.laterOptions "types" "moved"
    Sample.placeless_movedTypes⟩

end Model

end DependencyWiring
