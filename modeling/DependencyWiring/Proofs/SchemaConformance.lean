import DependencyWiring.Interchange.Schema
import DependencyWiring.Proofs.KeptDeclarations
import DependencyWiring.Proofs.SchemaAcceptance

/-!
# Conformance of interchange documents

The document of a model keeps to the schema in everything but two texts that the schema wants not to
be empty: the path and the tool of an entry of provenance. A compiled model has no empty path, so
its document is accepted as soon as the run has named a tool.
-/
namespace DependencyWiring

/-- Every entry has a path and a tool. -/
def Provenance.IsNamed (p : Provenance) : Prop :=
  ∀ e ∈ p.entries, e.origin.path ≠ "" ∧ e.stamp.tool ≠ ""

namespace Interchange

open Schema

/-! ## Records -/

theorem accepts_record_iff {properties : List (String × Schema)} {members : List (String × Json)}
    (hnames : members.map Prod.fst = properties.map Prod.fst)
    (hnodup : (properties.map Prod.fst).Nodup) :
    (record properties).Accepts (.object members) ↔
      List.Forall₂ (fun p m => p.2.Accepts m.2) properties members :=
  accepts_object_iff_forall₂ hnames hnodup fun _ hname => hname

/-- The constant of a record tells it from others. -/
theorem not_accepts_record {properties : List (String × Schema)} {members : List (String × Json)}
    {name text : String} {v : Json} (hproperty : (name, .const text) ∈ properties)
    (hmember : Json.member? name members = some v) (hv : v ≠ .string text) :
    ¬(record properties).Accepts (.object members) := by
  intro h
  exact hv (accepts_const_iff.mp ((accepts_object_iff.mp h).2.1 _ hproperty v hmember))

/-! ## Scalars -/

@[simp] theorem accepts_text (s : String) : text.Accepts (.string s) := by
  simp [text, accepts_typed_iff]

@[simp] theorem accepts_nonEmptyText_iff (s : String) :
    nonEmptyText.Accepts (.string s) ↔ s ≠ "" := by
  simp [nonEmptyText, accepts_typed_iff]

@[simp] theorem accepts_flag (b : Bool) : flag.Accepts (.bool b) := by
  simp [flag, accepts_typed_iff]

@[simp] theorem accepts_natural (n : Nat) : natural.Accepts (.nat n) := by
  simp [natural, accepts_typed_iff, Json.nat, Json.Number.isInteger, Json.Number.isBelow]

@[simp] theorem accepts_optional_column (column : Option Nat) :
    (typed [.integer, .null] [.minimum 0]).Accepts (optional .nat column) := by
  cases column <;>
    simp [optional, accepts_typed_iff, Json.nat, Json.Number.isInteger, Json.Number.isBelow]

@[simp] theorem accepts_optional_text (name : Option String) :
    (typed [.null, .string] []).Accepts (optional .string name) := by
  cases name <;> simp [optional, accepts_typed_iff]

@[simp] theorem accepts_formatVersion :
    (typed [.integer] [.minimum 1]).Accepts (.nat Provenance.formatVersion) := by
  simp [accepts_typed_iff, Json.nat, Json.Number.isInteger, Json.Number.isBelow,
    Provenance.formatVersion]

@[simp] theorem accepts_stage (s : Stage) :
    (oneOfTexts ["extract", "transform"]).Accepts (.string s.name) := by
  cases s <;> simp [accepts_oneOfTexts_iff, Stage.name]

@[simp] theorem accepts_severity (s : Severity) :
    (oneOfTexts ["Error", "Warning", "Info"]).Accepts (.string s.name) := by
  cases s <;> simp [accepts_oneOfTexts_iff, Severity.name]

/-- The codes of the catalogue are spelled as the schema wants it. -/
theorem codePattern_accepts (c : Code) : codePattern.accepts c.name.toList = true := by
  have hall : ∀ c ∈ Code.all, codePattern.accepts c.name.toList = true := by decide +kernel
  exact hall c c.mem_all

@[simp] theorem accepts_code (c : Code) : (textWith codePattern).Accepts (.string c.name) := by
  simp [textWith, accepts_typed_iff, codePattern_accepts]

@[simp] theorem accepts_version : (textWith versionPattern).Accepts (.string version) := by
  have hversion : versionPattern.accepts version.toList = true := by decide
  simp [textWith, accepts_typed_iff, hversion]

theorem accepts_list_iff {α : Type} {s : Schema} {f : α → Json} {as : List α} :
    (array 0 s).Accepts (.array (as.map f)) ↔ ∀ a ∈ as, s.Accepts (f a) := by
  simp [accepts_array_iff]

/-! ## Parts of documents -/

theorem accepts_ofEntry_iff (e : ProvenanceEntry) :
    provenanceEntry.Accepts (ofEntry e) ↔ e.origin.path ≠ "" ∧ e.stamp.tool ≠ "" := by
  rw [provenanceEntry, ofEntry, accepts_record_iff rfl (by simp)]
  simp

theorem accepts_ofProvenance_iff (p : Provenance) :
    provenance.Accepts (ofProvenance p) ↔ p.IsNamed := by
  rw [provenance, ofProvenance, accepts_record_iff rfl (by simp)]
  simp [accepts_array_iff, accepts_ofEntry_iff, Provenance.IsNamed, Provenance.entries]

theorem accepts_ofDiagnostic (d : Diagnostic) : diagnostic.Accepts (ofDiagnostic d) := by
  unfold diagnostic ofDiagnostic
  cases d.line with
  | some line =>
    refine (accepts_object_iff_forall₂ rfl (by simp) (by simp)).mpr ?_
    simp
  | none =>
    refine accepts_object_iff.mpr ⟨by simp, ?_, by simp⟩
    simp [Json.member?]

theorem accepts_ofTypeRef (t : TypeRef) : typeRef.Accepts (ofTypeRef t) := by
  rw [typeRef, ofTypeRef, accepts_record_iff rfl (by simp)]
  simp

theorem accepts_optional_ofTypeRef (t : Option TypeRef) :
    (oneOf [typeRef, .typed [.null] []]).Accepts (optional ofTypeRef t) := by
  cases t with
  | none =>
    have hrecord : ¬typeRef.Accepts .null := fun h => by
      obtain ⟨members, hmembers⟩ := exists_members_of_accepts h
      exact absurd hmembers (by simp)
    rw [optional, accepts_oneOf_cons_iff hrecord, accepts_oneOf_head_iff (by simp)]
    simp [accepts_typed_iff]
  | some t =>
    refine (accepts_oneOf_head_iff ?_).mpr (accepts_ofTypeRef t)
    simp [optional, ofTypeRef, accepts_typed_iff]

theorem accepts_ofWiring (w : Wiring) : wiring.Accepts (ofWiring w) := by
  cases w with
  | value literal =>
    refine (accepts_oneOf_head_iff ?_).mpr ?_
    · intro t ht
      obtain rfl := List.mem_singleton.mp ht
      exact not_accepts_record List.mem_cons_self rfl (by simp)
    · refine (accepts_record_iff rfl (by simp)).mpr ?_
      simp [accepts_const_iff]
  | instanceOf name =>
    refine (accepts_oneOf_cons_iff (not_accepts_record List.mem_cons_self rfl (by simp))).mpr ?_
    refine (accepts_oneOf_head_iff (by simp)).mpr ((accepts_record_iff rfl (by simp)).mpr ?_)
    simp [accepts_const_iff]

/-! ## Entities -/

theorem accepts_ofCodeGen_iff (c : CodeGen) :
    codeGen.Accepts (ofCodeGen c) ↔ c.provenance.IsNamed := by
  rw [codeGen, ofCodeGen, accepts_record_iff rfl (by simp)]
  simp [accepts_list_iff, accepts_ofProvenance_iff]

theorem accepts_ofInterface_iff (i : Interface) :
    interfaceType.Accepts (ofInterface i) ↔ i.provenance.IsNamed := by
  rw [interfaceType, ofInterface, accepts_record_iff rfl (by simp)]
  simp [accepts_ofProvenance_iff]

theorem accepts_ofParameter_iff (p : Parameter) :
    parameter.Accepts (ofParameter p) ↔ p.provenance.IsNamed := by
  have hkind : (oneOfTexts ["class", "interface"]).Accepts
      (.string (if p.type.isInterface then "interface" else "class")) := by
    cases p.type.isInterface <;> simp [accepts_oneOfTexts_iff]
  rw [parameter, ofParameter, accepts_record_iff rfl (by simp)]
  simp [accepts_ofProvenance_iff, accepts_ofTypeRef, hkind]

theorem accepts_ofClass_iff (c : Class) :
    classType.Accepts (ofClass c) ↔
      c.provenance.IsNamed ∧ ∀ p ∈ c.parameters, p.provenance.IsNamed := by
  rw [classType, ofClass, accepts_record_iff rfl (by simp)]
  simp [accepts_list_iff, accepts_ofProvenance_iff, accepts_ofParameter_iff, and_comm]

theorem accepts_ofNamespace_iff (ns : Namespace) :
    namespaceBlock.Accepts (ofNamespace ns) ↔ ∀ p ∈ ns.provenances, p.IsNamed := by
  rw [namespaceBlock, ofNamespace, accepts_record_iff rfl (by simp),
    Namespace.forall_mem_provenances]
  simp only [List.forall₂_cons, List.forall₂_nil_right_iff, accepts_list_iff, accepts_text,
    accepts_ofProvenance_iff, accepts_ofInterface_iff, accepts_ofClass_iff]
  tauto

theorem accepts_ofAssignment_iff (a : Assignment) :
    assignment.Accepts (ofAssignment a) ↔ a.provenance.IsNamed := by
  rw [assignment, ofAssignment, accepts_record_iff rfl (by simp)]
  simp [accepts_ofProvenance_iff, accepts_ofWiring]

theorem accepts_ofElement_iff (e : Element) :
    element.Accepts (ofElement e) ↔ e.provenance.IsNamed := by
  rw [element, ofElement, accepts_record_iff rfl (by simp)]
  simp [accepts_ofProvenance_iff, accepts_ofWiring]

/-- A record for another kind of initialization does not accept. -/
theorem not_accepts_ofInitialization {properties : List (String × Schema)} {i : Initialization}
    (kind : String) (hproperty : ("kind", .const kind) ∈ properties) (hkind : i.kind ≠ kind) :
    ¬(record properties).Accepts (ofInitialization i) := by
  have hmember : ∃ members, ofInitialization i = .object members ∧
      Json.member? "kind" members = some (.string i.kind) := by
    cases i <;> exact ⟨_, rfl, by simp [Json.member?]⟩
  obtain ⟨members, hobject, hvalue⟩ := hmember
  rw [hobject]
  exact not_accepts_record hproperty hvalue (by simpa using hkind)

theorem accepts_ofInitialization_iff (i : NamedInstance) :
    initialization.Accepts (ofInitialization i.initialization) ↔
      (∀ a ∈ i.assignments, a.provenance.IsNamed) ∧ ∀ e ∈ i.elements, e.provenance.IsNamed := by
  unfold NamedInstance.assignments NamedInstance.elements initialization
  cases i.initialization with
  | default =>
    have hassignments := @not_accepts_ofInitialization
      [("assignments", .array 0 assignment), ("kind", .const "assignments")] .default "assignments"
      (by simp) (by decide)
    have helements := @not_accepts_ofInitialization
      [("elements", .array 0 element), ("kind", .const "elements")] .default "elements"
      (by simp) (by decide)
    rw [accepts_oneOf_head_iff (by simp [hassignments, helements]), ofInitialization,
      accepts_record_iff rfl (by simp)]
    simp [accepts_const_iff, Initialization.kind]
  | assignments items =>
    have hdefault := @not_accepts_ofInitialization [("kind", .const "default")]
      (.assignments items) "default" (by simp) (by simp [Initialization.kind])
    have helements := @not_accepts_ofInitialization
      [("elements", .array 0 element), ("kind", .const "elements")] (.assignments items) "elements"
      (by simp) (by simp [Initialization.kind])
    rw [accepts_oneOf_cons_iff hdefault, accepts_oneOf_head_iff (by simp [helements]),
      ofInitialization, accepts_record_iff rfl (by simp)]
    simp [accepts_const_iff, accepts_list_iff, accepts_ofAssignment_iff, Initialization.kind]
  | elements items =>
    have hdefault := @not_accepts_ofInitialization [("kind", .const "default")]
      (.elements items) "default" (by simp) (by simp [Initialization.kind])
    have hassignments := @not_accepts_ofInitialization
      [("assignments", .array 0 assignment), ("kind", .const "assignments")] (.elements items)
      "assignments" (by simp) (by simp [Initialization.kind])
    rw [accepts_oneOf_cons_iff hdefault, accepts_oneOf_cons_iff hassignments,
      accepts_oneOf_head_iff (by simp), ofInitialization, accepts_record_iff rfl (by simp)]
    simp [accepts_const_iff, accepts_list_iff, accepts_ofElement_iff, Initialization.kind]

theorem accepts_ofNamedInstance_iff (i : NamedInstance) :
    namedInstance.Accepts (ofNamedInstance i) ↔ ∀ p ∈ i.provenances, p.IsNamed := by
  rw [namedInstance, ofNamedInstance, accepts_record_iff rfl (by simp),
    NamedInstance.forall_mem_provenances]
  simp only [List.forall₂_cons, List.forall₂_nil_right_iff, accepts_ofTypeRef,
    accepts_optional_ofTypeRef, accepts_flag, accepts_text, accepts_ofProvenance_iff,
    accepts_ofInitialization_iff]
  tauto

/-- The document of any model is accepted but for entries of provenance with an empty text. -/
theorem accepts_ofModel_iff (m : Model) :
    schema.Accepts (ofModel m) ↔ ∀ p ∈ m.provenances, p.IsNamed := by
  rw [schema, ofModel, accepts_record_iff rfl (by simp), Model.forall_mem_provenances]
  simp only [List.forall₂_cons, List.forall₂_nil_right_iff, ofDiagnostics, accepts_list_iff,
    accepts_const_iff, accepts_text, accepts_version, accepts_ofCodeGen_iff, accepts_ofDiagnostic,
    accepts_ofNamespace_iff, accepts_ofNamedInstance_iff, accepts_ofProvenance_iff]
  tauto

end Interchange

/-! ## Compiled models -/

/-- Every entry has a path and was made with the tool. -/
def Provenance.IsMadeBy (p : Provenance) (tool : String) : Prop :=
  ∀ e ∈ p.entries, e.origin.path ≠ "" ∧ e.stamp.tool = tool

theorem Provenance.IsMadeBy.isNamed_iff {p : Provenance} {tool : String} (h : p.IsMadeBy tool) :
    p.IsNamed ↔ tool ≠ "" := by
  constructor
  · intro hnamed
    rw [← (h p.first List.mem_cons_self).2]
    exact (hnamed p.first List.mem_cons_self).2
  · intro htool e he
    exact ⟨(h e he).1, (h e he).2 ▸ htool⟩

theorem Slot.path_ne_empty (s : Slot) : s.path ≠ "" := by
  intro h
  have hchars := congrArg String.toList h
  cases s <;> rw [Slot.path, Slot.trail, Slot.keys, Trail.toList_path_ofKeys] at hchars <;>
    simp [Trail.segment] at hchars

namespace Model

variable (options : Options) (source : String)

theorem isMadeBy_trace (n : Node) {path : String} (hpath : path ≠ "") :
    (options.trace source n path).IsMadeBy options.tool := by
  intro e he
  rcases List.mem_cons.mp he with rfl | he
  · exact ⟨hpath, rfl⟩
  · obtain rfl := List.mem_singleton.mp he
    exact ⟨hpath, rfl⟩

theorem isMadeBy_refused (cause : Note) :
    ∀ p ∈ (refused options source cause).provenances, p.IsMadeBy options.tool := by
  have hstart : ((options.stamp .extract).start (rootOrigin source)).IsMadeBy options.tool := by
    intro e he
    obtain rfl := List.mem_singleton.mp he
    have hroot : LogicalPath.root ≠ "" := by decide
    exact ⟨hroot, rfl⟩
  refine forall_mem_provenances.mpr ⟨hstart, hstart, ?_, ?_⟩
  · exact fun ns hns => absurd hns List.not_mem_nil
  · exact fun i hi => absurd hi List.not_mem_nil

theorem isMadeBy_ofNode (root : Node) :
    ∀ p ∈ (ofNode options source root).provenances, p.IsMadeBy options.tool := by
  unfold ofNode
  cases hread : (Declared.Reading.mk source (options.stamp .extract)).readDocument root with
  | error cause => exact isMadeBy_refused options source cause
  | ok declared =>
    obtain ⟨entries, -, rfl⟩ := Declared.Reading.eq_readRoot_of_readDocument _ hread
    intro p hp
    rcases trace_of_mem_provenances options source hp with rfl | rfl | ⟨s, n, -, rfl⟩
    · exact isMadeBy_trace options source root (by decide)
    · exact isMadeBy_trace options source _ (by decide)
    · exact isMadeBy_trace options source n s.path_ne_empty

theorem isMadeBy_ofText (format : Format) (text : String) :
    ∀ p ∈ (ofText options source format text).provenances, p.IsMadeBy options.tool := by
  unfold ofText
  split
  · exact isMadeBy_refused options source _
  · split
    · exact isMadeBy_ofNode options source _
    · exact isMadeBy_refused options source _

/-- The document of a compiled text keeps to the schema, whatever the text is, just when the run
has named its tool. -/
theorem ofText_conformsToSchema (format : Format) (text : String) :
    Interchange.schema.violations (Interchange.ofModel (ofText options source format text)) = [] ↔
      options.tool ≠ "" := by
  have hmade := isMadeBy_ofText options source format text
  rw [← Schema.Accepts, Interchange.accepts_ofModel_iff]
  constructor
  · intro h
    have hroot : (ofText options source format text).provenance ∈
        (ofText options source format text).provenances := List.mem_cons_self
    exact (hmade _ hroot).isNamed_iff.mp (h _ hroot)
  · intro htool p hp
    exact (hmade p hp).isNamed_iff.mpr htool

end Model

end DependencyWiring
