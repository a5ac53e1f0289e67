import DependencyWiring.Model.Compilation
import DependencyWiring.Proofs.IndexLookup

/-!
# Accepted documents

A model is generatable exactly when its document was read, built and checked without an error. What
this says of the declarations, of the model and of the checks is put together here, and every law of
generatable models starts from it.
-/
namespace DependencyWiring

open Check

@[simp] theorem Check.isError_noteOn (finding : Finding) (p : Provenance) :
    (noteOn finding p).isError = finding.isError := rfl

/-- The checks find no error exactly when each of them finds none. -/
theorem Check.noErrors_notes (s : Scope) :
    Note.NoErrors (notes s) ↔
      Note.NoErrors (typeCollisions s.model) ∧ Note.NoErrors (instanceCollisions s.model) ∧
      Note.NoErrors (invokerKeyNotes s.model) ∧ Note.NoErrors (resolutionNotes s) ∧
      Note.NoErrors (orderingNotes s) ∧ Note.NoErrors (wiringNotes s) := by
  simp only [notes, Note.noErrors_append, and_assoc]

/-- Declarations that were read, built and checked without an error. -/
structure Accepted (stamp : Stamp) (d : Declared.Model) : Prop where
  marks : d.HasMarks
  declared : d.IsSound
  built : (Model.build stamp d).IsClean
  checked : Note.NoErrors (notes (Scope.ofDeclared stamp d))

namespace Accepted

variable {stamp : Stamp} {d : Declared.Model} (h : Accepted stamp d)

include h

theorem model : (Scope.ofDeclared stamp d).model.IsSound :=
  Model.build_sound stamp h.declared h.built

theorem isPlaceholder_eq_false {i : NamedInstance}
    (hi : i ∈ (Scope.ofDeclared stamp d).model.namedInstances) : i.isPlaceholder = false :=
  Placeholder.isPlaceholder_of_isSimple (h.model.namedInstances i hi).name

theorem typeCollisions : Note.NoErrors (typeCollisions (Scope.ofDeclared stamp d).model) :=
  ((noErrors_notes _).mp h.checked).1

theorem invokerKeyNotes : Note.NoErrors (invokerKeyNotes (Scope.ofDeclared stamp d).model) :=
  ((noErrors_notes _).mp h.checked).2.2.1

theorem resolutionNotes : Note.NoErrors (resolutionNotes (Scope.ofDeclared stamp d)) :=
  ((noErrors_notes _).mp h.checked).2.2.2.1

theorem orderingNotes : Note.NoErrors (orderingNotes (Scope.ofDeclared stamp d)) :=
  ((noErrors_notes _).mp h.checked).2.2.2.2.1

theorem wiringNotes : Note.NoErrors (wiringNotes (Scope.ofDeclared stamp d)) :=
  ((noErrors_notes _).mp h.checked).2.2.2.2.2

end Accepted

namespace Model

/-- A document is refused as a whole, or its declarations are judged. -/
theorem ofNode_cases (options : Options) (source : String) (root : Node) :
    (∃ cause, cause.isError = true ∧ ofNode options source root = refused options source cause) ∨
    ∃ declared, (Declared.Reading.mk source (options.stamp .extract)).readDocument root =
        .ok declared ∧
      ofNode options source root = ofDeclared options declared.value declared.notes := by
  unfold ofNode
  cases hread : (Declared.Reading.mk source (options.stamp .extract)).readDocument root with
  | error cause => exact .inl ⟨cause, (Declared.Reading.cause_of_readDocument _ hread).1, rfl⟩
  | ok declared => exact .inr ⟨declared, rfl, rfl⟩

theorem not_isGeneratable_refused {options : Options} {source : String} {cause : Note}
    (h : cause.isError = true) : (refused options source cause).isGeneratable = false := by
  simp [isGeneratable, refused, Diagnostic.hasErrors, Note.isError_diagnostic, h]

/-- Declarations are accepted when neither building nor checking them finds an error. -/
theorem isGeneratable_ofDeclared_iff {options : Options} {d : Declared.Model}
    {before : List Note} : (ofDeclared options d before).isGeneratable = true ↔
      Note.NoErrors before ∧ (build (options.stamp .transform) d).IsClean ∧
        Note.NoErrors (notes (Scope.ofDeclared (options.stamp .transform) d)) := by
  simp only [isGeneratable, ofDeclared, Bool.not_eq_true', Note.hasErrors_diagnostics,
    Note.noErrors_append, and_assoc]
  rfl

/-- What a generatable model was made of is accepted. -/
theorem accepted_of_readDocument {options : Options} {source : String} {root : Node}
    {declared : Report Declared.Model}
    (hread : (Declared.Reading.mk source (options.stamp .extract)).readDocument root = .ok declared)
    (h : (ofDeclared options declared.value declared.notes).isGeneratable = true) :
    Accepted (options.stamp .transform) declared.value := by
  obtain ⟨hdeclared, hbuilt, hchecked⟩ := isGeneratable_ofDeclared_iff.mp h
  exact ⟨Declared.Reading.readDocument_marked _ hread,
    Declared.Reading.readDocument_sound _ hread hdeclared, hbuilt, hchecked⟩

/-- A generatable model is the one built from accepted declarations, with diagnostics. -/
theorem exists_accepted {options : Options} {source : String} {root : Node}
    (h : (ofNode options source root).isGeneratable = true) :
    ∃ d, Accepted (options.stamp .transform) d ∧
      ∃ diagnostics, ofNode options source root =
        { (Scope.ofDeclared (options.stamp .transform) d).model with
          diagnostics := diagnostics } := by
  rcases ofNode_cases options source root with ⟨cause, herror, he⟩ | ⟨declared, hread, he⟩
  · rw [he, not_isGeneratable_refused herror] at h
    exact absurd h (by decide)
  · rw [he] at h
    exact ⟨declared.value, accepted_of_readDocument hread h, _, he⟩

end Model

/-! ## A document that is accepted -/

namespace Sample

def options : Options := ⟨Options.defaultTool, ⟨0, 0, 0⟩, none⟩

def text (t : String) : Node :=
  .scalar t ⟨0, none⟩

def mapping (entries : List (String × Node)) : Node :=
  .mapping entries ⟨0, none⟩

def sequence (items : List Node) : Node :=
  .sequence items ⟨0, none⟩

def codeGen : Node :=
  mapping [("registryClassName", text "Registry"), ("generatedCodePath", text "Generated"),
    ("namespaceName", text "App.Generated"), ("initializerName", text "Initialize")]

/-- A namespace with an interface and a class that exposes it and takes an instance of it. -/
def types : Node :=
  mapping [("namespaceName", text "App"),
    ("interfaces", sequence [mapping [("interfaceName", text "INode")]]),
    ("classes", sequence [mapping [("className", text "Node"),
      ("qualifiedInterfaceName", text "App.INode"),
      ("initializerParameters", sequence [mapping [("name", text "next"),
        ("qualifiedInterfaceName", text "App.INode")]])]])]

/-- An assignment to `next` of what is given under a key. -/
def entry (key value : String) : Node :=
  mapping [("parameterName", text "next"), (key, text value)]

def firstNode : Node :=
  mapping [("namedInstanceName", text "First"), ("qualifiedClassName", text "App.Node")]

def secondNode (entry : Node) : Node :=
  mapping [("namedInstanceName", text "Second"), ("qualifiedClassName", text "App.Node"),
    ("assignments", sequence [entry])]

/-- A first node without assignments, and a second one with one. -/
def chain (entry : Node) : Node :=
  mapping [("codeGen", codeGen), ("namespaces", sequence [types]),
    ("namedInstances", sequence [firstNode, secondNode entry])]

/-- The model in which the second node is wired to a node. -/
def linked (target : String) : Model :=
  Model.ofNode options "chain" (chain (entry "namedInstanceName" target))

def place (path : String) : Provenance :=
  (options.stamp .transform).extend ((options.stamp .extract).start ⟨"chain", 0, none, path⟩)

def first : NamedInstance :=
  ⟨"First", .named "App.Node", none, .default, true, place "namedInstances[0]"⟩

def assigned (w : Wiring) : Assignment :=
  ⟨"next", w, true, place "namedInstances[1].assignments[0]"⟩

def next : Parameter :=
  ⟨"next", .interfaceType (.named "App.INode"), true,
    place "namespaces[0].classes[0].initializerParameters[0]"⟩

def node : Class :=
  ⟨"Node", "App.Node", some "App.INode", "App.INode", "App_Node", [next],
    place "namespaces[0].classes[0]"⟩

def second (w : Wiring) : NamedInstance :=
  ⟨"Second", .named "App.Node", none, .assignments [assigned w], true, place "namedInstances[1]"⟩

theorem isGeneratable_linked : (linked "First").isGeneratable = true := by
  decide +kernel

theorem namedInstances_linked :
    (linked "First").namedInstances = [first, second (.instanceOf "First")] := by
  decide +kernel

theorem classes_linked : (linked "First").classes = [node] := by
  decide +kernel

end Sample

end DependencyWiring
