import DependencyWiring.Proofs.WiringSoundness

/-!
# Literals for interfaces

An interface takes an instance, and a literal is refused for it. A literal that looks like a
placeholder is let through: it is taken for the mark of a value that was refused before. Nothing
tells such a mark from the same text in a document, so the literals that are accepted for an
interface are exactly the texts that start with an angle bracket.
-/
namespace DependencyWiring

open Check

namespace Model

/-- The assignment is to a parameter of an interface type. -/
def PutsIntoInterface (m : Model) (a : Assignment) : Prop :=
  ∃ i items c p t, m.Assigns i items c ∧ a ∈ items ∧ p ∈ c.parameters ∧
    p.name = a.parameterName ∧ p.type = .interfaceType t

theorem putsIntoInterface_withDiagnostics {m : Model} {diagnostics : List Diagnostic}
    {a : Assignment} :
    PutsIntoInterface { m with diagnostics := diagnostics } a ↔ m.PutsIntoInterface a := by
  simp only [PutsIntoInterface, assigns_withDiagnostics]

end Model

/-! ## What is refused -/

theorem Accepted.isPlaceholder_of_putsIntoInterface {stamp : Stamp} {d : Declared.Model}
    (h : Accepted stamp d) {a : Assignment} {v : String}
    (ha : (Scope.ofDeclared stamp d).model.PutsIntoInterface a) (hvalue : a.wiring = .value v) :
    Placeholder.isPlaceholder v = true := by
  obtain ⟨i, items, c, p, t, hassigns, hmem, hp, hname, ht⟩ := ha
  have hnotes := h.interfaceWiringNotes hassigns hmem hp hname ht
  exact (noErrors_interfaceWiringNotes_value hvalue).mp hnotes

/-! ## What is accepted -/

theorem Text.exists_dropBlankEnd_cons {c : Char} (hc : isBlank c = false) (cs : List Char) :
    ∃ ds, dropBlankEnd (c :: cs) = c :: ds := by
  rw [dropBlankEnd]
  cases dropBlankEnd cs with
  | nil => exact ⟨[], by simp [hc]⟩
  | cons d ds => exact ⟨d :: ds, rfl⟩

/-- A text that starts with a bracket is a value. -/
theorem Declared.isNull_of_isPlaceholder {v : String} (h : Placeholder.isPlaceholder v = true) :
    Declared.isNull v = false := by
  obtain ⟨cs, hcs⟩ : ∃ cs, v.toList = '<' :: cs := by
    unfold Placeholder.isPlaceholder at h
    split at h
    · rename_i c cs hcs
      exact ⟨cs, by rw [hcs, of_decide_eq_true h]⟩
    · exact absurd h (by simp)
  obtain ⟨ds, hds⟩ := Text.exists_dropBlankEnd_cons (show Text.isBlank '<' = false by decide) cs
  have htrim : Text.trimChars v.toList = '<' :: ds := by
    rw [hcs, Text.trimChars, List.dropWhile_cons_of_neg (by decide), hds]
  simp [Declared.isNull, htrim]

/-! ## A document with a literal -/

attribute [ext] Assignment NamedInstance

namespace Sample

open Declared.Reading Report

/-- The assignment of a literal to `next`. -/
def literalEntry (v : String) : Node :=
  entry "assignmentValue" v

/-- The model in which a literal is assigned to the second node. -/
def literal (v : String) : Model :=
  Model.ofNode options "chain" (chain (literalEntry v))

def reading : Declared.Reading :=
  ⟨"chain", options.stamp .extract⟩

def stamp : Stamp :=
  options.stamp .transform

/-! What is declared is computed for one literal, and any other one is put in its place. Computing
stops at a text that is not known, so what does not depend on the literal is computed for the one
literal first and then said of all. -/

def declaredCodeGen : Declared.CodeGen :=
  (reading.readCodeGen (chain (literalEntry "<x>"))).value

def declaredTypes : Declared.Namespace :=
  (reading.readNamespace types "namespaces[0]").value

def declaredFirst : Declared.NamedInstance :=
  (reading.readNamedInstance firstNode "namedInstances[0]").value

def declaredLiteral (v : String) : Declared.Assignment :=
  { (reading.readAssignment (literalEntry "<x>") "namedInstances[1].assignments[0]").value with
    value := some ⟨v, ⟨"chain", 0, none, "namedInstances[1].assignments[0].assignmentValue"⟩,
      .valid⟩ }

def declaredSecond (v : String) : Declared.NamedInstance :=
  { (reading.readNamedInstance (secondNode (literalEntry "<x>")) "namedInstances[1]").value with
    assignments := some [declaredLiteral v] }

def declared (v : String) : Declared.Model :=
  { source := "chain"
    codeGen := declaredCodeGen
    namespaces := [declaredTypes]
    namedInstances := [declaredFirst, declaredSecond v]
    provenance := reading.provenance (chain (literalEntry "<x>")) LogicalPath.root }

/-- What the checks look at when a literal is assigned to the second node. -/
def scope (v : String) : Scope :=
  Scope.ofDeclared stamp (declared v)

variable {v : String}

theorem readAssignment_literal (hv : Declared.isNull v = false) :
    reading.readAssignment (literalEntry v) "namedInstances[1].assignments[0]" =
      pure (declaredLiteral v) := by
  have hget : (literalEntry v).get? "assignmentValue" = some (text v) := rfl
  have hvalue : reading.optional (literalEntry v) "namedInstances[1].assignments[0]"
      "assignmentValue" none = pure (declaredLiteral v).value := by
    simp only [Declared.Reading.optional, hget, text, Node.text?, hv, Bool.false_eq_true, if_false]
    rfl
  -- no other field of the entry reads the literal
  unfold readAssignment
  simp only [hvalue]
  rfl

/-- A list of one entry is read when the entry is. -/
theorem readEntries_singleton {α : Type} {node item : Node} {path key : String}
    {read : Node → String → Report α} {a : α}
    (hnode : node.get? key = some (sequence [item]))
    (hread : read item (LogicalPath.item path key 0) = pure a) :
    reading.readEntries node path key read = pure (some [a]) := by
  simp only [readEntries, listing, hnode, sequence, readItems, forEachIndexed, forEachFrom,
    Report.pure_bind, hread]
  rfl

theorem readNamedInstance_second (hv : Declared.isNull v = false) :
    reading.readNamedInstance (secondNode (literalEntry v)) "namedInstances[1]" =
      pure (declaredSecond v) := by
  have hclass : reading.requiredReference (secondNode (literalEntry "<x>")) "namedInstances[1]"
      "qualifiedClassName" .namedInstance .classType = pure (declaredSecond v).classRef :=
    eq_pure_value (by rfl)
  have hsame : reading.requiredReference (secondNode (literalEntry v)) "namedInstances[1]"
      "qualifiedClassName" .namedInstance .classType = pure (declaredSecond v).classRef := hclass
  have hpath : LogicalPath.item "namedInstances[1]" "assignments" 0 =
      "namedInstances[1].assignments[0]" := by rfl
  have hentries : reading.readEntries (secondNode (literalEntry v)) "namedInstances[1]"
      "assignments" reading.readAssignment = pure (some [declaredLiteral v]) :=
    readEntries_singleton rfl (hpath ▸ readAssignment_literal hv)
  unfold readNamedInstance
  simp only [hsame, hentries]
  rfl

theorem readDocument_literal (hv : Declared.isNull v = false) :
    reading.readDocument (chain (literalEntry v)) = .ok (pure (declared v)) := by
  have hcodeGen : reading.readCodeGen (chain (literalEntry "<x>")) = pure declaredCodeGen :=
    eq_pure_value (by rfl)
  have hsame : reading.readCodeGen (chain (literalEntry v)) = pure declaredCodeGen := hcodeGen
  have hpaths : LogicalPath.item LogicalPath.root "namespaces" 0 = "namespaces[0]" ∧
      LogicalPath.item LogicalPath.root "namedInstances" 0 = "namedInstances[0]" ∧
      LogicalPath.item LogicalPath.root "namedInstances" (0 + 1) = "namedInstances[1]" :=
    ⟨rfl, rfl, rfl⟩
  have htypes : reading.readNamespace types "namespaces[0]" = pure declaredTypes :=
    eq_pure_value (by rfl)
  have hnamespaces : reading.readListing (chain (literalEntry v)) LogicalPath.root "namespaces"
      reading.readNamespace = pure [declaredTypes] := by
    have hget : (chain (literalEntry v)).get? "namespaces" = some (sequence [types]) := rfl
    simp only [readListing, listing, hget, sequence, readItems, forEachIndexed, forEachFrom,
      Report.pure_bind, Listing.nodes, hpaths, htypes]
  have hfirst : reading.readNamedInstance firstNode "namedInstances[0]" = pure declaredFirst :=
    eq_pure_value (by rfl)
  have hinstances : reading.readListing (chain (literalEntry v)) LogicalPath.root "namedInstances"
      reading.readNamedInstance = pure [declaredFirst, declaredSecond v] := by
    have hget : (chain (literalEntry v)).get? "namedInstances" =
        some (sequence [firstNode, secondNode (literalEntry v)]) := rfl
    simp only [readListing, listing, hget, sequence, readItems, forEachIndexed, forEachFrom,
      Report.pure_bind, Listing.nodes, hpaths, hfirst, readNamedInstance_second hv]
  show Except.ok (reading.readRoot (chain (literalEntry v)) _) = _
  unfold readRoot
  simp only [hsame, hnamespaces, hinstances]
  rfl

theorem buildAssignment_declared :
    (Model.buildAssignment stamp (declaredLiteral v)).value = assigned (.value v) := by
  have hclosed : (Model.buildAssignment stamp (declaredLiteral "<x>")).value =
      assigned (.value "<x>") := by rfl
  have hname := congrArg Assignment.parameterName hclosed
  have hvalid := congrArg Assignment.isValid hclosed
  have hplace := congrArg Assignment.provenance hclosed
  exact Assignment.ext hname rfl hvalid hplace

theorem buildNamedInstance_declared :
    (Model.buildNamedInstance stamp (declaredSecond v)).value = second (.value v) := by
  have hclosed : (Model.buildNamedInstance stamp (declaredSecond "<x>")).value =
      second (.value "<x>") := by rfl
  have hname := congrArg NamedInstance.name hclosed
  have hclass := congrArg NamedInstance.classType hclosed
  have hinterface := congrArg NamedInstance.interfaceType hclosed
  have hitems : (Model.buildNamedInstance stamp (declaredSecond v)).value.initialization =
      .assignments [assigned (.value v)] :=
    congrArg (fun a => Initialization.assignments [a]) buildAssignment_declared
  have hvalid := congrArg NamedInstance.isValid hclosed
  have hplace := congrArg NamedInstance.provenance hclosed
  exact NamedInstance.ext hname hclass hinterface hitems hvalid hplace

theorem namedInstances_scope : (scope v).model.namedInstances = [first, second (.value v)] := by
  have hfirst : (Model.buildNamedInstance stamp declaredFirst).value = first := by rfl
  simp [scope, Scope.ofDeclared, declared, hfirst, buildNamedInstance_declared]

theorem classes_scope : (scope v).model.classes = [node] := by
  have htypes : (Model.buildNamespace stamp declaredTypes).value.classes = [node] := by
    rfl
  simp only [scope, Scope.ofDeclared, Model.classes, Model.namespaces_build, declared,
    List.map_cons, List.map_nil, List.flatMap_cons, List.flatMap_nil, htypes, List.append_nil]

theorem notes_build_declared : (Model.build stamp (declared v)).notes = [] := by
  have hclosed : (Model.build stamp (declared "<x>")).notes = [] := by rfl
  exact hclosed

theorem typeNotes_scope : typeCollisions (scope v).model = [] ∧
    invokerKeyNotes (scope v).model = [] ∧ resolutionNotes (scope v) = [] := by
  have hclosed : typeCollisions (scope "<x>").model = [] ∧
    invokerKeyNotes (scope "<x>").model = [] ∧ resolutionNotes (scope "<x>") = [] :=
    ⟨rfl, rfl, rfl⟩
  exact hclosed

theorem instanceClass_scope : (scope v).instanceClass? 1 = some node := by
  have hclosed : (scope "<x>").instanceClass? 1 = some node := by rfl
  exact hclosed

theorem instanceCollisions_scope : instanceCollisions (scope v).model = [] := by
  have hfirst : first.isPlaceholder = false := by rfl
  have hsecond : (second (.value "<x>")).isPlaceholder = false := by rfl
  have hsame : (second (.value v)).isPlaceholder = false := hsecond
  have hnamed : namedOnes (scope v).model = [first, second (.value v)] := by
    simp [namedOnes, namedInstances_scope, hfirst, hsame]
  simp [instanceCollisions, hnamed, instancesCollide, first, second, List.countP_cons]

theorem orderingNotes_scope : orderingNotes (scope v) = [] := by
  simp [orderingNotes, namedInstances_scope, NamedInstance.wirings, first, second, assigned,
    orderNotes]

theorem wiringNotes_scope (hv : Placeholder.isPlaceholder v = true) :
    wiringNotes (scope v) = [] := by
  have hname : Name.isSimple "next" = true := by rfl
  have hparameter : node.parameter? "next" = some next := by rfl
  have hfirst : instanceWiringNotes (scope v) 0 first = [] := by
    simp only [instanceWiringNotes, first]
    exact ite_self _
  have hsecond : instanceWiringNotes (scope v) 1 (second (.value v)) = [] := by
    simp only [instanceWiringNotes, second, instanceClass_scope, assigned, assignmentNotes,
      isLookedUp, hname, hparameter, next]
    -- the one place where the literal is looked at
    simp [interfaceWiringNotes, hv, unassignedNotes, node, next]
  simp [wiringNotes, namedInstances_scope, hfirst, hsecond]

/-- A literal that looks like a placeholder is accepted. -/
theorem literal_eq (hv : Placeholder.isPlaceholder v = true) :
    literal v = { (scope v).model with diagnostics := [] } := by
  have hread : (Declared.Reading.mk "chain" (options.stamp .extract)).readDocument
      (chain (literalEntry v)) = .ok (pure (declared v)) :=
    readDocument_literal (Declared.isNull_of_isPlaceholder hv)
  have hnotes : Check.notes (scope v) = [] := by
    simp [Check.notes, typeNotes_scope, instanceCollisions_scope, orderingNotes_scope,
      wiringNotes_scope hv]
  calc literal v
      = Model.ofDeclared options (declared v) [] := by
        rw [literal, Model.ofNode, hread]
        rfl
    _ = { (scope v).model with
          diagnostics := ([] ++ (Model.build stamp (declared v)).notes ++
            Check.notes (scope v)).map Note.diagnostic } := rfl
    _ = { (scope v).model with diagnostics := [] } := by
        rw [notes_build_declared, hnotes]
        rfl

theorem isGeneratable_literal (hv : Placeholder.isPlaceholder v = true) :
    (literal v).isGeneratable = true := by
  rw [literal_eq hv]
  rfl

/-- The literal is assigned to an interface. -/
theorem putsIntoInterface_literal (hv : Placeholder.isPlaceholder v = true) :
    (literal v).PutsIntoInterface (assigned (.value v)) := by
  have hclass : (second (.value "<x>")).classType.isPrimitive = false := by rfl
  have hassigns : (scope v).model.Assigns (second (.value v)) [assigned (.value v)] node :=
    { mem := by simp [namedInstances_scope]
      initialization := rfl
      notPrimitive := hclass
      declared := by simp [classes_scope]
      qualifiedName := rfl }
  rw [literal_eq hv, Model.putsIntoInterface_withDiagnostics]
  exact ⟨_, _, _, next, .named "App.INode", hassigns, List.mem_singleton.mpr rfl,
    List.mem_singleton.mpr rfl, rfl, rfl⟩

end Sample

namespace Model

/-- A literal is kept out of the interfaces of all generatable models exactly when it does not start
with a bracket. -/
theorem ofNode_interface_literals (v : String) :
    (∀ (options : Options) (source : String) (root : Node),
      (ofNode options source root).isGeneratable = true →
      ∀ a, (ofNode options source root).PutsIntoInterface a → a.wiring ≠ .value v) ↔
    Placeholder.isPlaceholder v = false := by
  constructor
  · intro hall
    by_contra hv
    have hbracket : Placeholder.isPlaceholder v = true := by simpa using hv
    exact hall Sample.options "chain" (Sample.chain (Sample.literalEntry v))
      (Sample.isGeneratable_literal hbracket) _ (Sample.putsIntoInterface_literal hbracket) rfl
  · intro hv options source root h a ha hvalue
    obtain ⟨d, haccepted, diagnostics, he⟩ := exists_accepted h
    rw [he] at ha
    have hbracket := haccepted.isPlaceholder_of_putsIntoInterface
      (putsIntoInterface_withDiagnostics.mp ha) hvalue
    rw [hv] at hbracket
    exact absurd hbracket (by decide)

/-- Some document puts a literal into an interface, and its model is generatable. -/
theorem interface_takes_literal :
    ¬ ∀ (options : Options) (source : String) (root : Node),
      (ofNode options source root).isGeneratable = true →
      ∀ a, (ofNode options source root).PutsIntoInterface a →
        ∃ n, a.wiring = .instanceOf n := by
  intro hall
  have hv : Placeholder.isPlaceholder "<x>" = true := by rfl
  obtain ⟨n, hn⟩ := hall Sample.options "chain" (Sample.chain (Sample.literalEntry "<x>"))
    (Sample.isGeneratable_literal hv) _ (Sample.putsIntoInterface_literal hv)
  exact Wiring.noConfusion hn

end Model

end DependencyWiring
