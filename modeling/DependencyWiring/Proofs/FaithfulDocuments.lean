import DependencyWiring.Interchange
import DependencyWiring.Proofs.AcceptedDocuments
import Mathlib.Data.List.Nodup
import Mathlib.Logic.Function.Basic

/-!
# Faithful documents

The interchange document determines the model, except for moments of which RFC 3339 has no text or
has the same text. So two models with one document differ at most in the moments of their entries of
provenance. This is said here of each entity with its moments erased.
-/
namespace DependencyWiring

/-! ## Entities without moments -/

/-- The moment that stands for an erased one. -/
def Moment.epoch : Moment := ⟨0, 0, 0⟩

def ProvenanceEntry.untimed (e : ProvenanceEntry) : ProvenanceEntry :=
  { e with stamp := { e.stamp with moment := .epoch } }

def Provenance.untimed (p : Provenance) : Provenance :=
  ⟨p.first.untimed, p.later.map ProvenanceEntry.untimed⟩

def CodeGen.untimed (c : CodeGen) : CodeGen :=
  { c with provenance := c.provenance.untimed }

def Interface.untimed (i : Interface) : Interface :=
  { i with provenance := i.provenance.untimed }

def Parameter.untimed (p : Parameter) : Parameter :=
  { p with provenance := p.provenance.untimed }

def Class.untimed (c : Class) : Class :=
  { c with
    parameters := c.parameters.map Parameter.untimed
    provenance := c.provenance.untimed }

def Namespace.untimed (ns : Namespace) : Namespace :=
  { ns with
    interfaces := ns.interfaces.map Interface.untimed
    classes := ns.classes.map Class.untimed
    provenance := ns.provenance.untimed }

def Assignment.untimed (a : Assignment) : Assignment :=
  { a with provenance := a.provenance.untimed }

def Element.untimed (e : Element) : Element :=
  { e with provenance := e.provenance.untimed }

def Initialization.untimed : Initialization → Initialization
  | default => default
  | assignments items => assignments (items.map Assignment.untimed)
  | elements items => elements (items.map Element.untimed)

def NamedInstance.untimed (i : NamedInstance) : NamedInstance :=
  { i with
    initialization := i.initialization.untimed
    provenance := i.provenance.untimed }

/-- The model with the moments of all its entries of provenance erased. -/
def Model.untimed (m : Model) : Model :=
  { m with
    codeGen := m.codeGen.untimed
    namespaces := m.namespaces.map Namespace.untimed
    namedInstances := m.namedInstances.map NamedInstance.untimed
    provenance := m.provenance.untimed }

/-! ## Parts that documents determine -/

theorem Stage.name_injective : Function.Injective Stage.name := by
  intro s t h
  cases s <;> cases t <;> simp_all [name]

theorem Severity.name_injective : Function.Injective Severity.name := by
  intro s t h
  cases s <;> cases t <;> simp_all [name]

theorem Code.name_injective : Function.Injective Code.name := by
  have hnodup : (all.map name).Nodup := by simp [all, name]
  intro c d h
  exact List.inj_on_of_nodup_map hnodup c.mem_all d.mem_all h

namespace Interchange

/-- What the images tell of single values they tell of lists. -/
theorem factorsThrough_map {α β γ : Type} {f : α → β} {g : α → γ}
    (hg : Function.FactorsThrough g f) : Function.FactorsThrough (List.map g) (List.map f) := by
  intro as bs h
  induction as generalizing bs with
  | nil =>
    obtain rfl : bs = [] := by simpa using h.symm
    rfl
  | cons a as ih =>
    cases bs with
    | nil => simp at h
    | cons b bs =>
      obtain ⟨hhead, htail⟩ := List.cons.inj h
      rw [List.map_cons, List.map_cons, hg hhead, ih htail]

theorem optional_injective {α : Type} {f : α → Json} (hf : Function.Injective f)
    (hnull : ∀ a, f a ≠ .null) : Function.Injective (optional f) := by
  intro a b h
  cases a with
  | none =>
    cases b with
    | none => rfl
    | some b => exact absurd h.symm (hnull b)
  | some a =>
    cases b with
    | none => exact absurd h (hnull a)
    | some b => exact congrArg some (hf h)

theorem string_injective : Function.Injective Json.string :=
  fun _ _ h => Json.string.inj h

theorem nat_injective : Function.Injective Json.nat := by
  intro m n h
  exact Int.ofNat.inj (Json.Number.integer.inj (Json.number.inj h))

theorem ofTypeRef_injective : Function.Injective ofTypeRef := by
  rintro ⟨base, isArray, container, element⟩ ⟨base', isArray', container', element'⟩ h
  simp only [ofTypeRef, Json.object.injEq, List.cons.injEq, Prod.mk.injEq, Json.string.injEq,
    Json.bool.injEq, true_and, and_true] at h
  obtain ⟨rfl, rfl, rfl, rfl, -⟩ := h
  rfl

theorem ofWiring_injective : Function.Injective ofWiring := by
  intro v w h
  cases v <;> cases w <;> simp_all [ofWiring]

theorem ofDiagnostic_injective : Function.Injective ofDiagnostic := by
  rintro ⟨code, severity, message, location, line⟩
    ⟨code', severity', message', location', line'⟩ h
  obtain ⟨hcode, hrest⟩ := List.cons.inj (Json.object.inj h)
  obtain rfl := Code.name_injective (Json.string.inj (Prod.mk.inj hcode).2)
  -- A document without a line has one member fewer, so the members are compared line by line.
  obtain ⟨rfl, rfl, rfl, hseverity⟩ : line = line' ∧ location = location' ∧ message = message' ∧
      severity.name = severity'.name := by
    cases line <;> cases line' <;> simp_all [nat_injective.eq_iff]
  obtain rfl := Severity.name_injective hseverity
  rfl

theorem untimed_ofEntry : Function.FactorsThrough ProvenanceEntry.untimed ofEntry := by
  rintro ⟨⟨source, line, column, path⟩, stage, tool, moment⟩
    ⟨⟨source', line', column', path'⟩, stage', tool', moment'⟩ h
  simp only [ofEntry, Json.object.injEq, List.cons.injEq, Prod.mk.injEq, Json.string.injEq,
    true_and, and_true] at h
  obtain ⟨hcolumn, hline, rfl, rfl, hstage, -, rfl⟩ := h
  obtain rfl := optional_injective nat_injective (fun _ => by simp [Json.nat]) hcolumn
  obtain rfl := nat_injective hline
  obtain rfl := Stage.name_injective hstage
  rfl

theorem untimed_ofProvenance : Function.FactorsThrough Provenance.untimed ofProvenance := by
  rintro ⟨first, later⟩ ⟨first', later'⟩ h
  simp only [ofProvenance, Json.object.injEq, List.cons.injEq, Prod.mk.injEq, Json.array.injEq,
    true_and, and_true] at h
  obtain ⟨hfirst, hlater⟩ := List.cons.inj (factorsThrough_map untimed_ofEntry h)
  simp only [Provenance.untimed, hfirst, hlater]

/-! ## Entities that documents determine -/

theorem untimed_ofCodeGen : Function.FactorsThrough CodeGen.untimed ofCodeGen := by
  rintro ⟨registry, path, namespaceName, initializer, packages, provenance⟩
    ⟨registry', path', namespaceName', initializer', packages', provenance'⟩ h
  simp only [ofCodeGen, Json.object.injEq, List.cons.injEq, Prod.mk.injEq, Json.string.injEq,
    Json.array.injEq, true_and, and_true] at h
  obtain ⟨rfl, rfl, rfl, hpackages, hprovenance, rfl⟩ := h
  obtain rfl := string_injective.list_map hpackages
  simp only [CodeGen.untimed, untimed_ofProvenance hprovenance]

theorem untimed_ofInterface : Function.FactorsThrough Interface.untimed ofInterface := by
  rintro ⟨name, qualifiedName, provenance⟩ ⟨name', qualifiedName', provenance'⟩ h
  simp only [ofInterface, Json.object.injEq, List.cons.injEq, Prod.mk.injEq, Json.string.injEq,
    true_and, and_true] at h
  obtain ⟨rfl, hprovenance, rfl⟩ := h
  simp only [Interface.untimed, untimed_ofProvenance hprovenance]

theorem untimed_ofParameter : Function.FactorsThrough Parameter.untimed ofParameter := by
  rintro ⟨name, type, isValid, provenance⟩ ⟨name', type', isValid', provenance'⟩ h
  simp only [ofParameter, Json.object.injEq, List.cons.injEq, Prod.mk.injEq, Json.string.injEq,
    Json.bool.injEq, true_and, and_true] at h
  obtain ⟨rfl, hkind, rfl, hprovenance, htype⟩ := h
  -- The type alone does not tell a class from an interface, which the kind does.
  have htypes := ofTypeRef_injective htype
  obtain rfl : type = type' := by
    cases type <;> cases type' <;> simp_all [ParameterType.isInterface, ParameterType.type]
  simp only [Parameter.untimed, untimed_ofProvenance hprovenance]

theorem untimed_ofClass : Function.FactorsThrough Class.untimed ofClass := by
  rintro ⟨name, qualifiedName, interfaceName, returnType, key, parameters, provenance⟩
    ⟨name', qualifiedName', interfaceName', returnType', key', parameters', provenance'⟩ h
  simp only [ofClass, Json.object.injEq, List.cons.injEq, Prod.mk.injEq, Json.string.injEq,
    Json.array.injEq, true_and, and_true] at h
  obtain ⟨rfl, rfl, hparameters, rfl, hprovenance, hinterface, rfl⟩ := h
  obtain rfl := optional_injective string_injective (by simp) hinterface
  simp only [Class.untimed, untimed_ofProvenance hprovenance,
    factorsThrough_map untimed_ofParameter hparameters]

theorem untimed_ofNamespace : Function.FactorsThrough Namespace.untimed ofNamespace := by
  rintro ⟨name, interfaces, classes, provenance⟩ ⟨name', interfaces', classes', provenance'⟩ h
  simp only [ofNamespace, Json.object.injEq, List.cons.injEq, Prod.mk.injEq, Json.string.injEq,
    Json.array.injEq, true_and, and_true] at h
  obtain ⟨hclasses, hinterfaces, rfl, hprovenance⟩ := h
  simp only [Namespace.untimed, untimed_ofProvenance hprovenance,
    factorsThrough_map untimed_ofInterface hinterfaces, factorsThrough_map untimed_ofClass hclasses]

theorem untimed_ofAssignment : Function.FactorsThrough Assignment.untimed ofAssignment := by
  rintro ⟨name, wiring, isValid, provenance⟩ ⟨name', wiring', isValid', provenance'⟩ h
  simp only [ofAssignment, Json.object.injEq, List.cons.injEq, Prod.mk.injEq, Json.string.injEq,
    Json.bool.injEq, true_and, and_true] at h
  obtain ⟨rfl, rfl, hprovenance, hwiring⟩ := h
  obtain rfl := ofWiring_injective hwiring
  simp only [Assignment.untimed, untimed_ofProvenance hprovenance]

theorem untimed_ofElement : Function.FactorsThrough Element.untimed ofElement := by
  rintro ⟨wiring, isValid, provenance⟩ ⟨wiring', isValid', provenance'⟩ h
  simp only [ofElement, Json.object.injEq, List.cons.injEq, Prod.mk.injEq, Json.bool.injEq,
    true_and, and_true] at h
  obtain ⟨rfl, hprovenance, hwiring⟩ := h
  obtain rfl := ofWiring_injective hwiring
  simp only [Element.untimed, untimed_ofProvenance hprovenance]

/-- The kind tells which list there is, so an empty list is not taken for none. -/
theorem untimed_ofInitialization :
    Function.FactorsThrough Initialization.untimed ofInitialization := by
  intro a b h
  cases a with
  | default => cases b <;> simp_all [ofInitialization]
  | assignments items =>
    cases b with
    | default => simp [ofInitialization] at h
    | assignments items' =>
      simp only [ofInitialization, Json.object.injEq, List.cons.injEq, Prod.mk.injEq,
        Json.array.injEq, true_and] at h
      simp only [Initialization.untimed, factorsThrough_map untimed_ofAssignment h.1]
    | elements items' => simp [ofInitialization] at h
  | elements items =>
    cases b with
    | default => simp [ofInitialization] at h
    | assignments items' => simp [ofInitialization] at h
    | elements items' =>
      simp only [ofInitialization, Json.object.injEq, List.cons.injEq, Prod.mk.injEq,
        Json.array.injEq, true_and] at h
      simp only [Initialization.untimed, factorsThrough_map untimed_ofElement h.1]

theorem untimed_ofNamedInstance :
    Function.FactorsThrough NamedInstance.untimed ofNamedInstance := by
  rintro ⟨name, classType, interfaceType, initialization, isValid, provenance⟩
    ⟨name', classType', interfaceType', initialization', isValid', provenance'⟩ h
  simp only [ofNamedInstance, Json.object.injEq, List.cons.injEq, Prod.mk.injEq,
    Json.string.injEq, Json.bool.injEq, true_and, and_true] at h
  obtain ⟨hclass, hinitialization, hinterface, rfl, rfl, hprovenance⟩ := h
  obtain rfl := ofTypeRef_injective hclass
  obtain rfl := optional_injective ofTypeRef_injective (by simp [ofTypeRef]) hinterface
  simp only [NamedInstance.untimed, untimed_ofProvenance hprovenance,
    untimed_ofInitialization hinitialization]

end Interchange

/-! ## The model -/

/-- Models with one document are the same but for moments. -/
theorem Model.untimed_eq_of_ofModel {m n : Model}
    (h : Interchange.ofModel m = Interchange.ofModel n) : m.untimed = n.untimed := by
  obtain ⟨source, codeGen, namespaces, namedInstances, provenance, diagnostics⟩ := m
  obtain ⟨source', codeGen', namespaces', namedInstances', provenance', diagnostics'⟩ := n
  simp only [Interchange.ofModel, Interchange.ofDiagnostics, Json.object.injEq, List.cons.injEq,
    Prod.mk.injEq, Json.string.injEq, Json.array.injEq, true_and, and_true] at h
  obtain ⟨hcodeGen, hdiagnostics, hinstances, hnamespaces, hprovenance, rfl⟩ := h
  obtain rfl := Interchange.ofDiagnostic_injective.list_map hdiagnostics
  simp only [untimed, Interchange.untimed_ofCodeGen hcodeGen,
    Interchange.factorsThrough_map Interchange.untimed_ofNamespace hnamespaces,
    Interchange.factorsThrough_map Interchange.untimed_ofNamedInstance hinstances,
    Interchange.untimed_ofProvenance hprovenance]

/-- RFC 3339 has no text for an offset with seconds. -/
theorem Moment.text_eq_empty {m : Moment} (h : m.offset.natAbs % 60 ≠ 0) : m.text = "" := by
  simp [text, rfc3339?, h]

namespace Sample

/-- A run at a second of a clock whose offset is one second. -/
def clocked (second : Int) : Options :=
  ⟨Options.defaultTool, ⟨second, 0, 1⟩, none⟩

/-- The model in which the second node is wired to a missing one, from such a run. -/
def dangling (second : Int) : Model :=
  Model.ofNode (clocked second) "chain" (chain (entry "namedInstanceName" "Third"))

def clockedPlace (second : Int) (path : String) : Provenance :=
  let origin := ⟨"chain", 0, none, path⟩
  ⟨⟨origin, (clocked second).stamp .extract⟩, [⟨origin, (clocked second).stamp .transform⟩]⟩

/-- What there is in that model, with the second left open. -/
def danglingParts (second : Int) : Model where
  source := "chain"
  codeGen := ⟨"Registry", "Generated", "App.Generated", "Initialize", [],
    clockedPlace second "codeGen"⟩
  namespaces := [⟨"App",
    [⟨"INode", "App.INode", clockedPlace second "namespaces[0].interfaces[0]"⟩],
    [⟨"Node", "App.Node", some "App.INode", "App.INode", "App_Node",
      [⟨"next", .interfaceType (.named "App.INode"), true,
        clockedPlace second "namespaces[0].classes[0].initializerParameters[0]"⟩],
      clockedPlace second "namespaces[0].classes[0]"⟩],
    clockedPlace second "namespaces[0]"⟩]
  namedInstances :=
    [⟨"First", .named "App.Node", none, .default, true, clockedPlace second "namedInstances[0]"⟩,
      ⟨"Second", .named "App.Node", none,
        .assignments [⟨"next", .instanceOf "Third", true,
          clockedPlace second "namedInstances[1].assignments[0]"⟩], true,
        clockedPlace second "namedInstances[1]"⟩]
  provenance := clockedPlace second "$"
  diagnostics := [⟨.namedInstanceMissing, .error,
    "named instance 'Second' references 'Third', which is not declared",
    "chain#namedInstances[1].assignments[0]", some 0⟩]

theorem dangling_eq : dangling 0 = danglingParts 0 ∧ dangling 1 = danglingParts 1 := by
  decide +kernel

theorem ofProvenance_clockedPlace (second : Int) (path : String) :
    Interchange.ofProvenance (clockedPlace second path) =
      Interchange.ofProvenance (clockedPlace 0 path) := by
  have htext (s : Int) : (⟨s, 0, 1⟩ : Moment).text = "" := Moment.text_eq_empty (by simp)
  simp only [clockedPlace, Interchange.ofProvenance, Provenance.entries, List.map,
    Interchange.ofEntry, Options.stamp, clocked, htext]

theorem ofModel_danglingParts (second : Int) :
    Interchange.ofModel (danglingParts second) = Interchange.ofModel (danglingParts 0) := by
  simp only [danglingParts, Interchange.ofModel, Interchange.ofCodeGen, Interchange.ofNamespace,
    Interchange.ofInterface, Interchange.ofClass, Interchange.ofParameter,
    Interchange.ofNamedInstance, Interchange.ofInitialization, Interchange.ofAssignment,
    Initialization.kind, List.map, ofProvenance_clockedPlace second]

theorem ofModel_dangling : Interchange.ofModel (dangling 0) = Interchange.ofModel (dangling 1) := by
  rw [dangling_eq.1, dangling_eq.2, ofModel_danglingParts 1]

end Sample

/-- Neither moment has a text, so the documents are one, and only the moments of the models
differ. -/
theorem Model.untimed_dangling :
    Sample.dangling 0 ≠ Sample.dangling 1 ∧
      Interchange.ofModel (Sample.dangling 0) = Interchange.ofModel (Sample.dangling 1) ∧
      (Sample.dangling 0).untimed = (Sample.dangling 1).untimed := by
  refine ⟨?_, Sample.ofModel_dangling, untimed_eq_of_ofModel Sample.ofModel_dangling⟩
  rw [Sample.dangling_eq.1, Sample.dangling_eq.2]
  decide

end DependencyWiring
