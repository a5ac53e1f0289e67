import DependencyWiring.Declared
import DependencyWiring.Model
import DependencyWiring.Report
import Mathlib.Data.List.Forall2

/-!
# Compared runs

Two runs on documents that are alike make values that are alike. A comparison says how: it tells
where the places of the first run are found in the second, and when two lists of notes count as the
same. Notes on unknown keys are left to each comparison, since only they depend on how the keys of a
document are written down. Whatever is made step by step compares when every step does, so there is
one rule for each way of putting steps together.
-/
namespace DependencyWiring

/-! ## Relocations -/

/-- Where sources, places and entities of one run are found in another. -/
structure Relocation where
  source : String → String
  origin : Origin → Origin
  provenance : Provenance → Provenance
  origin_provenance (p : Provenance) : (provenance p).origin = origin p.origin

/-- Everything is found where it is. -/
def Relocation.identity : Relocation :=
  ⟨fun s => s, fun o => o, fun p => p, fun _ => rfl⟩

@[simp] theorem Relocation.source_identity (s : String) : identity.source s = s := rfl

@[simp] theorem Relocation.provenance_identity (p : Provenance) : identity.provenance p = p := rfl

namespace Declared

variable (m : Relocation)

def Field.relocate (f : Field) : Field :=
  { f with origin := m.origin f.origin }

def Reference.relocate (r : Reference) : Reference :=
  { r with text := r.text.relocate m }

def CodeGen.relocate (d : CodeGen) : CodeGen where
  registryClassName := d.registryClassName.relocate m
  generatedCodePath := d.generatedCodePath.relocate m
  namespaceName := d.namespaceName.relocate m
  initializerName := d.initializerName.relocate m
  packageReferences := d.packageReferences.map (Field.relocate m)
  placeholder := d.placeholder
  provenance := m.provenance d.provenance

def Interface.relocate (d : Interface) : Interface :=
  { d with
    name := d.name.relocate m
    provenance := m.provenance d.provenance }

def Parameter.relocate (d : Parameter) : Parameter :=
  { d with
    name := d.name.relocate m
    classRef := d.classRef.map (Reference.relocate m)
    interfaceRef := d.interfaceRef.map (Reference.relocate m)
    provenance := m.provenance d.provenance }

def Class.relocate (d : Class) : Class :=
  { d with
    name := d.name.relocate m
    interfaceRef := d.interfaceRef.map (Reference.relocate m)
    parameters := d.parameters.map (List.map (Parameter.relocate m))
    provenance := m.provenance d.provenance }

def Namespace.relocate (d : Namespace) : Namespace :=
  { d with
    name := d.name.relocate m
    interfaces := d.interfaces.map (Interface.relocate m)
    classes := d.classes.map (Class.relocate m)
    provenance := m.provenance d.provenance }

def Assignment.relocate (d : Assignment) : Assignment :=
  { d with
    parameterName := d.parameterName.relocate m
    value := d.value.map (Field.relocate m)
    instanceRef := d.instanceRef.map (Field.relocate m)
    provenance := m.provenance d.provenance }

def Element.relocate (d : Element) : Element :=
  { d with
    value := d.value.map (Field.relocate m)
    instanceRef := d.instanceRef.map (Field.relocate m)
    provenance := m.provenance d.provenance }

def NamedInstance.relocate (d : NamedInstance) : NamedInstance :=
  { d with
    name := d.name.relocate m
    classRef := d.classRef.relocate m
    interfaceRef := d.interfaceRef.map (Reference.relocate m)
    assignments := d.assignments.map (List.map (Assignment.relocate m))
    elements := d.elements.map (List.map (Element.relocate m))
    provenance := m.provenance d.provenance }

def Model.relocate (d : Model) : Model where
  source := m.source d.source
  codeGen := d.codeGen.relocate m
  namespaces := d.namespaces.map (Namespace.relocate m)
  namedInstances := d.namedInstances.map (NamedInstance.relocate m)
  provenance := m.provenance d.provenance

@[simp] theorem Reference.resolved_relocate (r : Reference) :
    (r.relocate m).resolved = r.resolved := rfl

@[simp] theorem Reference.isUsable_relocate (r : Reference) :
    (r.relocate m).isUsable = r.isUsable := rfl

/-! Nothing changes when everything is found where it is. -/

@[simp] theorem Field.relocate_identity : Field.relocate .identity = id := rfl

@[simp] theorem Reference.relocate_identity : Reference.relocate .identity = id := rfl

@[simp] theorem Interface.relocate_identity : Interface.relocate .identity = id := rfl

@[simp] theorem Parameter.relocate_identity : Parameter.relocate .identity = id := by
  funext d
  simp [relocate]

@[simp] theorem Class.relocate_identity : Class.relocate .identity = id := by
  funext d
  simp [relocate]

@[simp] theorem Namespace.relocate_identity : Namespace.relocate .identity = id := by
  funext d
  simp [relocate]

@[simp] theorem Assignment.relocate_identity : Assignment.relocate .identity = id := by
  funext d
  simp [relocate]

@[simp] theorem Element.relocate_identity : Element.relocate .identity = id := by
  funext d
  simp [relocate]

@[simp] theorem NamedInstance.relocate_identity : NamedInstance.relocate .identity = id := by
  funext d
  simp [relocate]

@[simp] theorem Model.relocate_identity (d : Model) : d.relocate .identity = d := by
  simp [relocate, CodeGen.relocate]

end Declared

/-! ## Comparisons -/

/-- Whether a finding is about a key that a declaration may not have. -/
def Finding.isUnknownKey : Finding → Bool
  | unknownKey .. => true
  | _ => false

def Note.isUnknownKey (n : Note) : Bool :=
  n.finding.isUnknownKey

def Diagnostic.isUnknownKey (d : Diagnostic) : Bool :=
  d.code = .unknownKey

/-- No other finding has the code of an unknown key. -/
theorem Finding.code_eq_unknownKey_iff (f : Finding) :
    f.code = .unknownKey ↔ f.isUnknownKey = true := by
  have hname : ∀ value form, nameCode value form ≠ .unknownKey := by
    intro value form
    cases form with
    | simple => simp [nameCode]
    | simpleOrQualified =>
      simp only [nameCode]
      split <;> simp
  cases f with
  | invalidName value form key => simpa [code, isUnknownKey] using hname value form
  | illFormedName value form => simpa [code, isUnknownKey] using hname value form
  | invalidToken key cause => cases cause <;> simp [code, isUnknownKey]
  | bothValueAndReference site => cases site <;> simp [code, isUnknownKey]
  | neitherValueNorReference site => cases site <;> simp [code, isUnknownKey]
  | _ => simp [code, isUnknownKey]

theorem Note.isUnknownKey_diagnostic (n : Note) : n.diagnostic.isUnknownKey = n.isUnknownKey := by
  have hcode := n.finding.code_eq_unknownKey_iff
  unfold Diagnostic.isUnknownKey
  rw [Bool.eq_iff_iff, decide_eq_true_iff]
  exact hcode

theorem Note.filter_unknown_diagnostics (notes : List Note) :
    (notes.map Note.diagnostic).filter Diagnostic.isUnknownKey =
      (notes.filter Note.isUnknownKey).map Note.diagnostic := by
  rw [List.filter_map]
  exact congrArg (fun p => (notes.filter p).map _) (funext isUnknownKey_diagnostic)

theorem Note.filter_known_diagnostics (notes : List Note) :
    (notes.map Note.diagnostic).filter (fun d => !d.isUnknownKey) =
      (notes.filter fun n => !n.isUnknownKey).map Note.diagnostic := by
  rw [List.filter_map]
  refine congrArg (fun p => (notes.filter p).map _) (funext fun n => ?_)
  exact congrArg not n.isUnknownKey_diagnostic

/-- A relocation, and when notes of the one run count as notes of the other. -/
structure Comparison extends Relocation where
  notes : List Note → List Note → Prop
  nil : notes [] []
  append {as as' bs bs' : List Note} :
    notes as as' → notes bs bs' → notes (as ++ bs) (as' ++ bs')
  single {finding : Finding} (o : Origin) :
    finding.isUnknownKey = false → notes [⟨finding, o⟩] [⟨finding, origin o⟩]

namespace Comparison

variable {α β : Type} (c : Comparison)

theorem notes_ite {p : Prop} [Decidable p] {as as' bs bs' : List Note} (has : c.notes as as')
    (hbs : c.notes bs bs') : c.notes (if p then as else bs) (if p then as' else bs') := by
  split
  · exact has
  · exact hbs

theorem notes_flatMap {f : α → List Note} {g : β → List Note} {φ : α → β} {as : List α}
    (h : ∀ a ∈ as, c.notes (f a) (g (φ a))) : c.notes (as.flatMap f) ((as.map φ).flatMap g) := by
  induction as with
  | nil => exact c.nil
  | cons a as ih =>
    obtain ⟨ha, has⟩ := List.forall_mem_cons.mp h
    exact c.append ha (ih has)

theorem notes_filterMap {f : α → Option Note} {g : β → Option Note} {φ : α → β} {as : List α}
    (h : ∀ a ∈ as, c.notes (f a).toList (g (φ a)).toList) :
    c.notes (as.filterMap f) ((as.map φ).filterMap g) := by
  rw [List.filterMap_eq_flatMap_toList, List.filterMap_eq_flatMap_toList]
  exact c.notes_flatMap h

end Comparison

/-! ## Reports that compare -/

namespace Report

variable {α β γ δ : Type} {c : Comparison} {V : α → β → Prop} {W : γ → δ → Prop}

/-- The values correspond, and the notes of the first report count as those of the second. -/
structure Matches (c : Comparison) (V : α → β → Prop) (p : Report α) (q : Report β) : Prop where
  value : V p.value q.value
  notes : c.notes p.notes q.notes

theorem Matches.pure {a : α} {b : β} (h : V a b) :
    (Pure.pure a : Report α).Matches c V (Pure.pure b) :=
  ⟨h, c.nil⟩

theorem Matches.bind {p : Report α} {q : Report β} {f : α → Report γ} {g : β → Report δ}
    (h : p.Matches c V q) (hf : ∀ a b, V a b → (f a).Matches c W (g b)) :
    (p >>= f).Matches c W (q >>= g) :=
  have hrest := hf p.value q.value h.value
  ⟨hrest.value, c.append h.notes hrest.notes⟩

/-- The rule for a value that the first one determines. -/
theorem Matches.bindMap {p : Report α} {q : Report β} {f : α → Report γ} {g : β → Report δ}
    {φ : α → β} (h : p.Matches c (fun a b => b = φ a) q)
    (hf : ∀ a, (f a).Matches c W (g (φ a))) : (p >>= f).Matches c W (q >>= g) :=
  h.bind fun a _ hab => hab ▸ hf a

theorem Matches.note {finding : Finding} {o o' : Origin} (hf : finding.isUnknownKey = false)
    (ho : o' = c.origin o) :
    (Report.note finding o).Matches c (fun _ _ => True) (Report.note finding o') :=
  ⟨trivial, ho ▸ c.single o hf⟩

theorem Matches.noteIf {condition : Bool} {finding : Finding} {o o' : Origin}
    (hf : finding.isUnknownKey = false) (ho : o' = c.origin o) :
    (Report.noteIf condition finding o).Matches c (fun _ _ => True)
      (Report.noteIf condition finding o') := by
  cases condition with
  | false => exact .pure trivial
  | true => exact .note hf ho

theorem Matches.forEach {f : α → Report γ} {g : β → Report δ} {φ : α → β} {ψ : γ → δ}
    {as : List α} (h : ∀ a ∈ as, (f a).Matches c (fun x y => y = ψ x) (g (φ a))) :
    (Report.forEach f as).Matches c (fun xs ys => ys = xs.map ψ)
      (Report.forEach g (as.map φ)) := by
  induction as with
  | nil => exact .pure rfl
  | cons a as ih =>
    obtain ⟨ha, has⟩ := List.forall_mem_cons.mp h
    refine .bindMap ha fun x => ?_
    exact .bindMap (ih has) fun xs => .pure rfl

theorem Matches.forEachFrom {f : Nat → α → Report γ} {g : Nat → β → Report δ} {ψ : γ → δ}
    {as : List α} {bs : List β} (hab : List.Forall₂ V as bs)
    (h : ∀ i a b, V a b → (f i a).Matches c (fun x y => y = ψ x) (g i b)) (start : Nat) :
    (Report.forEachFrom f start as).Matches c (fun xs ys => ys = xs.map ψ)
      (Report.forEachFrom g start bs) := by
  induction hab generalizing start with
  | nil => exact .pure rfl
  | cons hhead _ ih =>
    refine .bindMap (h start _ _ hhead) fun x => ?_
    exact .bindMap (ih (start + 1)) fun xs => .pure rfl

end Report

end DependencyWiring
