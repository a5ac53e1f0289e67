import DependencyWiring.Model.Builder
import DependencyWiring.Proofs.ComparedRuns

/-!
# Compared models

The builder looks at no source, position, tool or moment. What is declared elsewhere it builds
elsewhere, and what it notes compares, whatever the comparison.
-/
namespace DependencyWiring

/-! ## Entities elsewhere -/

section

variable (m : Relocation)

def CodeGen.relocate (g : CodeGen) : CodeGen :=
  { g with provenance := m.provenance g.provenance }

def Interface.relocate (i : Interface) : Interface :=
  { i with provenance := m.provenance i.provenance }

def Parameter.relocate (p : Parameter) : Parameter :=
  { p with provenance := m.provenance p.provenance }

def Class.relocate (c : Class) : Class :=
  { c with
    parameters := c.parameters.map (Parameter.relocate m)
    provenance := m.provenance c.provenance }

def Namespace.relocate (ns : Namespace) : Namespace :=
  { ns with
    interfaces := ns.interfaces.map (Interface.relocate m)
    classes := ns.classes.map (Class.relocate m)
    provenance := m.provenance ns.provenance }

def Assignment.relocate (a : Assignment) : Assignment :=
  { a with provenance := m.provenance a.provenance }

def Element.relocate (e : Element) : Element :=
  { e with provenance := m.provenance e.provenance }

def Initialization.relocate : Initialization → Initialization
  | default => default
  | assignments items => assignments (items.map (Assignment.relocate m))
  | elements items => elements (items.map (Element.relocate m))

def NamedInstance.relocate (i : NamedInstance) : NamedInstance :=
  { i with
    initialization := i.initialization.relocate m
    provenance := m.provenance i.provenance }

/-- The model elsewhere. Its diagnostics are made later, so they are left as they are. -/
def Model.relocate (x : Model) : Model :=
  { x with
    source := m.source x.source
    codeGen := x.codeGen.relocate m
    namespaces := x.namespaces.map (Namespace.relocate m)
    namedInstances := x.namedInstances.map (NamedInstance.relocate m)
    provenance := m.provenance x.provenance }

end

/-! ## Building -/

/-- The one stamp marks an entity as the other marks it elsewhere. -/
def Relocation.Carries (m : Relocation) (stamp stamp' : Stamp) : Prop :=
  ∀ p, stamp'.extend (m.provenance p) = m.provenance (stamp.extend p)

namespace Model

open Report

variable {c : Comparison} {stamp stamp' : Stamp}

theorem matches_recheck (f : Declared.Field) (form : NameForm) :
    (recheck f form).Matches c (fun b b' => b' = b)
      (recheck (f.relocate c.toRelocation) form) := by
  have hvalid : (f.relocate c.toRelocation).isValid = f.isValid := rfl
  have hvalue : (f.relocate c.toRelocation).value = f.value := rfl
  unfold recheck
  extract_lets hasForm hasForm'
  have hform : hasForm' = hasForm := rfl
  rw [hvalid, hform]
  split
  · exact .pure rfl
  · split
    · exact .pure rfl
    · exact .bind (.note rfl rfl) fun _ _ _ => .pure rfl

theorem matches_parameterType (d : Declared.Parameter) :
    (parameterType d).Matches c (fun t t' => t' = t)
      (parameterType (d.relocate c.toRelocation)) := by
  have hplace : (d.relocate c.toRelocation).provenance.origin = c.origin d.provenance.origin :=
    c.origin_provenance d.provenance
  obtain ⟨name, classRef, interfaceRef, placeholder, provenance⟩ := d
  cases classRef with
  | none =>
    cases interfaceRef with
    | none => exact .bind (.noteIf rfl hplace) fun _ _ _ => .pure rfl
    | some i => exact .pure rfl
  | some ref =>
    cases interfaceRef with
    | none => exact .pure rfl
    | some i => exact .bind (.note rfl hplace) fun _ _ _ => .pure rfl

theorem matches_buildWiring (value instanceRef : Option Declared.Field) (placeholder : Bool)
    (provenance : Provenance) (site : WiringSite) :
    (buildWiring value instanceRef placeholder provenance site).Matches c (fun w w' => w' = w)
      (buildWiring (value.map (Declared.Field.relocate c.toRelocation))
        (instanceRef.map (Declared.Field.relocate c.toRelocation)) placeholder
        (c.provenance provenance) site) := by
  have hplace := c.origin_provenance provenance
  cases value with
  | none =>
    cases instanceRef with
    | none => exact .bind (.noteIf rfl hplace) fun _ _ _ => .pure rfl
    | some i => exact .pure rfl
  | some v =>
    cases instanceRef with
    | none => exact .pure rfl
    | some i => exact .bind (.note rfl hplace) fun _ _ _ => .pure rfl

variable (h : c.Carries stamp stamp')

include h

theorem matches_buildCodeGen (d : Declared.CodeGen) :
    (buildCodeGen stamp d).Matches c (fun g g' => g' = g.relocate c.toRelocation)
      (buildCodeGen stamp' (d.relocate c.toRelocation)) := by
  refine .bind (matches_recheck _ _) fun _ _ _ => ?_
  refine .bind (matches_recheck _ _) fun _ _ _ => ?_
  refine .bind (matches_recheck _ _) fun _ _ _ => .pure ?_
  simp [CodeGen.relocate, Declared.CodeGen.relocate, Declared.Field.relocate, Function.comp_def,
    h d.provenance]

theorem matches_buildInterface (namespaceName : String) (d : Declared.Interface) :
    (buildInterface stamp namespaceName d).Matches c (fun i i' => i' = i.relocate c.toRelocation)
      (buildInterface stamp' namespaceName (d.relocate c.toRelocation)) := by
  refine .bindMap (matches_recheck d.name .simple) fun nameOk => ?_
  refine .bind (.noteIf rfl rfl) fun _ _ _ => .pure ?_
  simp [Interface.relocate, Declared.Interface.relocate, Declared.Field.relocate, h d.provenance]

theorem matches_buildParameter (d : Declared.Parameter) :
    (buildParameter stamp d).Matches c (fun p p' => p' = p.relocate c.toRelocation)
      (buildParameter stamp' (d.relocate c.toRelocation)) := by
  refine .bindMap (matches_recheck d.name .simple) fun nameOk => ?_
  refine .bindMap (matches_parameterType d) fun type => .pure ?_
  simp [Parameter.relocate, Declared.Parameter.relocate, Declared.Field.relocate, h d.provenance]

/-- Which parameters are noted as repeated depends on their names alone. -/
theorem matches_buildParameters (className : String) (seen : List String)
    (ds : List Declared.Parameter) :
    (buildParameters stamp className seen ds).Matches c
      (fun ps ps' => ps' = ps.map (Parameter.relocate c.toRelocation))
      (buildParameters stamp' className seen
        (ds.map (Declared.Parameter.relocate c.toRelocation))) := by
  induction ds generalizing seen with
  | nil => exact .pure rfl
  | cons d ds ih =>
    refine .bind (.noteIf rfl rfl) fun _ _ _ => ?_
    refine .bindMap (matches_buildParameter h d) fun p => ?_
    exact .bindMap (ih _) fun ps => .pure rfl

theorem matches_buildClass (namespaceName : String) (d : Declared.Class) :
    (buildClass stamp namespaceName d).Matches c (fun x x' => x' = x.relocate c.toRelocation)
      (buildClass stamp' namespaceName (d.relocate c.toRelocation)) := by
  have hparameters : (d.relocate c.toRelocation).parameters.getD [] =
      (d.parameters.getD []).map (Declared.Parameter.relocate c.toRelocation) := by
    simp only [Declared.Class.relocate]
    cases d.parameters <;> rfl
  refine .bindMap (matches_recheck d.name .simple) fun nameOk => ?_
  refine .bind (.noteIf rfl rfl) fun _ _ _ => ?_
  rw [hparameters]
  refine .bindMap (matches_buildParameters h _ _ _) fun parameters => .pure ?_
  simp [Class.relocate, Declared.Class.relocate, Declared.Field.relocate,
    Declared.Reference.relocate, Declared.Reference.resolved, Function.comp_def, h d.provenance]

theorem matches_buildNamespace (d : Declared.Namespace) :
    (buildNamespace stamp d).Matches c (fun ns ns' => ns' = ns.relocate c.toRelocation)
      (buildNamespace stamp' (d.relocate c.toRelocation)) := by
  have hplace := c.origin_provenance d.provenance
  have hinterfaces : (d.relocate c.toRelocation).interfaces.isEmpty = d.interfaces.isEmpty :=
    List.isEmpty_map
  have hclasses : (d.relocate c.toRelocation).classes.isEmpty = d.classes.isEmpty :=
    List.isEmpty_map
  refine .bind (matches_recheck _ _) fun _ _ _ => ?_
  rw [hinterfaces, hclasses]
  refine .bind (.noteIf rfl hplace) fun _ _ _ => ?_
  refine .bindMap (.forEach fun i _ => matches_buildInterface h d.name.value i) fun interfaces => ?_
  refine .bindMap (.forEach fun x _ => matches_buildClass h d.name.value x) fun classes => .pure ?_
  simp [Namespace.relocate, Declared.Namespace.relocate, Declared.Field.relocate, h d.provenance]

theorem matches_buildAssignment (d : Declared.Assignment) :
    (buildAssignment stamp d).Matches c (fun a a' => a' = a.relocate c.toRelocation)
      (buildAssignment stamp' (d.relocate c.toRelocation)) := by
  refine .bindMap (matches_recheck d.parameterName .simple) fun nameOk => ?_
  refine .bindMap (matches_buildWiring _ _ _ _ _) fun wiring => .pure ?_
  simp [Assignment.relocate, Declared.Assignment.relocate, Declared.Field.relocate, h d.provenance]

theorem matches_buildElement (d : Declared.Element) :
    (buildElement stamp d).Matches c (fun e e' => e' = e.relocate c.toRelocation)
      (buildElement stamp' (d.relocate c.toRelocation)) := by
  refine .bindMap (matches_buildWiring _ _ _ _ _) fun wiring => .pure ?_
  simp [Element.relocate, Declared.Element.relocate, h d.provenance]

omit h in
theorem initialization_relocate (assignments : List Assignment) (elements : List Element) :
    initialization (assignments.map (Assignment.relocate c.toRelocation))
        (elements.map (Element.relocate c.toRelocation)) =
      (initialization assignments elements).relocate c.toRelocation := by
  unfold initialization
  cases assignments with
  | cons a as => simp [Initialization.relocate]
  | nil => cases elements <;> simp [Initialization.relocate]

theorem matches_buildNamedInstance (d : Declared.NamedInstance) :
    (buildNamedInstance stamp d).Matches c (fun i i' => i' = i.relocate c.toRelocation)
      (buildNamedInstance stamp' (d.relocate c.toRelocation)) := by
  have hplace := c.origin_provenance d.provenance
  have hassignments : (d.relocate c.toRelocation).assignments.getD [] =
      (d.assignments.getD []).map (Declared.Assignment.relocate c.toRelocation) := by
    simp only [Declared.NamedInstance.relocate]
    cases d.assignments <;> rfl
  have helements : (d.relocate c.toRelocation).elements.getD [] =
      (d.elements.getD []).map (Declared.Element.relocate c.toRelocation) := by
    simp only [Declared.NamedInstance.relocate]
    cases d.elements <;> rfl
  have hinterface : (d.relocate c.toRelocation).interfaceRef.all Declared.Reference.isUsable =
      d.interfaceRef.all Declared.Reference.isUsable := by
    simp [Declared.NamedInstance.relocate, Option.all_map]
  have htype : (d.relocate c.toRelocation).interfaceRef.map Declared.Reference.resolved =
      d.interfaceRef.map Declared.Reference.resolved := by
    simp [Declared.NamedInstance.relocate, Function.comp_def]
  have hprovenance : stamp'.extend (d.relocate c.toRelocation).provenance =
      c.provenance (stamp.extend d.provenance) := h d.provenance
  refine .bindMap (matches_recheck d.name .simple) fun nameOk => ?_
  rw [hassignments, helements, hinterface, htype, hprovenance]
  dsimp only
  rw [List.isEmpty_map, List.isEmpty_map]
  refine .bind (.noteIf rfl hplace) fun _ _ _ => ?_
  refine .bind (.noteIf rfl hplace) fun _ _ _ => ?_
  refine .bindMap (.forEach fun a _ => matches_buildAssignment h a) fun assignments => ?_
  refine .bindMap (.forEach fun e _ => matches_buildElement h e) fun elements => .pure ?_
  rw [initialization_relocate]
  rfl

/-- What is declared elsewhere is built elsewhere, with the same notes. -/
theorem matches_build (d : Declared.Model) :
    (build stamp d).Matches c (fun x x' => x' = x.relocate c.toRelocation)
      (build stamp' (d.relocate c.toRelocation)) := by
  refine .bindMap (matches_buildCodeGen h d.codeGen) fun codeGen => ?_
  refine .bindMap (.forEach fun ns _ => matches_buildNamespace h ns) fun namespaces => ?_
  refine .bindMap (.forEach fun i _ => matches_buildNamedInstance h i) fun instances => .pure ?_
  simp [Model.relocate, Declared.Model.relocate, h d.provenance]

end Model

end DependencyWiring
