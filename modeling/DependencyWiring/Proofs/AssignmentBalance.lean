import DependencyWiring.Proofs.DistinctPlaces
import DependencyWiring.Proofs.WiringSoundness
import Mathlib.Data.Set.Basic

/-!
# Balance of assignments

The check of assignments keeps a list of the names that were assigned, and warns about the
parameters whose names are not on it. In a generatable model every assignment puts a parameter of
its own on the list, so the parameters of a class are parted into those that an instance assigns and
those that it is warned about.
-/
namespace DependencyWiring

open Check

namespace Check

variable {s : Scope} {inst : NamedInstance} {c : Class}

/-! ## Assigned names -/

/-- Assignments that fit put all their names on the list of what is assigned. -/
theorem assigned_of_fit {assigned : List String} {items : List Assignment}
    (hitems : ∀ a ∈ items, Name.isSimple a.parameterName = true)
    (h : AssignmentsFit s c assigned items) :
    (assignmentNotes s inst c assigned items).2 =
      (items.map Assignment.parameterName).reverse ++ assigned := by
  induction items generalizing assigned with
  | nil => rfl
  | cons a items ih =>
    rw [List.forall_mem_cons] at hitems
    obtain ⟨⟨p, hp, -⟩, hnew, hrest⟩ := assignmentsFit_cons_iff.mp h
    have hlater := ih hitems.2 hrest
    simp [assignmentNotes, isLookedUp, hitems.1, hp, hnew, hlater]

/-! ## Where parameters are reported -/

/-- Only the parameters without an assignment are reported by their code. -/
theorem code_of_mem_interfaceWiringNotes {a : Assignment} {t : TypeRef} {n : Note}
    (hn : n ∈ interfaceWiringNotes s a t) : n.code ≠ .unassignedParameter := by
  unfold interfaceWiringNotes at hn
  split at hn
  · obtain ⟨-, hn⟩ := List.mem_ite_nil_left.mp hn
    rw [List.mem_singleton.mp hn]
    simp [noteOn, Note.code]
  · split at hn
    · exact absurd hn List.not_mem_nil
    · obtain ⟨-, hn⟩ := List.mem_ite_nil_right.mp hn
      rw [List.mem_singleton.mp hn]
      simp [noteOn, Note.code]

theorem code_of_mem_assignmentNotes {assigned : List String} {items : List Assignment} {n : Note}
    (hn : n ∈ (assignmentNotes s inst c assigned items).1) : n.code ≠ .unassignedParameter := by
  induction items generalizing assigned with
  | nil => exact absurd hn List.not_mem_nil
  | cons a items ih =>
    unfold assignmentNotes at hn
    split at hn
    · exact ih hn
    · split at hn
      · rcases List.mem_cons.mp hn with rfl | hn
        · simp [noteOn, Note.code]
        · exact ih hn
      · split at hn
        · rcases List.mem_cons.mp hn with rfl | hn
          · simp [noteOn, Note.code]
          · exact ih hn
        · rcases List.mem_append.mp hn with hn | hn
          · split at hn
            · exact code_of_mem_interfaceWiringNotes hn
            · exact absurd hn List.not_mem_nil
          · exact ih hn

theorem code_of_mem_elementNotes {t : TypeRef} {e : Element} {n : Note}
    (hn : n ∈ elementNotes s inst t e) : n.code ≠ .unassignedParameter := by
  unfold elementNotes at hn
  split at hn
  · exact absurd hn List.not_mem_nil
  · obtain ⟨-, hn⟩ := List.mem_ite_nil_left.mp hn
    split at hn
    · exact absurd hn List.not_mem_nil
    · obtain ⟨-, hn⟩ := List.mem_ite_nil_right.mp hn
      rw [List.mem_singleton.mp hn]
      simp [noteOn, Note.code]

/-- A parameter without an assignment is reported at the instance. -/
theorem origin_of_mem_instanceWiringNotes {k : Nat} {n : Note}
    (hn : n ∈ instanceWiringNotes s k inst) (hcode : n.code = .unassignedParameter) :
    n.origin = inst.provenance.origin := by
  unfold instanceWiringNotes at hn
  obtain ⟨-, hn⟩ := List.mem_ite_nil_left.mp hn
  split at hn
  · split at hn
    · exact absurd hn List.not_mem_nil
    · rcases List.mem_append.mp hn with hn | hn
      · exact absurd hcode (code_of_mem_assignmentNotes hn)
      · obtain ⟨p, -, rfl⟩ := List.mem_map.mp hn
        rfl
  · split at hn
    · exact absurd hn List.not_mem_nil
    · obtain ⟨e, -, hn⟩ := List.mem_flatMap.mp hn
      exact absurd hcode (code_of_mem_elementNotes hn)
  · exact absurd hn List.not_mem_nil

end Check

/-! ## Parameters without an assignment -/

/-- The parameters that none of the assignments names. -/
def Class.unassigned (c : Class) (items : List Assignment) : List Parameter :=
  c.parameters.filter fun p => !(items.map Assignment.parameterName).contains p.name

theorem Class.mem_unassigned_iff {c : Class} {items : List Assignment} {p : Parameter} :
    p ∈ c.unassigned items ↔ p ∈ c.parameters ∧ ∀ a ∈ items, a.parameterName ≠ p.name := by
  simp [unassigned]

/-- Distinct assignments to distinct parameters leave the rest of the parameters. -/
theorem Class.length_parameters {c : Class} {items : List Assignment}
    (hparameters : (c.parameters.map Parameter.name).Nodup)
    (hitems : (items.map Assignment.parameterName).Nodup)
    (hnamed : ∀ a ∈ items, ∃ p ∈ c.parameters, p.name = a.parameterName) :
    c.parameters.length = items.length + (c.unassigned items).length := by
  let assigned := c.parameters.filter fun p =>
    (items.map Assignment.parameterName).contains p.name
  have hperm : (assigned.map Parameter.name).Perm (items.map Assignment.parameterName) := by
    have hnodup : (assigned.map Parameter.name).Nodup :=
      hparameters.sublist (List.filter_sublist.map Parameter.name)
    rw [List.perm_ext_iff_of_nodup hnodup hitems]
    intro name
    constructor
    · intro hname
      obtain ⟨p, hp, rfl⟩ := List.mem_map.mp hname
      simpa using (List.mem_filter.mp hp).2
    · intro hname
      obtain ⟨a, ha, rfl⟩ := List.mem_map.mp hname
      obtain ⟨p, hp, hsame⟩ := hnamed a ha
      rw [← hsame] at hname ⊢
      exact List.mem_map_of_mem (List.mem_filter.mpr ⟨hp, by simpa using hname⟩)
  have hlength : assigned.length = items.length := by
    simpa using hperm.length_eq
  rw [← hlength]
  exact List.length_eq_length_filter_add _

/-! ## Names in accepted documents -/

namespace Accepted

variable {stamp : Stamp} {d : Declared.Model} (h : Accepted stamp d) {i : NamedInstance}
  {items : List Assignment} {c : Class}
  (ha : (Scope.ofDeclared stamp d).model.Assigns i items c)

include h

theorem isSimple_parameter (hc : c ∈ (Scope.ofDeclared stamp d).model.classes) {p : Parameter}
    (hp : p ∈ c.parameters) : Name.isSimple p.name = true := by
  obtain ⟨ns, hns, e, he, rfl⟩ := (Model.mem_classes_build stamp).mp hc
  rw [Model.parameters_buildClass] at hp
  obtain ⟨q, hq, rfl⟩ := List.mem_map.mp hp
  have hsound := ((h.declared.namespaces ns hns).classes e he).parameters q hq
  exact hsound.name.hasForm

include ha

/-- What the check notes by this code is that some parameters are not assigned. -/
theorem filter_instanceWiringNotes {n : Nat}
    (hn : (Scope.ofDeclared stamp d).model.namedInstances[n]? = some i) :
    (Check.instanceWiringNotes (Scope.ofDeclared stamp d) n i).filter
        (fun note => note.code = .unassignedParameter) =
      (c.unassigned items).map fun p =>
        noteOn (.unassignedParameter p.name c.qualifiedName i.name) i.provenance := by
  have hassigned : (assignmentNotes (Scope.ofDeclared stamp d) i c [] items).2 = _ :=
    assigned_of_fit ((h.model.namedInstances i ha.mem).parameterNames items ha.initialization)
      (h.assignments_fit ha)
  have hothers : (assignmentNotes (Scope.ofDeclared stamp d) i c [] items).1.filter
      (fun note => note.code = .unassignedParameter) = [] := by
    rw [List.filter_eq_nil_iff]
    intro note hnote
    simpa using code_of_mem_assignmentNotes hnote
  have hall : (unassignedNotes i c (items.map Assignment.parameterName).reverse).filter
      (fun note => note.code = .unassignedParameter) =
      unassignedNotes i c (items.map Assignment.parameterName).reverse := by
    rw [List.filter_eq_self]
    intro note hnote
    obtain ⟨p, -, rfl⟩ := List.mem_map.mp hnote
    rfl
  have hfilter : (c.parameters.filter fun p => !(Placeholder.isPlaceholder p.name ||
      (items.map Assignment.parameterName).reverse.contains p.name)) = c.unassigned items := by
    refine List.filter_congr fun p hp => ?_
    simp [Placeholder.isPlaceholder_of_isSimple (h.isSimple_parameter ha.declared hp)]
  simp only [Check.instanceWiringNotes, h.isPlaceholder_eq_false ha.mem, Bool.false_eq_true,
    if_false, ha.initialization, h.instanceClass_eq ha hn]
  rw [List.filter_append, hothers, List.nil_append, hassigned, List.append_nil, hall,
    unassignedNotes, hfilter]

theorem exists_parameter {a : Assignment} (hmem : a ∈ items) :
    ∃ p ∈ c.parameters, p.name = a.parameterName := by
  obtain ⟨p, hp⟩ := Option.isSome_iff_exists.mp ((h.assignments_fit ha).named a hmem)
  exact ⟨p, (Class.parameter_eq_some_iff (h.parameterNames_nodup ha.declared)).mp hp⟩

/-- What is reported at the instance is that some parameters are not assigned. -/
theorem reportsAt_unassigned {source : String} {ds : List Diagnostic}
    (hplaced : (Scope.ofDeclared stamp d).model.IsPlaced source)
    (hon : Diagnostic.AreOn ds (Check.wiringNotes (Scope.ofDeclared stamp d))
      .unassignedParameter) :
    Diagnostic.reportsAt ds .unassignedParameter i.provenance.location =
      (c.unassigned items).map fun p =>
        (noteOn (.unassignedParameter p.name c.qualifiedName i.name) i.provenance).diagnostic := by
  obtain ⟨n, hn⟩ := List.mem_iff_getElem?.mp ha.mem
  have hnodup : ((Scope.ofDeclared stamp d).model.namedInstances.zipIdx.map
      fun p => p.1.provenance.location).Nodup := by
    have hlocations := hplaced.nodup_locations
      (Model.provenance_namedInstances_sublist (Scope.ofDeclared stamp d).model)
    rw [← List.zipIdx_map_fst 0 (Scope.ofDeclared stamp d).model.namedInstances, List.map_map,
      List.map_map] at hlocations
    exact hlocations
  have hmem : (i, n) ∈ (Scope.ofDeclared stamp d).model.namedInstances.zipIdx :=
    List.mem_zipIdx_iff_getElem?.mpr hn
  have horigin : ∀ p ∈ (Scope.ofDeclared stamp d).model.namedInstances.zipIdx,
      ∀ note ∈ Check.instanceWiringNotes (Scope.ofDeclared stamp d) p.2 p.1,
      note.code = .unassignedParameter → note.origin = p.1.provenance.origin :=
    fun p _ note hnote => origin_of_mem_instanceWiringNotes hnote
  have hreports := Diagnostic.reportsAt_flatMap hnodup horigin hmem
  rw [h.filter_instanceWiringNotes ha hn, List.map_map] at hreports
  rw [hon.reportsAt_eq]
  exact hreports

end Accepted

/-! ## Balance -/

/-- The message names the parameter between two texts that do not depend on it. -/
theorem Finding.parameter_eq_of_message {parameter parameter' className instanceName : String}
    (h : (unassignedParameter parameter className instanceName).message =
      (unassignedParameter parameter' className instanceName).message) : parameter = parameter' := by
  have hsplit : ∀ name, (unassignedParameter name className instanceName).message =
      "parameter '" ++ name ++ ("' of class '" ++ className ++ "' is not assigned by " ++
        ("named instance '" ++ instanceName ++ "'")) := by
    intro name
    unfold message
    simp only [toString, String.append_assoc]
  rw [hsplit, hsplit] at h
  exact String.append_right_inj _ |>.mp (String.append_left_inj _ |>.mp h)

namespace Model

/-- The names of the parameters that an instance is warned not to assign. -/
def warnedNames (m : Model) (i : NamedInstance) (c : Class) : Set String :=
  {name | ∃ d ∈ Diagnostic.reportsAt m.diagnostics .unassignedParameter i.provenance.location,
    d.message = (Finding.unassignedParameter name c.qualifiedName i.name).message}

/-- Of an instance that is initialized by assignments every parameter of its class is either
assigned, by one assignment, or warned about, by one warning. -/
structure BalancesAssignments (m : Model) : Prop where
  length : ∀ i items c, m.Assigns i items c → c.parameters.length = items.length +
    Diagnostic.countAt m.diagnostics .unassignedParameter i.provenance.location
  about : ∀ i items c, m.Assigns i items c →
    ∀ d ∈ Diagnostic.reportsAt m.diagnostics .unassignedParameter i.provenance.location,
      ∃! name, d.message = (Finding.unassignedParameter name c.qualifiedName i.name).message
  names : ∀ i items c, m.Assigns i items c → {name | ∃ p ∈ c.parameters, p.name = name} =
    {name | ∃ a ∈ items, a.parameterName = name} ∪ m.warnedNames i c
  disjoint : ∀ i items c, m.Assigns i items c →
    {name | ∃ a ∈ items, a.parameterName = name} ∩ m.warnedNames i c = ∅

theorem balancesAssignments_of_accepted {stamp : Stamp} {d : Declared.Model} (h : Accepted stamp d)
    {source : String} {ds : List Diagnostic}
    (hplaced : (Scope.ofDeclared stamp d).model.IsPlaced source)
    (hon : Diagnostic.AreOn ds (Check.wiringNotes (Scope.ofDeclared stamp d))
      .unassignedParameter) :
    BalancesAssignments { (Scope.ofDeclared stamp d).model with diagnostics := ds } := by
  have hwarned : ∀ {i items c}, (Scope.ofDeclared stamp d).model.Assigns i items c →
      ∀ name, name ∈ warnedNames { (Scope.ofDeclared stamp d).model with diagnostics := ds } i c ↔
        ∃ p ∈ c.unassigned items, p.name = name := by
    intro i items c ha name
    have hreports := h.reportsAt_unassigned ha hplaced hon
    constructor
    · rintro ⟨e, he, hmessage⟩
      obtain ⟨p, hp, rfl⟩ := List.mem_map.mp (hreports ▸ he)
      exact ⟨p, hp, Finding.parameter_eq_of_message hmessage⟩
    · rintro ⟨p, hp, rfl⟩
      exact ⟨_, hreports ▸ List.mem_map_of_mem hp, rfl⟩
  constructor
  · intro i items c hassigns
    have ha := assigns_withDiagnostics.mp hassigns
    rw [Class.length_parameters (h.parameterNames_nodup ha.declared) (h.assignments_fit ha).nodup
      fun a hmem => h.exists_parameter ha hmem, Diagnostic.countAt,
      h.reportsAt_unassigned ha hplaced hon, List.length_map]
  · intro i items c hassigns e he
    have ha := assigns_withDiagnostics.mp hassigns
    rw [h.reportsAt_unassigned ha hplaced hon] at he
    obtain ⟨p, -, rfl⟩ := List.mem_map.mp he
    exact ⟨p.name, rfl, fun name hmessage => (Finding.parameter_eq_of_message hmessage).symm⟩
  · intro i items c hassigns
    have ha := assigns_withDiagnostics.mp hassigns
    ext name
    rw [Set.mem_union, hwarned ha]
    constructor
    · rintro ⟨p, hp, rfl⟩
      by_cases hassigned : ∃ a ∈ items, a.parameterName = p.name
      · exact .inl hassigned
      · refine .inr ⟨p, Class.mem_unassigned_iff.mpr ⟨hp, ?_⟩, rfl⟩
        intro a hmem hsame
        exact hassigned ⟨a, hmem, hsame⟩
    · rintro (⟨a, hmem, rfl⟩ | ⟨p, hp, rfl⟩)
      · exact h.exists_parameter ha hmem
      · exact ⟨p, (Class.mem_unassigned_iff.mp hp).1, rfl⟩
  · intro i items c hassigns
    have ha := assigns_withDiagnostics.mp hassigns
    apply Set.eq_empty_iff_forall_notMem.mpr
    rintro name ⟨⟨a, hmem, rfl⟩, hname⟩
    obtain ⟨p, hp, hsame⟩ := (hwarned ha _).mp hname
    exact (Class.mem_unassigned_iff.mp hp).2 a hmem hsame.symm

/-- In a generatable model the parameters of a class are those that an instance assigns and those
that are warned about, each once. -/
theorem ofNode_balancesAssignments {options : Options} {source : String} {root : Node}
    (h : (ofNode options source root).isGeneratable = true) :
    (ofNode options source root).BalancesAssignments := by
  have hplaced := isPlaced_ofNode options source root
  rcases ofNode_phases options source root with
    ⟨cause, -, he⟩ | ⟨declared, diagnostics, hread, hdiagnostics, he⟩
  · rw [he]
    constructor <;> exact fun i items c ha => absurd ha.mem List.not_mem_nil
  · have haccepted : Accepted (options.stamp .transform) declared.value := by
      rw [ofNode_of_ok hread] at h
      exact accepted_of_readDocument hread h
    rw [he] at hplaced ⊢
    exact balancesAssignments_of_accepted haccepted (isPlaced_withDiagnostics.mp hplaced)
      (hdiagnostics .unassignedParameter (by decide))

end Model

namespace Sample

/-- The class of nodes with a second parameter, which takes a literal. -/
def labelledTypes : Node :=
  mapping [("namespaceName", text "App"),
    ("interfaces", sequence [mapping [("interfaceName", text "INode")]]),
    ("classes", sequence [mapping [("className", text "Node"),
      ("qualifiedInterfaceName", text "App.INode"),
      ("initializerParameters", sequence [
        mapping [("name", text "next"), ("qualifiedInterfaceName", text "App.INode")],
        mapping [("name", text "label"), ("qualifiedClassName", text "string")]])]])]

/-- The second node is wired to the first and has no label. -/
def labelled : Model :=
  Model.ofNode options "chain" (mapping [("codeGen", codeGen),
    ("namespaces", sequence [labelledTypes]),
    ("namedInstances", sequence [firstNode, secondNode (entry "namedInstanceName" "First")])])

def label : Parameter :=
  ⟨"label", .classType (.named "string"), true,
    place "namespaces[0].classes[0].initializerParameters[1]"⟩

def labelledNode : Class :=
  { node with parameters := [next, label] }

theorem isGeneratable_labelled : labelled.isGeneratable = true := by
  decide +kernel

theorem assigns_labelled : labelled.Assigns (second (.instanceOf "First"))
    [assigned (.instanceOf "First")] labelledNode where
  mem := by decide +kernel
  initialization := rfl
  notPrimitive := by rfl
  declared := by decide +kernel
  qualifiedName := rfl

end Sample

namespace Model

/-- Of the two parameters one is assigned, and the other one is warned about. -/
theorem labelled_balancesAssignments :
    Diagnostic.countAt Sample.labelled.diagnostics .unassignedParameter
      "chain#namedInstances[1]" = 1 ∧
    "label" ∈ Sample.labelled.warnedNames (Sample.second (.instanceOf "First"))
      Sample.labelledNode := by
  have hbalanced : Sample.labelled.BalancesAssignments :=
    ofNode_balancesAssignments Sample.isGeneratable_labelled
  constructor
  · have hlength := hbalanced.length _ _ _ Sample.assigns_labelled
    have hlocation : (Sample.second (.instanceOf "First")).provenance.location =
        "chain#namedInstances[1]" := by decide +kernel
    have hparameters : Sample.labelledNode.parameters.length = 2 := rfl
    rw [hlocation, hparameters, List.length_singleton] at hlength
    omega
  · have hnames := hbalanced.names _ _ _ Sample.assigns_labelled
    have hlabel : "label" ∈ {name | ∃ p ∈ Sample.labelledNode.parameters, p.name = name} :=
      ⟨Sample.label, by decide, rfl⟩
    rw [hnames] at hlabel
    rcases hlabel with ⟨a, ha, hname⟩ | hwarned
    · obtain rfl := List.mem_singleton.mp ha
      exact absurd hname (by decide)
    · exact hwarned

end Model

end DependencyWiring
