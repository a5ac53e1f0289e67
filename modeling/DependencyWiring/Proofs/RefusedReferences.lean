import DependencyWiring.Proofs.AcceptedDocuments

/-!
# Refused references

A type reference that was refused when it was read is built into the model like any other, with the
authored text for a name when it could not be parsed. Only an instance is spared: where the
interface that it declares was refused, it is not compared with that of the class. Wirings are
judged by refused references as if nothing were wrong with them, and what is wrong with a reference
is reported once more for every wiring that goes by it.
-/
namespace DependencyWiring

open Check

/-! ## References taken for usable ones -/

namespace Declared

/-- The reference as if it had been accepted with the type that it stands for. -/
def Reference.trusted (r : Reference) : Reference :=
  ⟨{ r.text with status := .valid }, some r.resolved⟩

@[simp] theorem Reference.resolved_trusted (r : Reference) : r.trusted.resolved = r.resolved := rfl

@[simp] theorem Reference.isUsable_trusted (r : Reference) : r.trusted.isUsable = true := rfl

def Parameter.trusted (d : Parameter) : Parameter :=
  { d with interfaceRef := d.interfaceRef.map Reference.trusted }

def Class.trusted (d : Class) : Class :=
  { d with
    interfaceRef := d.interfaceRef.map Reference.trusted
    parameters := d.parameters.map (List.map Parameter.trusted) }

def Namespace.trusted (d : Namespace) : Namespace :=
  { d with classes := d.classes.map Class.trusted }

def NamedInstance.trusted (d : NamedInstance) : NamedInstance :=
  { d with interfaceRef := d.interfaceRef.map Reference.trusted }

/-- The declarations as if every reference to an interface had been accepted. -/
def Model.trusted (d : Model) : Model :=
  { d with
    namespaces := d.namespaces.map Namespace.trusted
    namedInstances := d.namedInstances.map NamedInstance.trusted }

/-- Names are indexed whatever the references say. -/
theorem Index.ofModel_trusted (d : Model) : Index.ofModel d.trusted = Index.ofModel d := by
  have hclasses (n : Nat) (ns : Namespace) : classEntries n ns.trusted = classEntries n ns := by
    simp only [classEntries, Namespace.trusted, List.zipIdx_map, List.filterMap_map]
    rfl
  have hinterfaces (n : Nat) (ns : Namespace) :
      interfaceEntries n ns.trusted = interfaceEntries n ns := rfl
  have hinstances : instanceEntries (d.namedInstances.map NamedInstance.trusted) =
      instanceEntries d.namedInstances := by
    simp only [instanceEntries, List.zipIdx_map, List.filterMap_map]
    rfl
  simp only [ofModel, Model.trusted, hinstances, List.zipIdx_map, List.flatMap_map]
  simp only [Prod.map, hclasses, hinterfaces, id]

end Declared

/-! ## Models without marks -/

def Parameter.unmarked (p : Parameter) : Parameter :=
  { p with isValid := true }

def Class.unmarked (c : Class) : Class :=
  { c with parameters := c.parameters.map Parameter.unmarked }

def Namespace.unmarked (ns : Namespace) : Namespace :=
  { ns with classes := ns.classes.map Class.unmarked }

def NamedInstance.unmarked (i : NamedInstance) : NamedInstance :=
  { i with isValid := true }

/-- The model without the marks that tell which parameters and instances are valid. -/
def Model.unmarked (m : Model) : Model :=
  { m with
    namespaces := m.namespaces.map Namespace.unmarked
    namedInstances := m.namedInstances.map NamedInstance.unmarked }

namespace Model

variable (stamp : Stamp)

theorem unmarked_buildParameter (d : Declared.Parameter) :
    (buildParameter stamp d.trusted).value.unmarked = (buildParameter stamp d).value.unmarked := by
  obtain ⟨name, classRef, interfaceRef, placeholder, provenance⟩ := d
  cases classRef <;> cases interfaceRef <;> rfl

theorem unmarked_buildClass (namespaceName : String) (d : Declared.Class) :
    (buildClass stamp namespaceName d.trusted).value.unmarked =
      (buildClass stamp namespaceName d).value.unmarked := by
  obtain ⟨name, interfaceRef, parameters, placeholder, provenance⟩ := d
  have hparameters (ds : List Declared.Parameter) :
      ((ds.map Declared.Parameter.trusted).map fun p => (buildParameter stamp p).value).map
          Parameter.unmarked =
        (ds.map fun p => (buildParameter stamp p).value).map Parameter.unmarked := by
    simp only [List.map_map]
    exact List.map_congr_left fun p _ => unmarked_buildParameter stamp p
  have hinterface : (interfaceRef.map Declared.Reference.trusted).map
      (fun r => r.resolved.base) = interfaceRef.map fun r => r.resolved.base := by
    cases interfaceRef <;> rfl
  have hdeclared : (parameters.map (List.map Declared.Parameter.trusted)).getD [] =
      (parameters.getD []).map Declared.Parameter.trusted := by
    cases parameters <;> rfl
  simp only [buildClass, Report.value_bind, Report.value_pure, value_buildParameters,
    Class.unmarked, Declared.Class.trusted, hinterface, hdeclared, hparameters]

theorem unmarked_buildNamespace (d : Declared.Namespace) :
    (buildNamespace stamp d.trusted).value.unmarked = (buildNamespace stamp d).value.unmarked := by
  have hclasses : (d.trusted.classes.map fun c => (buildClass stamp d.name.value c).value).map
      Class.unmarked =
        (d.classes.map fun c => (buildClass stamp d.name.value c).value).map Class.unmarked := by
    simp only [Declared.Namespace.trusted, List.map_map]
    exact List.map_congr_left fun c _ => unmarked_buildClass stamp d.name.value c
  simp only [buildNamespace, Report.value_bind, Report.value_pure, Report.value_forEach,
    Namespace.unmarked]
  simp only [Declared.Namespace.trusted] at hclasses ⊢
  rw [hclasses]

theorem unmarked_buildNamedInstance (d : Declared.NamedInstance) :
    (buildNamedInstance stamp d.trusted).value.unmarked =
      (buildNamedInstance stamp d).value.unmarked := by
  obtain ⟨name, classRef, interfaceRef, assignments, elements, placeholder, provenance⟩ := d
  cases interfaceRef <;> rfl

/-- Trust in references shows in marks and nowhere else. -/
theorem unmarked_build (d : Declared.Model) :
    (build stamp d.trusted).value.unmarked = (build stamp d).value.unmarked := by
  have hnamespaces : (d.namespaces.map Declared.Namespace.trusted).map
      (fun ns => (buildNamespace stamp ns).value.unmarked) =
        d.namespaces.map fun ns => (buildNamespace stamp ns).value.unmarked := by
    rw [List.map_map]
    exact List.map_congr_left fun ns _ => unmarked_buildNamespace stamp ns
  have hinstances : (d.namedInstances.map Declared.NamedInstance.trusted).map
      (fun i => (buildNamedInstance stamp i).value.unmarked) =
        d.namedInstances.map fun i => (buildNamedInstance stamp i).value.unmarked := by
    rw [List.map_map]
    exact List.map_congr_left fun i _ => unmarked_buildNamedInstance stamp i
  simp only [build, Report.value_bind, Report.value_pure, Report.value_forEach, Model.unmarked,
    Declared.Model.trusted, List.map_map, Function.comp_def] at hnamespaces hinstances ⊢
  rw [hnamespaces, hinstances]

end Model

/-! ## Checks look at no marks -/

namespace Check

/-- The scope without marks in its model, over other declarations. -/
def Scope.unmarked (s : Scope) (declared : Declared.Model) : Scope :=
  ⟨s.model.unmarked, declared, s.index⟩

/-- The declarations agree on which references to classes can be used. -/
def AgreeOnClasses (d d' : Declared.Model) : Prop :=
  d.namedInstances.map (fun i => i.classRef.isUsable) =
    d'.namedInstances.map fun i => i.classRef.isUsable

variable (s : Scope) (declared : Declared.Model)

theorem class_unmarked (qualifiedName : String) :
    (s.unmarked declared).class? qualifiedName = (s.class? qualifiedName).map Class.unmarked := by
  unfold Scope.class?
  have hindex : (s.unmarked declared).index = s.index := rfl
  rw [hindex]
  cases s.index.classes.lookup qualifiedName with
  | none => rfl
  | some position =>
    obtain ⟨n, k⟩ := position
    simp only [Scope.unmarked, Model.unmarked, Option.bind_eq_bind, Option.bind_some,
      List.getElem?_map]
    cases s.model.namespaces[n]? with
    | none => rfl
    | some ns => simp [Namespace.unmarked]

theorem instance_unmarked (name : String) :
    (s.unmarked declared).instance? name = (s.instance? name).map NamedInstance.unmarked := by
  unfold Scope.instance?
  have hindex : (s.unmarked declared).index = s.index := rfl
  rw [hindex]
  cases s.index.instancePosition? name <;> simp [Scope.unmarked, Model.unmarked]

theorem exposedInterface_unmarked (i : NamedInstance) :
    (s.unmarked declared).exposedInterface? i.unmarked = s.exposedInterface? i := by
  obtain ⟨name, classType, interfaceType, initialization, isValid, provenance⟩ := i
  unfold Scope.exposedInterface?
  cases interfaceType with
  | some t => rfl
  | none =>
    simp only [NamedInstance.unmarked, class_unmarked, Option.bind_eq_bind]
    cases s.class? classType.base <;> rfl

theorem instanceClass_unmarked (h : AgreeOnClasses declared s.declared) (i : Nat) :
    (s.unmarked declared).instanceClass? i = (s.instanceClass? i).map Class.unmarked := by
  have hmodel : (s.unmarked declared).model.namedInstances[i]? =
      (s.model.namedInstances[i]?).map NamedInstance.unmarked := List.getElem?_map
  have husable : (declared.namedInstances[i]?).map (fun d => d.classRef.isUsable) =
      (s.declared.namedInstances[i]?).map fun d => d.classRef.isUsable := by
    rw [← List.getElem?_map, ← List.getElem?_map, h]
  have hdeclared : (s.unmarked declared).declared = declared := rfl
  unfold Scope.instanceClass?
  simp only [Option.bind_eq_bind, hmodel, hdeclared]
  cases hd : declared.namedInstances[i]? with
  | none =>
    rw [hd, Option.map_none, eq_comm, Option.map_eq_none_iff] at husable
    rw [husable]
    rfl
  | some d =>
    rw [hd, Option.map_some, eq_comm, Option.map_eq_some_iff] at husable
    obtain ⟨d', hd', hsame⟩ := husable
    rw [hd']
    cases s.model.namedInstances[i]? with
    | none => rfl
    | some inst =>
      have htype : inst.unmarked.classType = inst.classType := rfl
      simp only [Option.map_some, Option.bind_some, htype, class_unmarked, hsame]
      split <;> rfl

theorem interfaceWiringNotes_unmarked (a : Assignment) (expected : TypeRef) :
    interfaceWiringNotes (s.unmarked declared) a expected = interfaceWiringNotes s a expected := by
  unfold interfaceWiringNotes
  cases a.wiring with
  | value literal => rfl
  | instanceOf target =>
    simp only [instance_unmarked]
    cases s.instance? target with
    | none => rfl
    | some i => simp only [Option.map_some, exposedInterface_unmarked]

theorem assignmentNotes_unmarked (inst : NamedInstance) (c : Class) (assigned : List String)
    (items : List Assignment) :
    assignmentNotes (s.unmarked declared) inst.unmarked c.unmarked assigned items =
      assignmentNotes s inst c assigned items := by
  induction items generalizing assigned with
  | nil => rfl
  | cons a items ih =>
    have hparameter : c.unmarked.parameter? a.parameterName =
        (c.parameter? a.parameterName).map Parameter.unmarked := by
      simp only [Class.parameter?, Class.unmarked, List.find?_map]
      rfl
    unfold assignmentNotes
    rw [hparameter]
    cases c.parameter? a.parameterName with
    | none => simp only [Option.map_none, ih]; rfl
    | some p =>
      have htype : p.unmarked.type = p.type := rfl
      simp only [Option.map_some, ih, htype, interfaceWiringNotes_unmarked]
      rfl

theorem elementNotes_unmarked (inst : NamedInstance) (expected : TypeRef) (e : Element) :
    elementNotes (s.unmarked declared) inst.unmarked expected e =
      elementNotes s inst expected e := by
  unfold elementNotes
  cases e.wiring with
  | value => rfl
  | instanceOf target =>
    simp only [instance_unmarked]
    cases s.instance? target with
    | none => rfl
    | some i => simp only [Option.map_some, exposedInterface_unmarked]; rfl

theorem instanceWiringNotes_unmarked (h : AgreeOnClasses declared s.declared) (i : Nat)
    (inst : NamedInstance) :
    instanceWiringNotes (s.unmarked declared) i inst.unmarked = instanceWiringNotes s i inst := by
  have hplaceholder : inst.unmarked.isPlaceholder = inst.isPlaceholder := rfl
  have hinitialization : inst.unmarked.initialization = inst.initialization := rfl
  have helement : elementInterface? (s.unmarked declared) inst.unmarked =
      elementInterface? s inst := rfl
  unfold instanceWiringNotes
  rw [hplaceholder, hinitialization, helement]
  cases inst.initialization with
  | default => rfl
  | assignments items =>
    simp only [instanceClass_unmarked s declared h]
    cases s.instanceClass? i with
    | none => rfl
    | some c =>
      have hunassigned (assigned : List String) :
          unassignedNotes inst.unmarked c.unmarked assigned = unassignedNotes inst c assigned := by
        simp only [unassignedNotes, Class.unmarked, List.filter_map, List.map_map]
        rfl
      simp only [Option.map_some, assignmentNotes_unmarked, hunassigned]
  | elements items =>
    simp only [funext (elementNotes_unmarked s declared inst _)]

/-- Wirings are judged without a look at marks, and of the declarations only references to classes
count. -/
theorem wiringNotes_unmarked (h : AgreeOnClasses declared s.declared) :
    wiringNotes (s.unmarked declared) = wiringNotes s := by
  unfold wiringNotes
  simp only [Scope.unmarked, Model.unmarked, List.zipIdx_map, List.flatMap_map]
  exact congrArg (List.flatMap · _)
    (funext fun p => instanceWiringNotes_unmarked s declared h p.2 p.1)

theorem unmarked_ofDeclared (stamp : Stamp) (d declared : Declared.Model) :
    (Scope.ofDeclared stamp d.trusted).unmarked declared =
      (Scope.ofDeclared stamp d).unmarked declared := by
  simp only [Scope.unmarked, Scope.ofDeclared, Model.unmarked_build,
    Declared.Index.ofModel_trusted]

/-- Wirings are judged as if every reference to an interface had been accepted. -/
theorem wiringNotes_trusted (stamp : Stamp) (d : Declared.Model) :
    wiringNotes (Scope.ofDeclared stamp d.trusted) = wiringNotes (Scope.ofDeclared stamp d) := by
  have hagree : AgreeOnClasses d d.trusted := by
    simp only [AgreeOnClasses, Declared.Model.trusted, List.map_map]
    rfl
  calc wiringNotes (Scope.ofDeclared stamp d.trusted)
      = wiringNotes ((Scope.ofDeclared stamp d.trusted).unmarked d) :=
        (wiringNotes_unmarked _ d hagree).symm
    _ = wiringNotes ((Scope.ofDeclared stamp d).unmarked d) := by rw [unmarked_ofDeclared]
    _ = wiringNotes (Scope.ofDeclared stamp d) := wiringNotes_unmarked _ d rfl

/-! ## Comparisons of interfaces -/

end Check

/-- The note says that interfaces were compared, or a literal with one, and do not fit. -/
def Note.comparesInterfaces (n : Note) : Bool :=
  match n.finding with
  | .interfaceMismatch .. | .literalForInterface .. | .parameterNotExposed .. |
    .elementNotExposed .. => true
  | _ => false

namespace Check

theorem filter_typeCollisions (m : Model) :
    (typeCollisions m).filter Note.comparesInterfaces = [] := by
  rw [List.filter_eq_nil_iff]
  intro n hn
  simp only [typeCollisions, List.mem_filterMap] at hn
  obtain ⟨e, -, he⟩ := hn
  split at he <;> cases he
  simp [Note.comparesInterfaces, noteOn]

theorem filter_instanceCollisions (m : Model) :
    (instanceCollisions m).filter Note.comparesInterfaces = [] := by
  rw [List.filter_eq_nil_iff]
  intro n hn
  simp only [instanceCollisions, List.mem_filterMap] at hn
  obtain ⟨i, -, hi⟩ := hn
  split at hi <;> cases hi
  simp [Note.comparesInterfaces, noteOn]

theorem filter_invokerKeyNotes (m : Model) :
    (invokerKeyNotes m).filter Note.comparesInterfaces = [] := by
  simp only [invokerKeyNotes, List.filter_flatMap, List.flatMap_eq_nil_iff, List.filter_append]
  intro c _
  split <;> split <;> rfl

theorem filter_orderingNotes (s : Scope) :
    (orderingNotes s).filter Note.comparesInterfaces = [] := by
  simp only [orderingNotes, List.filter_flatMap, List.flatMap_eq_nil_iff]
  intro p _
  split
  · rfl
  · simp only [List.filter_flatMap, List.flatMap_eq_nil_iff, orderNotes]
    intro w _
    split
    · rfl
    · split
      · rfl
      · split
        · rfl
        · split <;> rfl

variable (stamp : Stamp)

/-- The note on the interface that an instance declares, if it is not the one of its class. -/
def mismatchNotes (d : Declared.Model) (e : Declared.NamedInstance) : List Note :=
  (instanceTypeNotes (Scope.ofDeclared stamp d) (Model.buildNamedInstance stamp e).value e).filter
    Note.comparesInterfaces

/-- Interfaces of instances are compared first, one instance after another, and then wirings. -/
theorem filter_notes (d : Declared.Model) :
    (notes (Scope.ofDeclared stamp d)).filter Note.comparesInterfaces =
      d.namedInstances.flatMap (mismatchNotes stamp d) ++
        (wiringNotes (Scope.ofDeclared stamp d)).filter Note.comparesInterfaces := by
  have hexposed : (d.namespaces.flatMap fun ns => ns.classes.flatMap
      (exposedInterfaceNotes (Scope.ofDeclared stamp d))).filter Note.comparesInterfaces = [] := by
    simp only [List.filter_flatMap, List.flatMap_eq_nil_iff, exposedInterfaceNotes]
    intro ns _ c _
    split
    · rfl
    · split <;> rfl
  have hzip : (Scope.ofDeclared stamp d).model.namedInstances.zip d.namedInstances =
      d.namedInstances.map fun e => ((Model.buildNamedInstance stamp e).value, e) := by
    rw [Scope.ofDeclared, Model.namedInstances_build, List.map_prod_right_eq_zip]
  have hdeclared : (Scope.ofDeclared stamp d).declared = d := rfl
  simp only [notes, resolutionNotes, List.filter_append, filter_typeCollisions,
    filter_instanceCollisions, filter_invokerKeyNotes, filter_orderingNotes,
    hdeclared, hexposed, hzip, List.nil_append, List.append_nil, List.flatMap_map,
    List.filter_flatMap]
  rfl

theorem mismatchNotes_eq (d : Declared.Model) (e : Declared.NamedInstance) :
    mismatchNotes stamp d e =
      if (Model.buildNamedInstance stamp e).value.isPlaceholder then []
      else match e.interfaceRef with
        | none => []
        | some r =>
          (interfaceTypeNotes (Scope.ofDeclared stamp d) (Model.buildNamedInstance stamp e).value
            r.resolved r).filter Note.comparesInterfaces := by
  have hclass (i : NamedInstance) (r : Declared.Reference) :
      (classTypeNotes (Scope.ofDeclared stamp d) i r).filter Note.comparesInterfaces = [] := by
    unfold classTypeNotes
    split <;> rfl
  unfold mismatchNotes instanceTypeNotes
  split
  · rfl
  · rw [List.filter_append, hclass, List.nil_append, Model.interfaceType_buildNamedInstance]
    cases e.interfaceRef <;> rfl

/-- The classes that are found differ in marks alone. -/
theorem class_trusted (d : Declared.Model) (qualifiedName : String) :
    ((Scope.ofDeclared stamp d.trusted).class? qualifiedName).map Class.unmarked =
      ((Scope.ofDeclared stamp d).class? qualifiedName).map Class.unmarked := by
  rw [← class_unmarked _ d, ← class_unmarked _ d, unmarked_ofDeclared]

/-- An instance whose own reference was refused is passed over. For every other one the interface of
the class is taken from its reference, be that refused or not. -/
theorem mismatchNotes_trusted (d : Declared.Model) (e : Declared.NamedInstance) :
    mismatchNotes stamp d e =
      if e.interfaceRef.any Declared.Reference.isUsable then
        mismatchNotes stamp d.trusted e.trusted
      else [] := by
  have hplaceholder : (Model.buildNamedInstance stamp e.trusted).value.isPlaceholder =
      (Model.buildNamedInstance stamp e).value.isPlaceholder := rfl
  rw [mismatchNotes_eq, mismatchNotes_eq, hplaceholder]
  cases hr : e.interfaceRef with
  | none => simp
  | some r =>
    have htrusted : e.trusted.interfaceRef = some r.trusted := by
      simp [Declared.NamedInstance.trusted, hr]
    have hindex : (Scope.ofDeclared stamp d.trusted).index = (Scope.ofDeclared stamp d).index :=
      Declared.Index.ofModel_trusted d
    have hclass := class_trusted stamp d e.classRef.resolved.base
    have hclassType : (Model.buildNamedInstance stamp e.trusted).value.classType =
      e.classRef.resolved := rfl
    cases husable : r.isUsable with
    | false => simp [interfaceTypeNotes, husable]
    | true =>
      simp only [htrusted, Option.any_some, husable, ↓reduceIte, interfaceTypeNotes, hindex,
        Declared.Reference.isUsable_trusted, Declared.Reference.resolved_trusted,
        hclassType, Model.classType_buildNamedInstance]
      cases hfound : (Scope.ofDeclared stamp d).class? e.classRef.resolved.base with
      | none =>
        rw [hfound, Option.map_none, Option.map_eq_none_iff] at hclass
        rw [hclass]
        rfl
      | some c =>
        rw [hfound, Option.map_some, Option.map_eq_some_iff] at hclass
        obtain ⟨c', hfound', hsame⟩ := hclass
        have hinterface : c'.interfaceName = c.interfaceName := by
          change c'.unmarked.interfaceName = c.unmarked.interfaceName
          rw [hsame]
        have hname : c'.qualifiedName = c.qualifiedName := by
          change c'.unmarked.qualifiedName = c.unmarked.qualifiedName
          rw [hsame]
        simp only [hfound', mismatches, hinterface, hname]
        rfl

end Check

namespace Model

/-- Interfaces are compared as if every reference to one had been accepted, except that an instance
whose own reference was refused is not compared with its class. -/
theorem comparisons_trust_references (options : Options) (d : Declared.Model) :
    (judge options d).checked.filter Note.comparesInterfaces =
      (d.namedInstances.flatMap fun e =>
        if e.interfaceRef.any Declared.Reference.isUsable then
          mismatchNotes (options.stamp .transform) d.trusted e.trusted
        else []) ++
      (wiringNotes (Scope.ofDeclared (options.stamp .transform) d.trusted)).filter
        Note.comparesInterfaces := by
  have hchecked : (judge options d).checked =
      notes (Scope.ofDeclared (options.stamp .transform) d) := rfl
  rw [hchecked, filter_notes, wiringNotes_trusted,
    funext (mismatchNotes_trusted (options.stamp .transform) d)]

end Model

/-! ## A document with a refused reference -/

namespace Sample

/-- The class of the nodes, with a parameter of an interface that is not qualified. -/
def unqualified : Node :=
  mapping [("namespaceName", text "App"),
    ("interfaces", sequence [mapping [("interfaceName", text "INode")]]),
    ("classes", sequence [mapping [("className", text "Node"),
      ("qualifiedInterfaceName", text "App.INode"),
      ("initializerParameters", sequence [mapping [("name", text "next"),
        ("qualifiedInterfaceName", text "INode")]])]])]

/-- The second node is wired to the first. -/
def misqualified : Node :=
  mapping [("codeGen", codeGen), ("namespaces", sequence [unqualified]),
    ("namedInstances", sequence [firstNode, secondNode (entry "namedInstanceName" "First")])]

def refusal : Diagnostic :=
  (⟨.invalidBase "INode" .interfaceType "qualifiedInterfaceName", ⟨"chain", 0, none,
    "namespaces[0].classes[0].initializerParameters[0].qualifiedInterfaceName"⟩⟩ : Note).diagnostic

end Sample

namespace Model

/-- The reference of the parameter is refused when it is read, and the wiring that goes by it is
reported all the same. -/
theorem misqualified_reports_twice :
    (ofNode Sample.options "chain" Sample.misqualified).diagnostics = [Sample.refusal,
      (⟨.parameterNotExposed "First" "INode" "next",
        ⟨"chain", 0, none, "namedInstances[1].assignments[0]"⟩⟩ : Note).diagnostic] := by
  decide +kernel

end Model

end DependencyWiring
