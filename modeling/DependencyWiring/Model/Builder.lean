import DependencyWiring.Declared
import DependencyWiring.Model
import DependencyWiring.Report

/-!
# Building the model

Each declaration becomes one entity of the model at the same position. The forms of names are
checked once more, the rules inside a declaration are enforced, and the provenance of the entity
gets one entry more.
-/
namespace DependencyWiring.Model

/-- The base of the type of a parameter that declares none. -/
def missingParameterType : String := Placeholder.missing "parameterType"

/-- The text of a wiring that declares neither a literal nor an instance. -/
def missingValue : String := Placeholder.missing "value"

/-- Whether a field is usable. A field that was accepted and has not the form is noted. -/
def recheck (f : Declared.Field) (form : NameForm) : Report Bool :=
  let hasForm :=
    match form with
    | .simple => Name.isSimple f.value
    | .simpleOrQualified => Name.isSimpleOrQualified f.value
  if !f.isValid then pure false
  else if hasForm then pure true
  else do
    Report.note (.illFormedName f.value form) f.origin
    pure false

variable (stamp : Stamp)

def buildCodeGen (d : Declared.CodeGen) : Report CodeGen := do
  let _ ← recheck d.registryClassName .simple
  let _ ← recheck d.namespaceName .simpleOrQualified
  let _ ← recheck d.initializerName .simple
  pure
    { registryClassName := d.registryClassName.value
      generatedCodePath := d.generatedCodePath.value
      namespaceName := d.namespaceName.value
      initializerName := d.initializerName.value
      packageReferences := d.packageReferences.map Declared.Field.value
      provenance := stamp.extend d.provenance }

/-! ## Types -/

def buildInterface (namespaceName : String) (d : Declared.Interface) : Report Interface := do
  let nameOk ← recheck d.name .simple
  Report.noteIf (nameOk && !Name.isInterfaceName d.name.value) (.interfaceNaming d.name.value)
    d.name.origin
  pure ⟨d.name.value, Name.qualify namespaceName d.name.value, stamp.extend d.provenance⟩

/-- The type of a parameter, and whether it declares exactly one that can be used. -/
def parameterType (d : Declared.Parameter) : Report (ParameterType × Bool) :=
  match d.classRef, d.interfaceRef with
  | some _, some i => do
    Report.note (.parameterBothTypes d.name.value) d.provenance.origin
    pure (.interfaceType i.resolved, false)
  | none, none => do
    Report.noteIf (!d.placeholder) (.parameterWithoutType d.name.value) d.provenance.origin
    pure (.classType (.named missingParameterType), false)
  | some c, none => pure (.classType c.resolved, c.isUsable)
  | none, some i => pure (.interfaceType i.resolved, i.isUsable)

def buildParameter (d : Declared.Parameter) : Report Parameter := do
  let nameOk ← recheck d.name .simple
  let (type, typeOk) ← parameterType d
  pure ⟨d.name.value, type, !d.placeholder && nameOk && typeOk, stamp.extend d.provenance⟩

/-- The parameters of a class. A name that was declared before is noted. -/
def buildParameters (className : String) (seen : List String) :
    List Declared.Parameter → Report (List Parameter)
  | [] => pure []
  | d :: ds => do
    let counted := !d.placeholder && !Placeholder.isPlaceholder d.name.value
    Report.noteIf (counted && seen.contains d.name.value)
      (.duplicateParameter d.name.value className) d.name.origin
    let p ← buildParameter stamp d
    let ps ← buildParameters className (if counted then d.name.value :: seen else seen) ds
    pure (p :: ps)

def buildClass (namespaceName : String) (d : Declared.Class) : Report Class := do
  let nameOk ← recheck d.name .simple
  Report.noteIf (nameOk && !Name.isPascalCase d.name.value) (.classNaming d.name.value)
    d.name.origin
  let qualifiedName := Name.qualify namespaceName d.name.value
  let interfaceName := d.interfaceRef.map fun r => r.resolved.base
  let parameters ← buildParameters stamp qualifiedName [] (d.parameters.getD [])
  pure
    { name := d.name.value
      qualifiedName
      interfaceName
      effectiveReturnType := interfaceName.getD qualifiedName
      invokerKey := Name.invokerKey qualifiedName
      parameters
      provenance := stamp.extend d.provenance }

def buildNamespace (d : Declared.Namespace) : Report Namespace := do
  let _ ← recheck d.name .simpleOrQualified
  Report.noteIf (!d.placeholder && d.interfaces.isEmpty && d.classes.isEmpty)
    (.emptyNamespace d.name.value) d.provenance.origin
  let interfaces ← Report.forEach (buildInterface stamp d.name.value) d.interfaces
  let classes ← Report.forEach (buildClass stamp d.name.value) d.classes
  pure ⟨d.name.value, interfaces, classes, stamp.extend d.provenance⟩

/-! ## Instances -/

/-- The wiring of an entry, and whether it declares exactly one that can be used. -/
def buildWiring (value instanceRef : Option Declared.Field) (placeholder : Bool)
    (provenance : Provenance) (site : WiringSite) : Report (Wiring × Bool) :=
  match value, instanceRef with
  | some _, some i => do
    Report.note (.bothValueAndReference site) provenance.origin
    pure (.instanceOf i.value, false)
  | none, none => do
    Report.noteIf (!placeholder) (.neitherValueNorReference site) provenance.origin
    pure (.value missingValue, false)
  | some v, none => pure (.value v.value, v.isValid)
  | none, some i => pure (.instanceOf i.value, i.isValid)

def buildAssignment (d : Declared.Assignment) : Report Assignment := do
  let nameOk ← recheck d.parameterName .simple
  let (wiring, wiringOk) ←
    buildWiring d.value d.instanceRef d.placeholder d.provenance
      (.assignment d.parameterName.value)
  pure ⟨d.parameterName.value, wiring, !d.placeholder && nameOk && wiringOk,
    stamp.extend d.provenance⟩

def buildElement (d : Declared.Element) : Report Element := do
  let (wiring, wiringOk) ←
    buildWiring d.value d.instanceRef d.placeholder d.provenance .element
  pure ⟨wiring, !d.placeholder && wiringOk, stamp.extend d.provenance⟩

/-- Assignments come before elements when an instance has both. -/
def initialization (assignments : List Assignment) (elements : List Element) : Initialization :=
  if assignments ≠ [] then .assignments assignments
  else if elements ≠ [] then .elements elements
  else .default

def buildNamedInstance (d : Declared.NamedInstance) : Report NamedInstance := do
  let nameOk ← recheck d.name .simple
  let classType := d.classRef.resolved
  let declaredAssignments := d.assignments.getD []
  let declaredElements := d.elements.getD []
  let both := !declaredAssignments.isEmpty && !declaredElements.isEmpty
  Report.noteIf both (.bothLists d.name.value) d.provenance.origin
  let arrayMissing :=
    !both && !declaredElements.isEmpty && d.classRef.isUsable && !classType.isArray
  Report.noteIf arrayMissing (.elementsOfNonArray d.name.value classType.token)
    d.provenance.origin
  let assignments ← Report.forEach (buildAssignment stamp) declaredAssignments
  let elements ← Report.forEach (buildElement stamp) declaredElements
  pure
    { name := d.name.value
      classType
      interfaceType := d.interfaceRef.map Declared.Reference.resolved
      initialization := initialization assignments elements
      isValid :=
        !d.placeholder && nameOk && d.classRef.isUsable &&
          (d.interfaceRef.all Declared.Reference.isUsable) && !both && !arrayMissing
      provenance := stamp.extend d.provenance }

/-- The model of the declarations, still without diagnostics. -/
def build (d : Declared.Model) : Report Model := do
  let codeGen ← buildCodeGen stamp d.codeGen
  let namespaces ← Report.forEach (buildNamespace stamp) d.namespaces
  let namedInstances ← Report.forEach (buildNamedInstance stamp) d.namedInstances
  pure ⟨d.source, codeGen, namespaces, namedInstances, stamp.extend d.provenance, []⟩

end DependencyWiring.Model
