import DependencyWiring.Json
import DependencyWiring.Model

/-!
# The interchange document

The model as a JSON value for renderers outside. The members of every object are written in the
order of their names, entities keep the order of the document, and moments are texts of RFC 3339.
-/
namespace DependencyWiring.Interchange

/-- The version of the layout of the document. -/
def version : String := "1.0.0"

def optional {α : Type} (f : α → Json) : Option α → Json
  | none => .null
  | some a => f a

def ofEntry (e : ProvenanceEntry) : Json :=
  .object
    [("column", optional .nat e.origin.column),
      ("line", .nat e.origin.line),
      ("path", .string e.origin.path),
      ("source", .string e.origin.source),
      ("stage", .string e.stamp.stage.name),
      ("timestamp", .string e.stamp.moment.text),
      ("tool", .string e.stamp.tool)]

def ofProvenance (p : Provenance) : Json :=
  .object
    [("entries", .array (p.entries.map ofEntry)),
      ("formatVersion", .nat Provenance.formatVersion)]

def ofDiagnostic (d : Diagnostic) : Json :=
  .object <|
    ("code", .string d.code.name) ::
      ((match d.line with
        | some line => [("line", .nat line)]
        | none => []) ++
      [("location", .string d.location),
        ("message", .string d.message),
        ("severity", .string d.severity.name)])

def ofDiagnostics (ds : List Diagnostic) : Json :=
  .array (ds.map ofDiagnostic)

def ofTypeRef (t : TypeRef) : Json :=
  .object
    [("base", .string t.base),
      ("isArray", .bool t.isArray),
      ("isContainerNullable", .bool t.isContainerNullable),
      ("isElementNullable", .bool t.isElementNullable),
      ("token", .string t.token)]

def ofWiring : Wiring → Json
  | .value text => .object [("kind", .string "value"), ("value", .string text)]
  | .instanceOf name =>
    .object [("kind", .string "instance"), ("namedInstanceName", .string name)]

def ofCodeGen (c : CodeGen) : Json :=
  .object
    [("generatedCodePath", .string c.generatedCodePath),
      ("initializerName", .string c.initializerName),
      ("namespaceName", .string c.namespaceName),
      ("packageReferences", .array (c.packageReferences.map .string)),
      ("provenance", ofProvenance c.provenance),
      ("registryClassName", .string c.registryClassName)]

def ofInterface (i : Interface) : Json :=
  .object
    [("interfaceName", .string i.name),
      ("provenance", ofProvenance i.provenance),
      ("qualifiedName", .string i.qualifiedName)]

def ofParameter (p : Parameter) : Json :=
  .object
    [("isValid", .bool p.isValid),
      ("kind", .string (if p.type.isInterface then "interface" else "class")),
      ("name", .string p.name),
      ("provenance", ofProvenance p.provenance),
      ("type", ofTypeRef p.type.type)]

def ofClass (c : Class) : Json :=
  .object
    [("className", .string c.name),
      ("effectiveReturnType", .string c.effectiveReturnType),
      ("initializerParameters", .array (c.parameters.map ofParameter)),
      ("invokerKey", .string c.invokerKey),
      ("provenance", ofProvenance c.provenance),
      ("qualifiedInterfaceName", optional .string c.interfaceName),
      ("qualifiedName", .string c.qualifiedName)]

def ofNamespace (ns : Namespace) : Json :=
  .object
    [("classes", .array (ns.classes.map ofClass)),
      ("interfaces", .array (ns.interfaces.map ofInterface)),
      ("namespaceName", .string ns.name),
      ("provenance", ofProvenance ns.provenance)]

def ofAssignment (a : Assignment) : Json :=
  .object
    [("isValid", .bool a.isValid),
      ("parameterName", .string a.parameterName),
      ("provenance", ofProvenance a.provenance),
      ("wiring", ofWiring a.wiring)]

def ofElement (e : Element) : Json :=
  .object
    [("isValid", .bool e.isValid),
      ("provenance", ofProvenance e.provenance),
      ("wiring", ofWiring e.wiring)]

def ofInitialization (i : Initialization) : Json :=
  match i with
  | .default => .object [("kind", .string i.kind)]
  | .assignments items =>
    .object [("assignments", .array (items.map ofAssignment)), ("kind", .string i.kind)]
  | .elements items =>
    .object [("elements", .array (items.map ofElement)), ("kind", .string i.kind)]

def ofNamedInstance (i : NamedInstance) : Json :=
  .object
    [("classType", ofTypeRef i.classType),
      ("initialization", ofInitialization i.initialization),
      ("interfaceType", optional ofTypeRef i.interfaceType),
      ("isValid", .bool i.isValid),
      ("namedInstanceName", .string i.name),
      ("provenance", ofProvenance i.provenance)]

/-- The document of a model. -/
def ofModel (m : Model) : Json :=
  .object
    [("codeGen", ofCodeGen m.codeGen),
      ("diagnostics", ofDiagnostics m.diagnostics),
      ("kind", .string "WiringModel"),
      ("namedInstances", .array (m.namedInstances.map ofNamedInstance)),
      ("namespaces", .array (m.namespaces.map ofNamespace)),
      ("provenance", ofProvenance m.provenance),
      ("source", .string m.source),
      ("version", .string version)]

end DependencyWiring.Interchange
