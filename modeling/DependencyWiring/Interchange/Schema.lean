import DependencyWiring.Interchange
import DependencyWiring.Schema

/-!
# The schema of interchange documents

The contract with renderers: every member of every object is required, except for the line of a
diagnostic, and no others may be there.
-/
namespace DependencyWiring.Interchange

open Schema (CharSet Pattern)

def text : Schema := .typed [.string] []

def nonEmptyText : Schema := .typed [.string] [.minLength 1]

def flag : Schema := .typed [.boolean] []

def natural : Schema := .typed [.integer] [.minimum 0]

def textWith (p : Pattern) : Schema := .typed [.string] [.pattern p]

/-- Three numbers joined by dots. -/
def versionPattern : Pattern :=
  [.oneOrMore .digits, .one (.single '.'), .oneOrMore .digits, .one (.single '.'),
    .oneOrMore .digits]

/-- At least two letters, the first of them in upper case. -/
def codePattern : Pattern := [.one .upperCase, .oneOrMore .letters]

/-- An object that has every declared member. -/
def record (properties : List (String × Schema)) : Schema :=
  .object (properties.map Prod.fst) properties

def provenanceEntry : Schema :=
  record
    [("column", .typed [.integer, .null] [.minimum 0]),
      ("line", natural),
      ("path", nonEmptyText),
      ("source", text),
      ("stage", .oneOfTexts ["extract", "transform"]),
      ("timestamp", text),
      ("tool", nonEmptyText)]

def provenance : Schema :=
  record
    [("entries", .array 1 provenanceEntry),
      ("formatVersion", .typed [.integer] [.minimum 1])]

def codeGen : Schema :=
  record
    [("generatedCodePath", text),
      ("initializerName", text),
      ("namespaceName", text),
      ("packageReferences", .array 0 text),
      ("provenance", provenance),
      ("registryClassName", text)]

def typeRef : Schema :=
  record
    [("base", text),
      ("isArray", flag),
      ("isContainerNullable", flag),
      ("isElementNullable", flag),
      ("token", text)]

def parameter : Schema :=
  record
    [("isValid", flag),
      ("kind", .oneOfTexts ["class", "interface"]),
      ("name", text),
      ("provenance", provenance),
      ("type", typeRef)]

def interfaceType : Schema :=
  record [("interfaceName", text), ("provenance", provenance), ("qualifiedName", text)]

def classType : Schema :=
  record
    [("className", text),
      ("effectiveReturnType", text),
      ("initializerParameters", .array 0 parameter),
      ("invokerKey", text),
      ("provenance", provenance),
      ("qualifiedInterfaceName", .typed [.null, .string] []),
      ("qualifiedName", text)]

def namespaceBlock : Schema :=
  record
    [("classes", .array 0 classType),
      ("interfaces", .array 0 interfaceType),
      ("namespaceName", text),
      ("provenance", provenance)]

def wiring : Schema :=
  .oneOf
    [record [("kind", .const "value"), ("value", text)],
      record [("kind", .const "instance"), ("namedInstanceName", text)]]

def assignment : Schema :=
  record
    [("isValid", flag), ("parameterName", text), ("provenance", provenance), ("wiring", wiring)]

def element : Schema :=
  record [("isValid", flag), ("provenance", provenance), ("wiring", wiring)]

def initialization : Schema :=
  .oneOf
    [record [("kind", .const "default")],
      record [("assignments", .array 0 assignment), ("kind", .const "assignments")],
      record [("elements", .array 0 element), ("kind", .const "elements")]]

def namedInstance : Schema :=
  record
    [("classType", typeRef),
      ("initialization", initialization),
      ("interfaceType", .oneOf [typeRef, .typed [.null] []]),
      ("isValid", flag),
      ("namedInstanceName", text),
      ("provenance", provenance)]

/-- The line of a diagnostic may be unknown. -/
def diagnostic : Schema :=
  .object ["code", "location", "message", "severity"]
    [("code", textWith codePattern),
      ("line", natural),
      ("location", text),
      ("message", text),
      ("severity", .oneOfTexts ["Error", "Warning", "Info"])]

/-- The schema of a whole document. -/
def schema : Schema :=
  record
    [("codeGen", codeGen),
      ("diagnostics", .array 0 diagnostic),
      ("kind", .const "WiringModel"),
      ("namedInstances", .array 0 namedInstance),
      ("namespaces", .array 0 namespaceBlock),
      ("provenance", provenance),
      ("source", text),
      ("version", textWith versionPattern)]

end DependencyWiring.Interchange
