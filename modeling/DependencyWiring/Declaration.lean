/-!
# Kinds of declarations

Each mapping of a document declares one thing, and its kind decides which keys it may have.
-/
namespace DependencyWiring

/-- What a mapping of a document declares. -/
inductive Declaration where
  | document
  | codeGen
  | namespaceBlock
  | interfaceType
  | classType
  | parameter
  | namedInstance
  | assignment
  | element
  deriving DecidableEq, Repr, Inhabited

namespace Declaration

/-- The word for the kind in messages. -/
def noun : Declaration → String
  | document => "document"
  | codeGen => "codeGen"
  | namespaceBlock => "namespace"
  | interfaceType => "interface"
  | classType => "class"
  | parameter => "initializer parameter"
  | namedInstance => "named instance"
  | assignment => "assignment"
  | element => "element"

/-- The keys that a mapping of the kind may have. -/
def keys : Declaration → List String
  | document => ["codeGen", "namespaces", "namedInstances"]
  | codeGen =>
    ["registryClassName", "generatedCodePath", "namespaceName", "initializerName",
      "packageReferences"]
  | namespaceBlock => ["namespaceName", "interfaces", "classes"]
  | interfaceType => ["interfaceName"]
  | classType => ["className", "qualifiedInterfaceName", "initializerParameters"]
  | parameter => ["name", "qualifiedClassName", "qualifiedInterfaceName"]
  | namedInstance =>
    ["namedInstanceName", "qualifiedClassName", "qualifiedInterfaceName", "assignments",
      "elements"]
  | assignment => ["parameterName", "assignmentValue", "namedInstanceName"]
  | element => ["assignmentValue", "namedInstanceName"]

end Declaration

/-- The form that a scalar must have. -/
inductive NameForm where
  | simple
  | simpleOrQualified
  deriving DecidableEq, Repr, Inhabited

/-- What a type reference refers to, which decides the bases and marks it may have. -/
inductive ReferenceRole where
  | classType
  | interfaceType
  | bareInterface
  deriving DecidableEq, Repr, Inhabited

/-- The entry that holds a wiring: an assignment to a parameter, or an element of a list. -/
inductive WiringSite where
  | assignment (parameter : String)
  | element
  deriving DecidableEq, Repr, Inhabited

end DependencyWiring
