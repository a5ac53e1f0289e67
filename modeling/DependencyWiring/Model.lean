import DependencyWiring.Diagnostic
import DependencyWiring.Placeholder
import DependencyWiring.TypeRef

/-!
# The wiring model

What a document means: every pair of which exactly one may be given is a sum here, names are
qualified and derived names computed. Entities that broke a rule stay in the model and are marked as
invalid, so that a tool can show the whole document.
-/
namespace DependencyWiring

structure CodeGen where
  registryClassName : String
  generatedCodePath : String
  namespaceName : String
  initializerName : String
  packageReferences : List String
  provenance : Provenance
  deriving DecidableEq, Repr, Inhabited

structure Interface where
  name : String
  qualifiedName : String
  provenance : Provenance
  deriving DecidableEq, Repr, Inhabited

/-- A parameter takes a literal of a primitive class, or an instance that exposes an interface. -/
inductive ParameterType where
  | classType (type : TypeRef)
  | interfaceType (type : TypeRef)
  deriving DecidableEq, Repr, Inhabited

namespace ParameterType

def type : ParameterType → TypeRef
  | classType t => t
  | interfaceType t => t

def isInterface : ParameterType → Bool
  | classType _ => false
  | interfaceType _ => true

end ParameterType

structure Parameter where
  name : String
  type : ParameterType
  isValid : Bool
  provenance : Provenance
  deriving DecidableEq, Repr, Inhabited

structure Class where
  name : String
  qualifiedName : String
  interfaceName : Option String
  effectiveReturnType : String
  invokerKey : String
  parameters : List Parameter
  provenance : Provenance
  deriving DecidableEq, Repr, Inhabited

namespace Class

/-- The first parameter of a name. -/
def parameter? (c : Class) (name : String) : Option Parameter :=
  c.parameters.find? fun p => p.name = name

def isPlaceholder (c : Class) : Bool :=
  Placeholder.isPlaceholder c.name

end Class

structure Namespace where
  name : String
  interfaces : List Interface
  classes : List Class
  provenance : Provenance
  deriving DecidableEq, Repr, Inhabited

/-- What is put in: a literal, which is rendered as it stands, or another named instance. -/
inductive Wiring where
  | value (text : String)
  | instanceOf (name : String)
  deriving DecidableEq, Repr, Inhabited

structure Assignment where
  parameterName : String
  wiring : Wiring
  isValid : Bool
  provenance : Provenance
  deriving DecidableEq, Repr, Inhabited

structure Element where
  wiring : Wiring
  isValid : Bool
  provenance : Provenance
  deriving DecidableEq, Repr, Inhabited

/-- How an instance is initialized. -/
inductive Initialization where
  | default
  | assignments (items : List Assignment)
  | elements (items : List Element)
  deriving DecidableEq, Repr, Inhabited

def Initialization.kind : Initialization → String
  | default => "default"
  | assignments _ => "assignments"
  | elements _ => "elements"

structure NamedInstance where
  name : String
  classType : TypeRef
  interfaceType : Option TypeRef
  initialization : Initialization
  isValid : Bool
  provenance : Provenance
  deriving DecidableEq, Repr, Inhabited

namespace NamedInstance

/-- The namespace of the class, which a primitive does not have. -/
def namespaceName (i : NamedInstance) : String :=
  Name.namespaceOf i.classType.base

def isPlaceholder (i : NamedInstance) : Bool :=
  Placeholder.isPlaceholder i.name

/-- Every wiring of the instance with the provenance of the entry that holds it. -/
def wirings (i : NamedInstance) : List (Wiring × Provenance) :=
  match i.initialization with
  | .default => []
  | .assignments items => items.map fun a => (a.wiring, a.provenance)
  | .elements items => items.map fun e => (e.wiring, e.provenance)

end NamedInstance

structure Model where
  source : String
  codeGen : CodeGen
  namespaces : List Namespace
  namedInstances : List NamedInstance
  provenance : Provenance
  diagnostics : List Diagnostic
  deriving DecidableEq, Repr, Inhabited

namespace Model

/-- Whether code may be generated from the model: no diagnostic on it is an error. -/
def isGeneratable (m : Model) : Bool :=
  !Diagnostic.hasErrors m.diagnostics

def classes (m : Model) : List Class :=
  m.namespaces.flatMap Namespace.classes

def interfaces (m : Model) : List Interface :=
  m.namespaces.flatMap Namespace.interfaces

/-- The first class of a qualified name. -/
def class? (m : Model) (qualifiedName : String) : Option Class :=
  m.classes.find? fun c => c.qualifiedName = qualifiedName

/-- The first instance of a name. -/
def namedInstance? (m : Model) (name : String) : Option NamedInstance :=
  m.namedInstances.find? fun i => i.name = name

end Model

end DependencyWiring
