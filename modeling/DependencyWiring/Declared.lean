import DependencyWiring.Provenance
import DependencyWiring.TypeRef

/-!
# Declarations as authored

What a document declares before anything is checked across declarations. A field that is absent or
unusable holds a placeholder and says so in its status, and the pairs of which exactly one may be
given are two options.
-/
namespace DependencyWiring

namespace Declared

/-- Whether a field was usable, was given in a wrong form, or was not given. -/
inductive Status where
  | valid
  | malformed
  | missing
  deriving DecidableEq, Repr, Inhabited

/-- A scalar with the place where it was authored. -/
structure Field where
  value : String
  origin : Origin
  status : Status
  deriving DecidableEq, Repr, Inhabited

def Field.isValid (f : Field) : Bool :=
  f.status = .valid

/-- A type token and, when it can be read, its type. -/
structure Reference where
  text : Field
  parsed : Option TypeRef
  deriving DecidableEq, Repr, Inhabited

namespace Reference

/-- The type, or the authored text as a base when it could not be read. -/
def resolved (r : Reference) : TypeRef :=
  r.parsed.getD (.named r.text.value)

/-- A reference that was read and is of the kind its key asks for. -/
def isUsable (r : Reference) : Bool :=
  r.text.isValid && r.parsed.isSome

end Reference

structure CodeGen where
  registryClassName : Field
  generatedCodePath : Field
  namespaceName : Field
  initializerName : Field
  packageReferences : List Field
  placeholder : Bool
  provenance : Provenance
  deriving DecidableEq, Repr, Inhabited

structure Interface where
  name : Field
  placeholder : Bool
  provenance : Provenance
  deriving DecidableEq, Repr, Inhabited

structure Parameter where
  name : Field
  classRef : Option Reference
  interfaceRef : Option Reference
  placeholder : Bool
  provenance : Provenance
  deriving DecidableEq, Repr, Inhabited

/-- The list of parameters is absent when its key is. -/
structure Class where
  name : Field
  interfaceRef : Option Reference
  parameters : Option (List Parameter)
  placeholder : Bool
  provenance : Provenance
  deriving DecidableEq, Repr, Inhabited

structure Namespace where
  name : Field
  interfaces : List Interface
  classes : List Class
  placeholder : Bool
  provenance : Provenance
  deriving DecidableEq, Repr, Inhabited

structure Assignment where
  parameterName : Field
  value : Option Field
  instanceRef : Option Field
  placeholder : Bool
  provenance : Provenance
  deriving DecidableEq, Repr, Inhabited

structure Element where
  value : Option Field
  instanceRef : Option Field
  placeholder : Bool
  provenance : Provenance
  deriving DecidableEq, Repr, Inhabited

structure NamedInstance where
  name : Field
  classRef : Reference
  interfaceRef : Option Reference
  assignments : Option (List Assignment)
  elements : Option (List Element)
  placeholder : Bool
  provenance : Provenance
  deriving DecidableEq, Repr, Inhabited

/-- Everything one document declares, in author order. -/
structure Model where
  source : String
  codeGen : CodeGen
  namespaces : List Namespace
  namedInstances : List NamedInstance
  provenance : Provenance
  deriving DecidableEq, Repr, Inhabited

end Declared

end DependencyWiring
