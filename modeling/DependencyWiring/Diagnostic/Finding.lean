import DependencyWiring.Declaration
import DependencyWiring.Diagnostic
import DependencyWiring.Node
import DependencyWiring.TypeRef

/-!
# Findings

A finding is the cause of a diagnostic with the names it is about. Its code and the wording of its
message are decided here and nowhere else, and a note is a finding at a place.
-/
namespace DependencyWiring

inductive Finding where
  | emptyDocument
  | unreadableText (reason : String)
  | rootNotMapping (found : Option Shape)
  | invalidNode (kind : Declaration) (found : Shape)
  | unknownKey (key : String) (kind : Declaration)
  | missingKey (kind : Declaration) (key : String)
  | expectedSequence (key : String) (found : Shape)
  | expectedScalar (key : String) (found : Shape)
  | emptyValue (key : String)
  | invalidName (value : String) (form : NameForm) (key : String)
  | invalidToken (key : String) (cause : TypeRef.Error)
  | invalidBase (token : String) (role : ReferenceRole) (key : String)
  | emptyPackageReference
  | packageReferenceNotScalar (found : Shape)
  | duplicatePackageReference (value : String)
  | redundantEmptyList (key : String)
  | concreteParameter (parameter className : String)
  | illFormedName (value : String) (form : NameForm)
  | emptyNamespace (name : String)
  | interfaceNaming (name : String)
  | classNaming (name : String)
  | duplicateParameter (parameter className : String)
  | parameterBothTypes (parameter : String)
  | parameterWithoutType (parameter : String)
  | bothValueAndReference (site : WiringSite)
  | neitherValueNorReference (site : WiringSite)
  | bothLists (instanceName : String)
  | elementsOfNonArray (instanceName token : String)
  | duplicateType (kind : Declaration) (qualifiedName : String) (others : Nat)
      (namespaceName : String)
  | duplicateInstance (instanceName namespaceName : String)
  | sharedInvokerKey (key className : String) (others : List String)
  | invalidInvokerKey (key className : String)
  | undeclaredExposedInterface (className base : String)
  | undeclaredClass (instanceName base : String)
  | undeclaredInterface (instanceName base : String)
  | interfaceMismatch (instanceName base className : String) (exposed : Option String)
  | missingInstance (instanceName target : String)
  | laterInstance (instanceName target : String)
  | unknownParameter (className parameter : String)
  | repeatedAssignment (parameter instanceName : String)
  | unassignedParameter (parameter className instanceName : String)
  | literalForInterface (parameter token literal : String)
  | parameterNotExposed (target base parameter : String)
  | elementNotExposed (instanceName target base : String)
  deriving DecidableEq, Repr, Inhabited

namespace Finding

/-- A text with a dot in it was meant as a qualified name. -/
def nameCode (value : String) : NameForm → Code
  | .simple => .invalidIdentifier
  | .simpleOrQualified =>
    if value.toList.contains '.' then .invalidQualifiedName else .invalidIdentifier

def code : Finding → Code
  | emptyDocument => .emptyDocument
  | unreadableText _ => .documentParseFailure
  | rootNotMapping _ => .rootNotMapping
  | invalidNode .. => .invalidNode
  | unknownKey .. => .unknownKey
  | missingKey .. => .missingRequiredKey
  | expectedSequence .. => .expectedSequence
  | expectedScalar .. => .expectedScalar
  | emptyValue _ => .emptyValue
  | invalidName value form _ => nameCode value form
  | invalidToken _ (.nullableElementArray _) => .unsupportedNullableElementArray
  | invalidToken _ _ => .invalidTypeReference
  | invalidBase .. => .invalidQualifiedName
  | emptyPackageReference => .emptyValue
  | packageReferenceNotScalar _ => .expectedScalar
  | duplicatePackageReference _ => .duplicatePackageReference
  | redundantEmptyList _ => .redundantEmptyList
  | concreteParameter .. => .parameterClassNotPrimitive
  | illFormedName value form => nameCode value form
  | emptyNamespace _ => .emptyNamespace
  | interfaceNaming _ => .interfaceNamingConvention
  | classNaming _ => .classNamingConvention
  | duplicateParameter .. => .duplicateParameterName
  | parameterBothTypes _ => .parameterBothClassAndInterface
  | parameterWithoutType _ => .parameterMissingType
  | bothValueAndReference (.assignment _) => .assignmentBothValueAndReference
  | bothValueAndReference .element => .elementBothValueAndReference
  | neitherValueNorReference (.assignment _) => .assignmentMissingValue
  | neitherValueNorReference .element => .elementMissingValue
  | bothLists _ => .namedInstanceBothAssignmentsAndElements
  | elementsOfNonArray .. => .elementsRequireArrayType
  | duplicateType .. => .duplicateTypeIdentifier
  | duplicateInstance .. => .duplicateNamedInstance
  | sharedInvokerKey .. => .duplicateInvokerKey
  | invalidInvokerKey .. => .invalidInvokerKey
  | undeclaredExposedInterface .. => .unresolvedInterface
  | undeclaredClass .. => .unresolvedClass
  | undeclaredInterface .. => .unresolvedInterface
  | interfaceMismatch .. => .interfaceMismatch
  | missingInstance .. => .namedInstanceMissing
  | laterInstance .. => .dependencyOrderViolation
  | unknownParameter .. => .unknownInitializerParameter
  | repeatedAssignment .. => .duplicateAssignment
  | unassignedParameter .. => .unassignedParameter
  | literalForInterface .. => .literalForInterfaceParameter
  | parameterNotExposed .. => .namedInstanceNotExposingInterface
  | elementNotExposed .. => .namedInstanceNotExposingInterface

/-- What a name of the form is called. -/
def formText : NameForm → String
  | .simple => "a simple identifier"
  | .simpleOrQualified => "a simple or qualified identifier"

/-- What a reference of the role is called. -/
def roleText : ReferenceRole → String
  | .classType => "a primitive type or a namespace-qualified class name"
  | .interfaceType => "a namespace-qualified interface name"
  | .bareInterface => "a namespace-qualified interface name without modifiers"

/-- What an entry that holds a wiring is called. -/
def siteText : WiringSite → String
  | .assignment parameter => s!"assignment to '{parameter}'"
  | .element => "element"

/-- What a class offers instead of the interface asked for. -/
def exposureText (className : String) : Option String → String
  | some exposed => s!"class '{className}' exposes '{exposed}'"
  | none => s!"class '{className}' exposes no interface"

def message : Finding → String
  | emptyDocument => "document contains no declarations"
  | unreadableText reason => s!"document could not be parsed: {reason}"
  | rootNotMapping none => "document root must be a mapping"
  | rootNotMapping (some found) => s!"document root must be a mapping, found a {found.name}"
  | invalidNode kind found => s!"expected a {kind.noun} mapping, found a {found.name}"
  | unknownKey key kind =>
    s!"unknown key '{key}' in {kind.noun}; expected one of: " ++ ", ".intercalate kind.keys
  | missingKey kind key => s!"{kind.noun} is missing required key '{key}'"
  | expectedSequence key found => s!"'{key}' must be a sequence, found a {found.name}"
  | expectedScalar key found => s!"'{key}' must be a scalar, found a {found.name}"
  | emptyValue key => s!"'{key}' must not be empty"
  | invalidName value form key => s!"'{value}' is not {formText form} (key '{key}')"
  | invalidToken key cause => s!"invalid type reference for '{key}': {cause.message}"
  | invalidBase token role key => s!"'{token}' is not {roleText role} (key '{key}')"
  | emptyPackageReference => "package reference must not be empty"
  | packageReferenceNotScalar found =>
    s!"package reference must be a scalar, found a {found.name}"
  | duplicatePackageReference value => s!"package reference '{value}' is listed more than once"
  | redundantEmptyList key => s!"explicit empty '{key}' list has no effect; omit the key instead"
  | concreteParameter parameter className =>
    s!"parameter '{parameter}' references concrete class '{className}'; " ++
      "non-primitive parameters must reference an interface"
  | illFormedName value _ => s!"'{value}' is not a well-formed name"
  | emptyNamespace name => s!"namespace '{name}' declares no interfaces or classes"
  | interfaceNaming name =>
    s!"interface name '{name}' should start with 'I' followed by an uppercase letter"
  | classNaming name => s!"class name '{name}' should be PascalCase"
  | duplicateParameter parameter className =>
    s!"parameter '{parameter}' is declared more than once in class '{className}'"
  | parameterBothTypes parameter =>
    s!"parameter '{parameter}' declares both 'qualifiedClassName' and " ++
      "'qualifiedInterfaceName'; exactly one is allowed"
  | parameterWithoutType parameter =>
    s!"parameter '{parameter}' must declare one of 'qualifiedClassName' or " ++
      "'qualifiedInterfaceName'"
  | bothValueAndReference site =>
    s!"{siteText site} declares both 'assignmentValue' and 'namedInstanceName'; " ++
      "exactly one is allowed"
  | neitherValueNorReference site =>
    s!"{siteText site} must declare one of 'assignmentValue' or 'namedInstanceName'"
  | bothLists name =>
    s!"named instance '{name}' declares both 'assignments' and 'elements'; " ++
      "at most one is allowed"
  | elementsOfNonArray name token =>
    s!"named instance '{name}' lists elements but its class type '{token}' is not an array"
  | duplicateType kind qualifiedName others namespaceName =>
    s!"{kind.noun} '{qualifiedName}' shares its name with {others} other type(s) " ++
      s!"in namespace '{namespaceName}'"
  | duplicateInstance name namespaceName =>
    s!"named instance '{name}' is declared more than once for namespace '{namespaceName}'"
  | sharedInvokerKey key className others =>
    s!"invoker key '{key}' of class '{className}' is also produced by " ++
      ", ".intercalate others
  | invalidInvokerKey key className =>
    s!"invoker key '{key}' of class '{className}' is not a valid identifier"
  | undeclaredExposedInterface className base =>
    s!"class '{className}' exposes interface '{base}', which is not declared"
  | undeclaredClass name base =>
    s!"named instance '{name}' uses class '{base}', which is not declared"
  | undeclaredInterface name base =>
    s!"named instance '{name}' uses interface '{base}', which is not declared"
  | interfaceMismatch name base className exposed =>
    s!"named instance '{name}' declares interface '{base}' but " ++
      exposureText className exposed
  | missingInstance name target =>
    s!"named instance '{name}' references '{target}', which is not declared"
  | laterInstance name target =>
    s!"named instance '{name}' references '{target}', which is not declared before it"
  | unknownParameter className parameter =>
    s!"class '{className}' has no initializer parameter '{parameter}'"
  | repeatedAssignment parameter name =>
    s!"parameter '{parameter}' of named instance '{name}' is assigned more than once"
  | unassignedParameter parameter className name =>
    s!"parameter '{parameter}' of class '{className}' is not assigned by " ++
      s!"named instance '{name}'"
  | literalForInterface parameter token literal =>
    s!"parameter '{parameter}' expects interface '{token}' but is assigned the " ++
      s!"literal '{literal}'"
  | parameterNotExposed target base parameter =>
    s!"named instance '{target}' does not expose '{base}' required by parameter '{parameter}'"
  | elementNotExposed name target base =>
    s!"element of '{name}' references '{target}', which does not expose '{base}'"

end Finding

/-- A finding at a place. -/
structure Note where
  finding : Finding
  origin : Origin
  deriving DecidableEq, Repr, Inhabited

namespace Note

def code (n : Note) : Code :=
  n.finding.code

/-- The diagnostic that tells a reader of the finding. -/
def diagnostic (n : Note) : Diagnostic :=
  .atOrigin n.code n.finding.message n.origin

end Note

end DependencyWiring
