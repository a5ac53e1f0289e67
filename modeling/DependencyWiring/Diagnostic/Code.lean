/-!
# Diagnostic codes

The closed list of what can be said about a document, and how severe each of it is. A model is fit
for generation when no diagnostic on it is an error.
-/
namespace DependencyWiring

/-- How much a diagnostic weighs. -/
inductive Severity where
  | error
  | warning
  | info
  deriving DecidableEq, Repr, Inhabited

def Severity.name : Severity → String
  | error => "Error"
  | warning => "Warning"
  | info => "Info"

/-- The codes in the order of the catalogue: conditions of the whole document, of single nodes, of
single declarations, and of the whole model. -/
inductive Code where
  | emptyDocument
  | documentParseFailure
  | rootNotMapping
  | invalidNode
  | expectedSequence
  | expectedScalar
  | unknownKey
  | missingRequiredKey
  | emptyValue
  | invalidIdentifier
  | invalidQualifiedName
  | invalidTypeReference
  | unsupportedNullableElementArray
  | parameterClassNotPrimitive
  | duplicatePackageReference
  | redundantEmptyList
  | classNamingConvention
  | interfaceNamingConvention
  | emptyNamespace
  | parameterBothClassAndInterface
  | parameterMissingType
  | duplicateParameterName
  | assignmentBothValueAndReference
  | assignmentMissingValue
  | elementBothValueAndReference
  | elementMissingValue
  | namedInstanceBothAssignmentsAndElements
  | elementsRequireArrayType
  | duplicateTypeIdentifier
  | duplicateNamedInstance
  | duplicateInvokerKey
  | invalidInvokerKey
  | dependencyOrderViolation
  | namedInstanceMissing
  | namedInstanceNotExposingInterface
  | literalForInterfaceParameter
  | unknownInitializerParameter
  | duplicateAssignment
  | unassignedParameter
  | unresolvedClass
  | unresolvedInterface
  | interfaceMismatch
  deriving DecidableEq, Repr, Inhabited

namespace Code

def all : List Code :=
  [emptyDocument, documentParseFailure, rootNotMapping, invalidNode, expectedSequence,
    expectedScalar, unknownKey, missingRequiredKey, emptyValue, invalidIdentifier,
    invalidQualifiedName, invalidTypeReference, unsupportedNullableElementArray,
    parameterClassNotPrimitive, duplicatePackageReference, redundantEmptyList,
    classNamingConvention, interfaceNamingConvention, emptyNamespace,
    parameterBothClassAndInterface, parameterMissingType, duplicateParameterName,
    assignmentBothValueAndReference, assignmentMissingValue, elementBothValueAndReference,
    elementMissingValue, namedInstanceBothAssignmentsAndElements, elementsRequireArrayType,
    duplicateTypeIdentifier, duplicateNamedInstance, duplicateInvokerKey, invalidInvokerKey,
    dependencyOrderViolation, namedInstanceMissing, namedInstanceNotExposingInterface,
    literalForInterfaceParameter, unknownInitializerParameter, duplicateAssignment,
    unassignedParameter, unresolvedClass, unresolvedInterface, interfaceMismatch]

/-- The name of a code in documents and messages. -/
def name : Code → String
  | emptyDocument => "EmptyDocument"
  | documentParseFailure => "DocumentParseFailure"
  | rootNotMapping => "RootNotMapping"
  | invalidNode => "InvalidNode"
  | expectedSequence => "ExpectedSequence"
  | expectedScalar => "ExpectedScalar"
  | unknownKey => "UnknownKey"
  | missingRequiredKey => "MissingRequiredKey"
  | emptyValue => "EmptyValue"
  | invalidIdentifier => "InvalidIdentifier"
  | invalidQualifiedName => "InvalidQualifiedName"
  | invalidTypeReference => "InvalidTypeReference"
  | unsupportedNullableElementArray => "UnsupportedNullableElementArray"
  | parameterClassNotPrimitive => "ParameterClassNotPrimitive"
  | duplicatePackageReference => "DuplicatePackageReference"
  | redundantEmptyList => "RedundantEmptyList"
  | classNamingConvention => "ClassNamingConvention"
  | interfaceNamingConvention => "InterfaceNamingConvention"
  | emptyNamespace => "EmptyNamespace"
  | parameterBothClassAndInterface => "ParameterBothClassAndInterface"
  | parameterMissingType => "ParameterMissingType"
  | duplicateParameterName => "DuplicateParameterName"
  | assignmentBothValueAndReference => "AssignmentBothValueAndReference"
  | assignmentMissingValue => "AssignmentMissingValue"
  | elementBothValueAndReference => "ElementBothValueAndReference"
  | elementMissingValue => "ElementMissingValue"
  | namedInstanceBothAssignmentsAndElements => "NamedInstanceBothAssignmentsAndElements"
  | elementsRequireArrayType => "ElementsRequireArrayType"
  | duplicateTypeIdentifier => "DuplicateTypeIdentifier"
  | duplicateNamedInstance => "DuplicateNamedInstance"
  | duplicateInvokerKey => "DuplicateInvokerKey"
  | invalidInvokerKey => "InvalidInvokerKey"
  | dependencyOrderViolation => "DependencyOrderViolation"
  | namedInstanceMissing => "NamedInstanceMissing"
  | namedInstanceNotExposingInterface => "NamedInstanceNotExposingInterface"
  | literalForInterfaceParameter => "LiteralForInterfaceParameter"
  | unknownInitializerParameter => "UnknownInitializerParameter"
  | duplicateAssignment => "DuplicateAssignment"
  | unassignedParameter => "UnassignedParameter"
  | unresolvedClass => "UnresolvedClass"
  | unresolvedInterface => "UnresolvedInterface"
  | interfaceMismatch => "InterfaceMismatch"

/-- Style is a warning and an idle namespace is a remark; all else is an error. -/
def severity : Code → Severity
  | duplicatePackageReference | redundantEmptyList | classNamingConvention
  | interfaceNamingConvention | unassignedParameter => .warning
  | emptyNamespace => .info
  | _ => .error

theorem mem_all (c : Code) : c ∈ all := by
  cases c <;> decide

end Code

end DependencyWiring
