import DependencyWiring.Text.Pieces

/-!
# Names

The grammar of the identifiers a wiring document declares: simple identifiers, names qualified by a
namespace, the naming conventions of classes and interfaces, the primitive types, and the key under
which a class is invoked. Each rule is a function on the characters of the name, so that the laws
about it are inductions on a list.
-/
namespace DependencyWiring.Name

/-- Words of the generated language that no identifier may be. -/
def reservedWords : List String :=
  ["abstract", "as", "base", "bool", "break", "byte", "case", "catch", "char", "checked",
    "class", "const", "continue", "decimal", "default", "delegate", "do", "double", "else",
    "enum", "event", "explicit", "extern", "false", "finally", "fixed", "float", "for",
    "foreach", "goto", "if", "implicit", "in", "int", "interface", "internal", "is", "lock",
    "long", "namespace", "new", "null", "object", "operator", "out", "override", "params",
    "private", "protected", "public", "readonly", "ref", "return", "sbyte", "sealed", "short",
    "sizeof", "stackalloc", "static", "string", "struct", "switch", "this", "throw", "true",
    "try", "typeof", "uint", "ulong", "unchecked", "unsafe", "ushort", "using", "virtual",
    "void", "volatile", "while"]

/-- The primitive types by keyword. -/
def primitiveKeywords : List String :=
  ["bool", "byte", "sbyte", "char", "decimal", "double", "float", "int", "uint", "nint",
    "nuint", "long", "ulong", "short", "ushort", "string", "object"]

/-- The primitive types by their qualified names. -/
def primitiveAliases : List String :=
  ["System.Boolean", "System.Byte", "System.SByte", "System.Char", "System.Decimal",
    "System.Double", "System.Single", "System.Int32", "System.UInt32", "System.IntPtr",
    "System.UIntPtr", "System.Int64", "System.UInt64", "System.Int16", "System.UInt16",
    "System.String", "System.Object"]

def isReserved (s : String) : Bool :=
  reservedWords.contains s

/-- A letter of the ASCII alphabet or an underscore. -/
def isStart (c : Char) : Bool :=
  c.isAlpha || c = '_'

/-- A letter or digit of ASCII, or an underscore. -/
def isPart (c : Char) : Bool :=
  c.isAlphanum || c = '_'

/-- The shape of a simple identifier, reserved words included. -/
def hasWordShape : List Char → Bool
  | [] => false
  | c :: cs => isStart c && cs.all isPart

/-- A word of letters, digits and underscores that starts with no digit and is not reserved. -/
def isSimple (s : String) : Bool :=
  hasWordShape s.toList && !isReserved s

/-- At least two simple identifiers joined by dots. -/
def isQualified (s : String) : Bool :=
  s.toList.contains '.' &&
    (Text.pieces '.' s.toList).all fun piece => isSimple (String.ofList piece)

def isSimpleOrQualified (s : String) : Bool :=
  isSimple s || isQualified s

/-- An upper-case letter followed by letters and digits. -/
def isPascalCase (s : String) : Bool :=
  match s.toList with
  | [] => false
  | c :: cs => c.isUpper && cs.all Char.isAlphanum

/-- A simple identifier that starts with the letter I and another upper-case letter. -/
def isInterfaceName (s : String) : Bool :=
  isSimple s &&
    match s.toList with
    | 'I' :: c :: _ => c.isUpper
    | _ => false

def isPrimitive (s : String) : Bool :=
  primitiveKeywords.contains s || primitiveAliases.contains s

/-- The namespace of a qualified name: what stands before its last dot, or nothing. -/
def namespaceOf (s : String) : String :=
  match Text.splitLast '.' s.toList with
  | some (before, _) => String.ofList before
  | none => ""

/-- The name inside the namespace; a name without a namespace stands for itself. -/
def qualify (namespaceName name : String) : String :=
  if namespaceName = "" then name else namespaceName ++ "." ++ name

/-- A digit may not start a key, so an underscore is put before it. -/
def guardDigit : List Char → List Char
  | [] => []
  | c :: cs => if c.isDigit then '_' :: c :: cs else c :: cs

/-- The identifier under which a class is invoked: each character that an identifier cannot hold
becomes an underscore. Two classes may share a key. -/
def invokerKey (qualifiedName : String) : String :=
  String.ofList (guardDigit (qualifiedName.toList.map fun c => if isPart c then c else '_'))

end DependencyWiring.Name
