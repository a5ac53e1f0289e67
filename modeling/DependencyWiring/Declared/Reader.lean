import DependencyWiring.Declared
import DependencyWiring.Node
import DependencyWiring.Placeholder
import DependencyWiring.Report
import DependencyWiring.Text.Blank

/-!
# Reading declarations from a document tree

A node that cannot be read is noted and replaced by a placeholder, so the declarations beside it are
read all the same. Only a root that is empty or no mapping declares nothing at all.
-/
namespace DependencyWiring.Declared

/-- The source of a document and the stamp of the run that reads it. -/
structure Reading where
  source : String
  stamp : Stamp
  deriving DecidableEq, Repr, Inhabited

/-- A scalar that stands for an absent value. -/
def isNull (text : String) : Bool :=
  let t := Text.trimChars text.toList
  t = [] || t = ['~'] || t = ['n', 'u', 'l', 'l']

namespace Reading

variable (r : Reading)

def origin (node : Node) (path : String) : Origin :=
  ⟨r.source, node.position.line, node.position.column, path⟩

/-- The provenance of an entity that a node declares. -/
def provenance (node : Node) (path : String) : Provenance :=
  r.stamp.start (r.origin node path)

/-- A field without a value. -/
def absent (node : Node) (path value : String) : Field :=
  ⟨value, r.origin node path, .missing⟩

/-! ## Keys and scalars -/

/-- Notes every key that a declaration of the kind may not have. -/
def checkKeys (entries : List (String × Node)) (kind : Declaration) (path : String) :
    Report Unit := do
  let _ ← Report.forEach
    (fun (key, value) =>
      Report.noteIf (!kind.keys.contains key) (.unknownKey key kind)
        (r.origin value (LogicalPath.key path key)))
    entries
  pure ()

/-- Whether a text has the form of a name. -/
def hasForm : NameForm → String → Bool
  | .simple => Name.isSimple
  | .simpleOrQualified => Name.isSimpleOrQualified

/-- A field with a value, in the form asked for if one is. -/
def authored (value : String) (origin : Origin) (key : String) (form : Option NameForm) :
    Report Field :=
  match form with
  | none => pure ⟨value, origin, .valid⟩
  | some form =>
    if hasForm form value then pure ⟨value, origin, .valid⟩
    else do
      Report.note (.invalidName value form key) origin
      pure ⟨value, origin, .malformed⟩

/-- The field of a key that must have a value. -/
def required (parent : Node) (path key : String) (kind : Declaration) (form : Option NameForm) :
    Report Field :=
  let fieldPath := LogicalPath.key path key
  let placeholder := Placeholder.missing key
  match parent.get? key with
  | none => do
    Report.note (.missingKey kind key) (r.origin parent fieldPath)
    pure (r.absent parent fieldPath placeholder)
  | some node =>
    match node.text? with
    | none => do
      Report.note (.expectedScalar key node.shape) (r.origin node fieldPath)
      pure (r.absent node fieldPath placeholder)
    | some text =>
      if isNull text then do
        Report.note (.emptyValue key) (r.origin node fieldPath)
        pure (r.absent node fieldPath placeholder)
      else authored text (r.origin node fieldPath) key form

/-- The field of a key that may be left out. -/
def optional (parent : Node) (path key : String) (form : Option NameForm) :
    Report (Option Field) :=
  match parent.get? key with
  | none => pure none
  | some node =>
    let origin := r.origin node (LogicalPath.key path key)
    match node.text? with
    | none => do
      Report.note (.expectedScalar key node.shape) origin
      pure none
    | some text =>
      if isNull text then pure none
      else do
        let field ← authored text origin key form
        pure (some field)

/-! ## References -/

/-- Whether a type is one that the role refers to. -/
def fitsRole (t : TypeRef) : ReferenceRole → Bool
  | .classType => t.isPrimitive || Name.isQualified t.base
  | .interfaceType => !t.isPrimitive && Name.isQualified t.base
  | .bareInterface => !t.hasModifiers && !t.isPrimitive && Name.isQualified t.base

/-- Reads a type token, and checks its base and marks. -/
def reference (text : Field) (key : String) (role : ReferenceRole) : Report Reference :=
  if text.isValid then
    match TypeRef.parse text.value with
    | .error cause => do
      Report.note (.invalidToken key cause) text.origin
      pure ⟨{ text with status := .malformed }, none⟩
    | .ok t =>
      if fitsRole t role then pure ⟨text, some t⟩
      else do
        Report.note (.invalidBase text.value role key) text.origin
        pure ⟨{ text with status := .malformed }, some t⟩
  else pure ⟨text, none⟩

def requiredReference (parent : Node) (path key : String) (kind : Declaration)
    (role : ReferenceRole) : Report Reference := do
  let text ← r.required parent path key kind none
  reference text key role

def optionalReference (parent : Node) (path key : String) (role : ReferenceRole) :
    Report (Option Reference) := do
  match ← r.optional parent path key none with
  | none => pure none
  | some text =>
    let ref ← reference text key role
    pure (some ref)

/-! ## Sequences -/

/-- What a key holds where a sequence is asked for. -/
inductive Listing where
  | absent
  | invalid
  | items (nodes : List Node) (holder : Node)

def Listing.nodes : Listing → List Node
  | .items nodes _ => nodes
  | _ => []

/-- The sequence of a key. A null scalar stands for no sequence. -/
def listing (parent : Node) (path key : String) : Report Listing :=
  match parent.get? key with
  | none => pure .absent
  | some (.sequence items position) => pure (.items items (.sequence items position))
  | some (.scalar text position) =>
    if isNull text then pure .absent
    else do
      Report.note (.expectedSequence key .scalar)
        (r.origin (.scalar text position) (LogicalPath.key path key))
      pure .invalid
  | some (.mapping entries position) => do
    Report.note (.expectedSequence key .mapping)
      (r.origin (.mapping entries position) (LogicalPath.key path key))
    pure .invalid

/-- Reads each item of a sequence at its own path. -/
def readItems {α : Type} (path key : String) (items : List Node)
    (read : Node → String → Report α) : Report (List α) :=
  Report.forEachIndexed (fun i item => read item (LogicalPath.item path key i)) items

/-- Reads each item of the sequence of a key, of none if there is no sequence. -/
def readListing {α : Type} (parent : Node) (path key : String)
    (read : Node → String → Report α) : Report (List α) := do
  let found ← r.listing parent path key
  readItems path key found.nodes read

/-- Notes that a node is no mapping. -/
def noteInvalid (node : Node) (path : String) (kind : Declaration) : Report Unit :=
  Report.note (.invalidNode kind node.shape) (r.origin node path)

/-! ## Code generation -/

/-- Reads the package references. What is no text is left out, and a repeated one is noted. -/
def readPackages (path : String) (seen : List String) (start : Nat) :
    List Node → Report (List Field)
  | [] => pure []
  | node :: nodes =>
    let origin := r.origin node (LogicalPath.item path "packageReferences" start)
    match node.text? with
    | none => do
      Report.note (.packageReferenceNotScalar node.shape) origin
      readPackages path seen (start + 1) nodes
    | some text =>
      if isNull text then do
        Report.note .emptyPackageReference origin
        readPackages path seen (start + 1) nodes
      else do
        Report.noteIf (seen.contains text) (.duplicatePackageReference text) origin
        let later ← readPackages path (text :: seen) (start + 1) nodes
        pure (⟨text, origin, .valid⟩ :: later)

/-- The block of a document that has none. -/
def absentCodeGen (node : Node) (path : String) : CodeGen :=
  let field (key : String) := r.absent node (LogicalPath.key path key) (Placeholder.missing key)
  { registryClassName := field "registryClassName"
    generatedCodePath := field "generatedCodePath"
    namespaceName := field "namespaceName"
    initializerName := field "initializerName"
    packageReferences := []
    placeholder := true
    provenance := r.provenance node path }

def readCodeGen (root : Node) : Report CodeGen := do
  let path := LogicalPath.key LogicalPath.root "codeGen"
  match root.get? "codeGen" with
  | none =>
    Report.note (.missingKey .document "codeGen") (r.origin root path)
    pure (r.absentCodeGen root path)
  | some node =>
    match node.entries? with
    | none =>
      r.noteInvalid node path .codeGen
      pure (r.absentCodeGen node path)
    | some entries =>
      r.checkKeys entries .codeGen path
      let registryClassName ← r.required node path "registryClassName" .codeGen (some .simple)
      let generatedCodePath ← r.required node path "generatedCodePath" .codeGen none
      let namespaceName ←
        r.required node path "namespaceName" .codeGen (some .simpleOrQualified)
      let initializerName ← r.required node path "initializerName" .codeGen (some .simple)
      let packages ← r.listing node path "packageReferences"
      let packageReferences ← r.readPackages path [] 0 packages.nodes
      pure
        { registryClassName, generatedCodePath, namespaceName, initializerName
          packageReferences
          placeholder := false
          provenance := r.provenance node path }

/-! ## Types -/

def readInterface (node : Node) (path : String) : Report Interface := do
  match node.entries? with
  | none =>
    r.noteInvalid node path .interfaceType
    pure ⟨r.absent node path (Placeholder.invalid "interface"), true, r.provenance node path⟩
  | some entries =>
    r.checkKeys entries .interfaceType path
    let name ← r.required node path "interfaceName" .interfaceType (some .simple)
    pure ⟨name, false, r.provenance node path⟩

/-- A parameter of a concrete class is refused unless it names an interface too, which is refused
for another reason. -/
def checkConcrete (name : Field) (classRef interfaceRef : Option Reference) :
    Report (Option Reference) :=
  match classRef, interfaceRef with
  | some ref, none =>
    if ref.text.isValid && ref.parsed.any fun t => !t.isPrimitive then do
      Report.note (.concreteParameter name.value ref.text.value) ref.text.origin
      pure (some { ref with text := { ref.text with status := .malformed } })
    else pure (some ref)
  | ref, _ => pure ref

def readParameter (node : Node) (path : String) : Report Parameter := do
  match node.entries? with
  | none =>
    r.noteInvalid node path .parameter
    pure ⟨r.absent node path (Placeholder.invalid "parameter"), none, none, true,
      r.provenance node path⟩
  | some entries =>
    r.checkKeys entries .parameter path
    let name ← r.required node path "name" .parameter (some .simple)
    let classRef ← r.optionalReference node path "qualifiedClassName" .classType
    let interfaceRef ← r.optionalReference node path "qualifiedInterfaceName" .interfaceType
    let classRef ← checkConcrete name classRef interfaceRef
    pure ⟨name, classRef, interfaceRef, false, r.provenance node path⟩

/-- The parameters of a class. Their key must be there, though the list may be empty. -/
def readParameters (node : Node) (path : String) : Report (Option (List Parameter)) := do
  match ← r.listing node path "initializerParameters" with
  | .items nodes _ =>
    let parameters ← readItems path "initializerParameters" nodes r.readParameter
    pure (some parameters)
  | .invalid => pure (some [])
  | .absent =>
    Report.note (.missingKey .classType "initializerParameters")
      (r.origin node (LogicalPath.key path "initializerParameters"))
    pure none

def readClass (node : Node) (path : String) : Report Class := do
  match node.entries? with
  | none =>
    r.noteInvalid node path .classType
    pure ⟨r.absent node path (Placeholder.invalid "class"), none, some [], true,
      r.provenance node path⟩
  | some entries =>
    r.checkKeys entries .classType path
    let name ← r.required node path "className" .classType (some .simple)
    let interfaceRef ← r.optionalReference node path "qualifiedInterfaceName" .bareInterface
    let parameters ← r.readParameters node path
    pure ⟨name, interfaceRef, parameters, false, r.provenance node path⟩

def readNamespace (node : Node) (path : String) : Report Namespace := do
  match node.entries? with
  | none =>
    r.noteInvalid node path .namespaceBlock
    pure ⟨r.absent node path (Placeholder.invalid "namespace"), [], [], true,
      r.provenance node path⟩
  | some entries =>
    r.checkKeys entries .namespaceBlock path
    let name ← r.required node path "namespaceName" .namespaceBlock (some .simpleOrQualified)
    let interfaces ← r.readListing node path "interfaces" r.readInterface
    let classes ← r.readListing node path "classes" r.readClass
    pure ⟨name, interfaces, classes, false, r.provenance node path⟩

/-! ## Instances -/

def readAssignment (node : Node) (path : String) : Report Assignment := do
  match node.entries? with
  | none =>
    r.noteInvalid node path .assignment
    pure ⟨r.absent node path (Placeholder.invalid "assignment"), none, none, true,
      r.provenance node path⟩
  | some entries =>
    r.checkKeys entries .assignment path
    let parameterName ← r.required node path "parameterName" .assignment (some .simple)
    let value ← r.optional node path "assignmentValue" none
    let instanceRef ← r.optional node path "namedInstanceName" (some .simple)
    pure ⟨parameterName, value, instanceRef, false, r.provenance node path⟩

def readElement (node : Node) (path : String) : Report Element := do
  match node.entries? with
  | none =>
    r.noteInvalid node path .element
    pure ⟨none, none, true, r.provenance node path⟩
  | some entries =>
    r.checkKeys entries .element path
    let value ← r.optional node path "assignmentValue" none
    let instanceRef ← r.optional node path "namedInstanceName" (some .simple)
    pure ⟨value, instanceRef, false, r.provenance node path⟩

/-- The entries of an instance under a key. An explicit empty list is noted. -/
def readEntries {α : Type} (node : Node) (path key : String) (read : Node → String → Report α) :
    Report (Option (List α)) := do
  match ← r.listing node path key with
  | .items nodes holder =>
    Report.noteIf nodes.isEmpty (.redundantEmptyList key)
      (r.origin holder (LogicalPath.key path key))
    let entries ← readItems path key nodes read
    pure (some entries)
  | _ => pure none

def readNamedInstance (node : Node) (path : String) : Report NamedInstance := do
  match node.entries? with
  | none =>
    r.noteInvalid node path .namedInstance
    let placeholder := r.absent node path (Placeholder.invalid "namedInstance")
    pure ⟨placeholder, ⟨placeholder, none⟩, none, none, none, true, r.provenance node path⟩
  | some entries =>
    r.checkKeys entries .namedInstance path
    let name ← r.required node path "namedInstanceName" .namedInstance (some .simple)
    let classRef ← r.requiredReference node path "qualifiedClassName" .namedInstance .classType
    let interfaceRef ← r.optionalReference node path "qualifiedInterfaceName" .interfaceType
    let assignments ← r.readEntries node path "assignments" r.readAssignment
    let elements ← r.readEntries node path "elements" r.readElement
    pure ⟨name, classRef, interfaceRef, assignments, elements, false, r.provenance node path⟩

/-! ## Documents -/

/-- The declarations under a root that is a mapping. -/
def readRoot (root : Node) (entries : List (String × Node)) : Report Model := do
  r.checkKeys entries .document LogicalPath.root
  let codeGen ← r.readCodeGen root
  let namespaces ← r.readListing root LogicalPath.root "namespaces" r.readNamespace
  let namedInstances ← r.readListing root LogicalPath.root "namedInstances" r.readNamedInstance
  pure ⟨r.source, codeGen, namespaces, namedInstances, r.provenance root LogicalPath.root⟩

/-- The declarations of a document, or the one note on a root that cannot hold any. -/
def readDocument (root : Node) : Except Note (Report Model) :=
  let origin := r.origin root LogicalPath.root
  match root.entries? with
  | none => .error ⟨.rootNotMapping (some root.shape), origin⟩
  | some [] => .error ⟨.emptyDocument, origin⟩
  | some (e :: es) => .ok (r.readRoot root (e :: es))

end Reading

end DependencyWiring.Declared
