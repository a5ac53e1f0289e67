import DependencyWiring.Proofs.SoundDeclarations
import Mathlib.Tactic.MkIffOfInductiveProp

/-!
# The grammar of declarations

What a document must look like to be read without an error, said of the tree alone: which keys each
mapping may have, which of them it must have, and what each of them may hold. The grammar does not
mention the readers. It is proved that they note no error exactly when a document is of the grammar,
one lemma for each kind of mapping.
-/
namespace DependencyWiring

/-! ## What a key holds -/

/-- A text that stands for no value. -/
def Text.IsNull (text : String) : Prop :=
  Text.trim text = "" ∨ Text.trim text = "~" ∨ Text.trim text = "null"

namespace Node

/-- The key is not there, or it holds a null. -/
def Omits (n : Node) (key : String) : Prop :=
  ∀ value, n.get? key = some value → ∃ text, value.text? = some text ∧ Text.IsNull text

/-- The key holds a text that is no null and has the property. -/
def Gives (n : Node) (key : String) (P : String → Prop) : Prop :=
  ∃ value text, n.get? key = some value ∧ value.text? = some text ∧ ¬Text.IsNull text ∧ P text

/-- The key is left out or holds a text with the property. -/
def MayGive (n : Node) (key : String) (P : String → Prop) : Prop :=
  n.Omits key ∨ n.Gives key P

/-- The key holds a sequence of nodes with the property. -/
def Lists (n : Node) (key : String) (Q : Node → Prop) : Prop :=
  ∃ value items, n.get? key = some value ∧ value.items? = some items ∧ ∀ item ∈ items, Q item

/-- The key is left out or holds a sequence of nodes with the property. -/
def MayList (n : Node) (key : String) (Q : Node → Prop) : Prop :=
  n.Omits key ∨ n.Lists key Q

/-- The node is a mapping that has keys of its kind only. -/
def Declares (n : Node) (kind : Declaration) : Prop :=
  ∃ entries, n.entries? = some entries ∧ ∀ entry ∈ entries, entry.1 ∈ kind.keys

end Node

/-! ## The grammar -/

namespace Grammar

/-- The text is the token of a type with the property. -/
def IsTokenOf (P : TypeRef → Prop) (text : String) : Prop :=
  ∃ t, TypeRef.parse text = .ok t ∧ P t

/-- What each role refers to: a class has a primitive or a qualified type, an interface a qualified
type that is not primitive, and an interface that a class exposes bears no mark. -/
def Suits : ReferenceRole → TypeRef → Prop
  | .classType, t => t.isPrimitive = true ∨ Name.isQualified t.base = true
  | .interfaceType, t => t.isPrimitive = false ∧ Name.isQualified t.base = true
  | .bareInterface, t =>
    t = .named t.base ∧ t.isPrimitive = false ∧ Name.isQualified t.base = true

@[mk_iff]
structure IsCodeGen (n : Node) : Prop where
  keys : n.Declares .codeGen
  registryClassName : n.Gives "registryClassName" (Name.isSimple ·)
  generatedCodePath : n.Gives "generatedCodePath" fun _ => True
  namespaceName : n.Gives "namespaceName" (Name.isSimpleOrQualified ·)
  initializerName : n.Gives "initializerName" (Name.isSimple ·)
  packageReferences : n.MayList "packageReferences" fun item =>
    ∃ text, item.text? = some text ∧ ¬Text.IsNull text

@[mk_iff]
structure IsInterface (n : Node) : Prop where
  keys : n.Declares .interfaceType
  name : n.Gives "interfaceName" (Name.isSimple ·)

/-- A parameter that names no interface may name a primitive class only. -/
@[mk_iff]
structure IsParameter (n : Node) : Prop where
  keys : n.Declares .parameter
  name : n.Gives "name" (Name.isSimple ·)
  classRef : n.MayGive "qualifiedClassName" (IsTokenOf (Suits .classType))
  interfaceRef : n.MayGive "qualifiedInterfaceName" (IsTokenOf (Suits .interfaceType))
  primitive : n.Omits "qualifiedInterfaceName" →
    n.MayGive "qualifiedClassName" (IsTokenOf (·.isPrimitive))

/-- The list of parameters must be there, though it may be empty. -/
@[mk_iff]
structure IsClass (n : Node) : Prop where
  keys : n.Declares .classType
  name : n.Gives "className" (Name.isSimple ·)
  interfaceRef : n.MayGive "qualifiedInterfaceName" (IsTokenOf (Suits .bareInterface))
  parameters : n.Lists "initializerParameters" IsParameter

@[mk_iff]
structure IsNamespace (n : Node) : Prop where
  keys : n.Declares .namespaceBlock
  name : n.Gives "namespaceName" (Name.isSimpleOrQualified ·)
  interfaces : n.MayList "interfaces" IsInterface
  classes : n.MayList "classes" IsClass

@[mk_iff]
structure IsAssignment (n : Node) : Prop where
  keys : n.Declares .assignment
  parameterName : n.Gives "parameterName" (Name.isSimple ·)
  value : n.MayGive "assignmentValue" fun _ => True
  instanceRef : n.MayGive "namedInstanceName" (Name.isSimple ·)

@[mk_iff]
structure IsElement (n : Node) : Prop where
  keys : n.Declares .element
  value : n.MayGive "assignmentValue" fun _ => True
  instanceRef : n.MayGive "namedInstanceName" (Name.isSimple ·)

@[mk_iff]
structure IsNamedInstance (n : Node) : Prop where
  keys : n.Declares .namedInstance
  name : n.Gives "namedInstanceName" (Name.isSimple ·)
  classRef : n.Gives "qualifiedClassName" (IsTokenOf (Suits .classType))
  interfaceRef : n.MayGive "qualifiedInterfaceName" (IsTokenOf (Suits .interfaceType))
  assignments : n.MayList "assignments" IsAssignment
  elements : n.MayList "elements" IsElement

@[mk_iff]
structure IsDocument (n : Node) : Prop where
  keys : n.Declares .document
  codeGen : ∃ value, n.get? "codeGen" = some value ∧ IsCodeGen value
  namespaces : n.MayList "namespaces" IsNamespace
  namedInstances : n.MayList "namedInstances" IsNamedInstance

end Grammar

namespace Declared

theorem isNull_iff {text : String} : isNull text = true ↔ Text.IsNull text := by
  simp only [isNull, Text.IsNull, Text.trim, Bool.or_eq_true, decide_eq_true_eq,
    ← String.toList_inj, String.toList_ofList]
  rw [or_assoc]
  rfl

namespace Reading

open Report Grammar

variable (r : Reading)

/-! ## Keys and scalars -/

theorem isClean_checkKeys (entries : List (String × Node)) (kind : Declaration) (path : String) :
    (r.checkKeys entries kind path).IsClean ↔ ∀ entry ∈ entries, entry.1 ∈ kind.keys := by
  simp [checkKeys]

theorem isClean_authored (value : String) (origin : Origin) (key : String)
    (form : Option NameForm) :
    (authored value origin key form).IsClean ↔ ∀ f ∈ form, hasForm f value = true := by
  cases form with
  | none => simp [authored]
  | some f =>
    by_cases hform : hasForm f value = true
    · simp [authored, hform]
    · simp [authored, hform, -Finding.isError, Finding.isError_invalidName]

theorem isClean_required (n : Node) (path key : String) (kind : Declaration)
    (form : Option NameForm) : (r.required n path key kind form).IsClean ↔
      n.Gives key fun text => ∀ f ∈ form, hasForm f text = true := by
  unfold required Node.Gives
  cases hn : n.get? key with
  | none => simp
  | some value =>
    cases ht : value.text? with
    | none => simp [ht]
    | some text =>
      by_cases hnull : Text.IsNull text
      · simp [ht, hnull, isNull_iff.mpr hnull]
      · simp [ht, hnull, isNull_iff, isClean_authored]

theorem isClean_optional (n : Node) (path key : String) (form : Option NameForm) :
    (r.optional n path key form).IsClean ↔
      n.MayGive key fun text => ∀ f ∈ form, hasForm f text = true := by
  unfold optional Node.MayGive Node.Omits Node.Gives
  cases hn : n.get? key with
  | none => simp
  | some value =>
    cases ht : value.text? with
    | none => simp [ht]
    | some text =>
      by_cases hnull : Text.IsNull text
      · simp [ht, hnull, isNull_iff.mpr hnull]
      · simp [ht, hnull, isNull_iff, isClean_authored]

section

variable {n value : Node} {key text : String}

theorem required_of_text (hn : n.get? key = some value) (ht : value.text? = some text)
    (hnull : ¬Text.IsNull text) (path : String) (kind : Declaration) (form : Option NameForm) :
    r.required n path key kind form =
      authored text (r.origin value (LogicalPath.key path key)) key form := by
  simp [required, hn, ht, isNull_iff, hnull]

theorem optional_of_text (hn : n.get? key = some value) (ht : value.text? = some text)
    (hnull : ¬Text.IsNull text) (path : String) (form : Option NameForm) :
    r.optional n path key form =
      (authored text (r.origin value (LogicalPath.key path key)) key form >>= fun field =>
        pure (some field)) := by
  simp [optional, hn, ht, isNull_iff, hnull]

theorem optional_of_omits (h : n.Omits key) (path : String) (form : Option NameForm) :
    r.optional n path key form = pure none := by
  unfold optional
  cases hn : n.get? key with
  | none => rfl
  | some value =>
    obtain ⟨text, ht, hnull⟩ := h value hn
    simp [ht, isNull_iff.mpr hnull]

end

/-! ## References -/

theorem fitsRole_iff (t : TypeRef) (role : ReferenceRole) :
    fitsRole t role = true ↔ Suits role t := by
  cases role with
  | classType => simp [fitsRole, Suits]
  | interfaceType => simp [fitsRole, Suits]
  | bareInterface =>
    obtain ⟨base, isArray, container, element⟩ := t
    simp [fitsRole, Suits, TypeRef.hasModifiers, TypeRef.named, and_assoc]

theorem isClean_reference {text : Field} (h : text.isValid = true) (key : String)
    (role : ReferenceRole) : (reference text key role).IsClean ↔
      IsTokenOf (Suits role) text.value := by
  simp only [reference, h, if_true, IsTokenOf]
  cases TypeRef.parse text.value with
  | error cause => simp [-Finding.isError, Finding.isError_invalidToken]
  | ok t =>
    by_cases hrole : Suits role t
    · simp [fitsRole_iff, hrole]
    · simp [fitsRole_iff, hrole]

theorem isClean_requiredReference (n : Node) (path key : String) (kind : Declaration)
    (role : ReferenceRole) : (r.requiredReference n path key kind role).IsClean ↔
      n.Gives key (IsTokenOf (Suits role)) := by
  simp only [requiredReference, isClean_bind, isClean_required]
  constructor
  · rintro ⟨⟨value, text, hn, ht, hnull, -⟩, htoken⟩
    rw [r.required_of_text hn ht hnull, authored, value_pure, isClean_reference rfl] at htoken
    exact ⟨value, text, hn, ht, hnull, htoken⟩
  · rintro ⟨value, text, hn, ht, hnull, htoken⟩
    refine ⟨⟨value, text, hn, ht, hnull, by simp⟩, ?_⟩
    rw [r.required_of_text hn ht hnull, authored, value_pure, isClean_reference rfl]
    exact htoken

/-- What an optional reference is read as in a reading without errors. -/
theorem optionalReference_cases {n : Node} {path key : String} {role : ReferenceRole}
    (h : (r.optionalReference n path key role).IsClean) :
    (n.Omits key ∧ (r.optionalReference n path key role).value = none) ∨
    ∃ value text t, n.get? key = some value ∧ value.text? = some text ∧ ¬Text.IsNull text ∧
      TypeRef.parse text = .ok t ∧ Suits role t ∧
      (r.optionalReference n path key role).value =
        some ⟨⟨text, r.origin value (LogicalPath.key path key), .valid⟩, some t⟩ := by
  simp only [optionalReference, isClean_bind, value_bind, isClean_optional] at h ⊢
  obtain ⟨homits | ⟨value, text, hn, ht, hnull, -⟩, htoken⟩ := h
  · exact .inl ⟨homits, by rw [r.optional_of_omits homits]; rfl⟩
  · simp only [r.optional_of_text hn ht hnull, authored, value_bind, value_pure,
      isClean_bind, isClean_pure, and_true] at htoken ⊢
    obtain ⟨t, hparse, hrole⟩ := (isClean_reference rfl key role).mp htoken
    refine .inr ⟨value, text, t, hn, ht, hnull, hparse, hrole, ?_⟩
    simp [reference, Field.isValid, hparse, fitsRole_iff, hrole]

theorem isClean_optionalReference (n : Node) (path key : String) (role : ReferenceRole) :
    (r.optionalReference n path key role).IsClean ↔
      n.MayGive key (IsTokenOf (Suits role)) := by
  constructor
  · intro h
    rcases r.optionalReference_cases h with ⟨homits, -⟩ | ⟨value, text, t, hn, ht, hnull, hp, hr, -⟩
    · exact .inl homits
    · exact .inr ⟨value, text, hn, ht, hnull, t, hp, hr⟩
  · rintro (homits | ⟨value, text, hn, ht, hnull, htoken⟩)
    · simp [optionalReference, r.optional_of_omits homits]
    · simp only [optionalReference, r.optional_of_text hn ht hnull, authored, value_bind,
        value_pure, isClean_bind, isClean_pure, and_true, true_and]
      exact (isClean_reference rfl key role).mpr htoken

/-! ## Sequences -/

theorem isClean_listing (n : Node) (path key : String) :
    (r.listing n path key).IsClean ↔ n.MayList key fun _ => True := by
  unfold listing Node.MayList Node.Omits Node.Lists
  cases hn : n.get? key with
  | none => simp
  | some value =>
    cases value with
    | mapping entries position => simp [Node.text?, Node.items?]
    | sequence items position => simp [Node.items?]
    | scalar text position =>
      by_cases hnull : Text.IsNull text
      · simp [Node.text?, hnull, isNull_iff.mpr hnull]
      · simp [Node.text?, Node.items?, hnull, isNull_iff]

theorem listing_of_omits {n : Node} {key : String} (h : n.Omits key) (path : String) :
    r.listing n path key = pure .absent := by
  unfold listing
  cases hn : n.get? key with
  | none => rfl
  | some value =>
    obtain ⟨text, ht, hnull⟩ := h value hn
    cases value with
    | mapping => simp [Node.text?] at ht
    | sequence => simp [Node.text?] at ht
    | scalar =>
      obtain rfl := Option.some.inj ht
      simp [isNull_iff.mpr hnull]

theorem listing_of_items {n value : Node} {key : String} {items : List Node}
    (hn : n.get? key = some value) (hi : value.items? = some items) (path : String) :
    r.listing n path key = pure (.items items value) := by
  cases value with
  | mapping => simp [Node.items?] at hi
  | sequence =>
    obtain rfl := Option.some.inj hi
    simp [listing, hn]
  | scalar => simp [Node.items?] at hi

/-- A sequence is accepted with its items, and nothing at all where no sequence is given. -/
theorem isClean_listing_items (n : Node) (path key : String) (Q : Node → Prop) :
    ((r.listing n path key).IsClean ∧ ∀ item ∈ (r.listing n path key).value.nodes, Q item) ↔
      n.MayList key Q := by
  rw [isClean_listing]
  constructor
  · rintro ⟨homits | ⟨value, items, hn, hi, -⟩, hitems⟩
    · exact .inl homits
    · rw [r.listing_of_items hn hi] at hitems
      exact .inr ⟨value, items, hn, hi, hitems⟩
  · rintro (homits | ⟨value, items, hn, hi, hitems⟩)
    · refine ⟨.inl homits, ?_⟩
      rw [r.listing_of_omits homits]
      simp [Listing.nodes]
    · refine ⟨.inr ⟨value, items, hn, hi, by simp⟩, ?_⟩
      rw [r.listing_of_items hn hi]
      exact hitems

section

variable {α : Type} {Q : Node → Prop} {read : Node → String → Report α}
  (hread : ∀ item path, (read item path).IsClean ↔ Q item)

include hread

theorem isClean_readItems (path key : String) (items : List Node) :
    (readItems path key items read).IsClean ↔ ∀ item ∈ items, Q item := by
  simp only [readItems, isClean_forEachIndexed, hread]
  rw [← List.forall_mem_map (f := Prod.fst), List.zipIdx_map_fst]

theorem isClean_readListing (n : Node) (path key : String) :
    (r.readListing n path key read).IsClean ↔ n.MayList key Q := by
  simp only [readListing, isClean_bind, isClean_readItems hread]
  exact r.isClean_listing_items n path key Q

theorem isClean_readEntries (n : Node) (path key : String) :
    (r.readEntries n path key read).IsClean ↔ n.MayList key Q := by
  rw [← r.isClean_listing_items n path key Q]
  simp only [readEntries, isClean_bind]
  cases (r.listing n path key).value with
  | absent => simp [Listing.nodes]
  | invalid => simp [Listing.nodes]
  | items nodes holder => simp [Listing.nodes, isClean_readItems hread]

end

theorem isClean_readPackages (path : String) (seen : List String) (start : Nat)
    (items : List Node) : (r.readPackages path seen start items).IsClean ↔
      ∀ item ∈ items, ∃ text, item.text? = some text ∧ ¬Text.IsNull text := by
  induction items generalizing seen start with
  | nil => simp [readPackages]
  | cons item items ih =>
    simp only [readPackages, List.forall_mem_cons]
    cases ht : item.text? with
    | none => simp
    | some text =>
      by_cases hnull : Text.IsNull text
      · simp [hnull, isNull_iff.mpr hnull]
      · simp [hnull, isNull_iff, ih]

/-! ## Declarations -/

/-- A mapping is read by a reader of its kind; anything else is no declaration. -/
theorem declares_iff {n : Node} {entries : List (String × Node)} (he : n.entries? = some entries)
    (kind : Declaration) (path : String) :
    n.Declares kind ↔ (r.checkKeys entries kind path).IsClean := by
  simp [Node.Declares, he, isClean_checkKeys]

theorem not_declares {n : Node} (he : n.entries? = none) (kind : Declaration) :
    ¬n.Declares kind := by
  simp [Node.Declares, he]

theorem isClean_readInterface (n : Node) (path : String) :
    (r.readInterface n path).IsClean ↔ IsInterface n := by
  rw [isInterface_iff, readInterface]
  cases he : n.entries? with
  | none => simp [noteInvalid, not_declares he]
  | some entries =>
    simp [r.declares_iff he _ path, isClean_required, hasForm]

theorem isClean_checkConcrete (name text : Field) (t : TypeRef) (interfaceRef : Option Reference)
    (h : text.isValid = true) :
    (checkConcrete name (some ⟨text, some t⟩) interfaceRef).IsClean ↔
      (interfaceRef = none → t.isPrimitive = true) := by
  cases interfaceRef with
  | some _ => simp [checkConcrete]
  | none =>
    cases hp : t.isPrimitive with
    | true => simp [checkConcrete, hp]
    | false => simp [checkConcrete, h, hp]

/-- A parameter with a class only is accepted when the class is primitive. -/
theorem isClean_concrete {n : Node} {path : String} (name : Field)
    (hclass : (r.optionalReference n path "qualifiedClassName" .classType).IsClean)
    (hinterface : (r.optionalReference n path "qualifiedInterfaceName" .interfaceType).IsClean) :
    (checkConcrete name (r.optionalReference n path "qualifiedClassName" .classType).value
      (r.optionalReference n path "qualifiedInterfaceName" .interfaceType).value).IsClean ↔
    (n.Omits "qualifiedInterfaceName" →
      n.MayGive "qualifiedClassName" (IsTokenOf (·.isPrimitive))) := by
  have hnone : (r.optionalReference n path "qualifiedInterfaceName" .interfaceType).value = none ↔
      n.Omits "qualifiedInterfaceName" := by
    rcases r.optionalReference_cases hinterface with ⟨homits, hvalue⟩ |
      ⟨value, text, t, hn, ht, hnull, -, -, hvalue⟩
    · simp [homits, hvalue]
    · simp [Node.Omits, hn, ht, hnull, hvalue]
  rcases r.optionalReference_cases hclass with ⟨homits, hvalue⟩ |
    ⟨value, text, t, hn, ht, hnull, hparse, -, hvalue⟩
  · simp [hvalue, checkConcrete, Node.MayGive, homits]
  · rw [hvalue, isClean_checkConcrete _ _ _ _ rfl, hnone]
    simp [Node.MayGive, Node.Omits, Node.Gives, IsTokenOf, hn, ht, hnull, hparse]

theorem isClean_readParameter (n : Node) (path : String) :
    (r.readParameter n path).IsClean ↔ IsParameter n := by
  rw [isParameter_iff, readParameter]
  cases he : n.entries? with
  | none => simp [noteInvalid, not_declares he]
  | some entries =>
    simp only [isClean_bind, isClean_pure, and_true, ← r.declares_iff he .parameter path]
    refine and_congr_right fun _ => and_congr ?_ ?_
    · simp [isClean_required, hasForm]
    · simp only [← r.isClean_optionalReference n path]
      exact and_congr_right fun hclass => and_congr_right fun hinterface =>
        r.isClean_concrete _ hclass hinterface

theorem isClean_readParameters (n : Node) (path : String) :
    (r.readParameters n path).IsClean ↔ n.Lists "initializerParameters" IsParameter := by
  simp only [readParameters, isClean_bind, isClean_listing]
  constructor
  · rintro ⟨homits | ⟨value, items, hn, hi, -⟩, hrest⟩
    · simp [r.listing_of_omits homits] at hrest
    · simp only [r.listing_of_items hn hi, value_pure, isClean_bind,
        isClean_readItems r.isClean_readParameter] at hrest
      exact ⟨value, items, hn, hi, hrest.1⟩
  · rintro ⟨value, items, hn, hi, hitems⟩
    refine ⟨.inr ⟨value, items, hn, hi, by simp⟩, ?_⟩
    simp only [r.listing_of_items hn hi, value_pure, isClean_bind,
      isClean_readItems r.isClean_readParameter]
    exact ⟨hitems, isClean_pure _⟩

theorem isClean_readClass (n : Node) (path : String) :
    (r.readClass n path).IsClean ↔ IsClass n := by
  rw [isClass_iff, readClass]
  cases he : n.entries? with
  | none => simp [noteInvalid, not_declares he]
  | some entries =>
    simp [r.declares_iff he _ path, isClean_required, hasForm, isClean_optionalReference,
      isClean_readParameters]

theorem isClean_readNamespace (n : Node) (path : String) :
    (r.readNamespace n path).IsClean ↔ IsNamespace n := by
  rw [isNamespace_iff, readNamespace]
  cases he : n.entries? with
  | none => simp [noteInvalid, not_declares he]
  | some entries =>
    simp [r.declares_iff he _ path, isClean_required, hasForm,
      r.isClean_readListing r.isClean_readInterface, r.isClean_readListing r.isClean_readClass]

theorem isClean_readAssignment (n : Node) (path : String) :
    (r.readAssignment n path).IsClean ↔ IsAssignment n := by
  rw [isAssignment_iff, readAssignment]
  cases he : n.entries? with
  | none => simp [noteInvalid, not_declares he]
  | some entries =>
    simp [r.declares_iff he _ path, isClean_required, isClean_optional, hasForm]

theorem isClean_readElement (n : Node) (path : String) :
    (r.readElement n path).IsClean ↔ IsElement n := by
  rw [isElement_iff, readElement]
  cases he : n.entries? with
  | none => simp [noteInvalid, not_declares he]
  | some entries =>
    simp [r.declares_iff he _ path, isClean_optional, hasForm]

theorem isClean_readNamedInstance (n : Node) (path : String) :
    (r.readNamedInstance n path).IsClean ↔ IsNamedInstance n := by
  rw [isNamedInstance_iff, readNamedInstance]
  cases he : n.entries? with
  | none => simp [noteInvalid, not_declares he]
  | some entries =>
    simp [r.declares_iff he _ path, isClean_required, hasForm, isClean_requiredReference,
      isClean_optionalReference,
      r.isClean_readEntries r.isClean_readAssignment, r.isClean_readEntries r.isClean_readElement]

theorem isClean_readCodeGen (root : Node) : (r.readCodeGen root).IsClean ↔
    ∃ value, root.get? "codeGen" = some value ∧ IsCodeGen value := by
  unfold readCodeGen
  cases hn : root.get? "codeGen" with
  | none => simp
  | some n =>
    simp only [Option.some.injEq, exists_eq_left', isCodeGen_iff]
    cases he : n.entries? with
    | none => simp [noteInvalid, not_declares he]
    | some entries =>
      have hpackages := r.isClean_listing_items n (LogicalPath.key LogicalPath.root "codeGen")
        "packageReferences" fun item => ∃ text, item.text? = some text ∧ ¬Text.IsNull text
      simp [r.declares_iff he _ (LogicalPath.key LogicalPath.root "codeGen"), isClean_required,
        hasForm, isClean_readPackages, ← hpackages]

theorem isClean_readRoot {root : Node} {entries : List (String × Node)}
    (he : root.entries? = some entries) :
    (r.readRoot root entries).IsClean ↔ IsDocument root := by
  simp [isDocument_iff, readRoot, r.declares_iff he _ LogicalPath.root, isClean_readCodeGen,
    r.isClean_readListing r.isClean_readNamespace,
    r.isClean_readListing r.isClean_readNamedInstance]

/-- A root that is a mapping with some entry is read without an error exactly when it is a document
of the grammar. -/
theorem readDocument_accepts_iff (entry : String × Node) (entries : List (String × Node))
    (position : Position) :
    ∃ declared, r.readDocument (.mapping (entry :: entries) position) = .ok declared ∧
      (Diagnostic.hasErrors (declared.notes.map Note.diagnostic) = false ↔
        IsDocument (.mapping (entry :: entries) position)) := by
  refine ⟨_, rfl, ?_⟩
  rw [Note.hasErrors_diagnostics]
  exact r.isClean_readRoot rfl

end Reading

end Declared

end DependencyWiring
