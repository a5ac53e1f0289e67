import DependencyWiring.Model.Compilation
import DependencyWiring.Proofs.IndexLookup
import DependencyWiring.Proofs.SoundDeclarations

/-!
# Phases of notes

A document is read, its model is built, and the model is checked in six ways. Each of these phases
makes findings of its own, and all codes but those of names belong to one phase. So whatever is to
be known of the diagnostics of a code can be learned from the notes of its phase alone.
-/
namespace DependencyWiring

/-- A phase of a compilation. -/
inductive Phase where
  | reading
  | building
  | typeCollisions
  | instanceCollisions
  | invokerKeys
  | resolution
  | ordering
  | wiring
  deriving DecidableEq, Repr

/-- The phases in the order in which they are run. -/
def Phase.all : List Phase :=
  [reading, building, typeCollisions, instanceCollisions, invokerKeys, resolution, ordering, wiring]

namespace Finding

/-- The phase that makes a finding. -/
def phase : Finding → Phase
  | illFormedName .. | emptyNamespace _ | interfaceNaming _ | classNaming _ | duplicateParameter ..
  | parameterBothTypes _ | parameterWithoutType _ | bothValueAndReference _
  | neitherValueNorReference _ | bothLists _ | elementsOfNonArray .. => .building
  | duplicateType .. => .typeCollisions
  | duplicateInstance .. => .instanceCollisions
  | sharedInvokerKey .. | invalidInvokerKey .. => .invokerKeys
  | undeclaredExposedInterface .. | undeclaredClass .. | undeclaredInterface ..
  | interfaceMismatch .. => .resolution
  | missingInstance .. | laterInstance .. => .ordering
  | unknownParameter .. | repeatedAssignment .. | unassignedParameter .. | literalForInterface ..
  | parameterNotExposed .. | elementNotExposed .. => .wiring
  | _ => .reading

end Finding

/-- The phase that a code is given in, the first one if there are two. -/
def Code.phase : Code → Phase
  | classNamingConvention | interfaceNamingConvention | emptyNamespace
  | parameterBothClassAndInterface | parameterMissingType | duplicateParameterName
  | assignmentBothValueAndReference | assignmentMissingValue | elementBothValueAndReference
  | elementMissingValue | namedInstanceBothAssignmentsAndElements
  | elementsRequireArrayType => .building
  | duplicateTypeIdentifier => .typeCollisions
  | duplicateNamedInstance => .instanceCollisions
  | duplicateInvokerKey | invalidInvokerKey => .invokerKeys
  | unresolvedClass | unresolvedInterface | interfaceMismatch => .resolution
  | dependencyOrderViolation | namedInstanceMissing => .ordering
  | namedInstanceNotExposingInterface | literalForInterfaceParameter
  | unknownInitializerParameter | duplicateAssignment | unassignedParameter => .wiring
  | _ => .reading

/-- The form of a name is looked at twice under the same codes. Every other code tells the phase. -/
theorem Finding.phase_of_code {f : Finding} (h : f.code.phase ≠ .reading) :
    f.phase = f.code.phase := by
  have hname : ∀ value form, (nameCode value form).phase = .reading := by
    intro value form
    cases form with
    | simple => rfl
    | simpleOrQualified =>
      dsimp only [nameCode]
      split <;> rfl
  cases f with
  | invalidName value form key => exact absurd (hname value form) h
  | illFormedName value form => exact absurd (hname value form) h
  | invalidToken key cause => cases cause <;> rfl
  | bothValueAndReference site => cases site <;> rfl
  | neitherValueNorReference site => cases site <;> rfl
  | _ => rfl

/-! ## Notes of one phase -/

namespace Note

variable {α : Type} {p : Phase}

/-- All notes are made in the phase. -/
def AllIn (notes : List Note) (p : Phase) : Prop :=
  ∀ n ∈ notes, n.finding.phase = p

@[simp] theorem allIn_nil : AllIn [] p := by
  simp [AllIn]

@[simp] theorem allIn_cons (n : Note) (notes : List Note) :
    AllIn (n :: notes) p ↔ n.finding.phase = p ∧ AllIn notes p := by
  simp [AllIn]

@[simp] theorem allIn_append (as bs : List Note) :
    AllIn (as ++ bs) p ↔ AllIn as p ∧ AllIn bs p := by
  simp only [AllIn, List.forall_mem_append]

theorem AllIn.flatMap {f : α → List Note} {as : List α} (h : ∀ a ∈ as, AllIn (f a) p) :
    AllIn (as.flatMap f) p := by
  intro n hn
  obtain ⟨a, ha, hmem⟩ := List.mem_flatMap.mp hn
  exact h a ha n hmem

theorem AllIn.filterMap {f : α → Option Note} {as : List α}
    (h : ∀ a ∈ as, ∀ n ∈ f a, n.finding.phase = p) : AllIn (as.filterMap f) p := by
  intro n hn
  obtain ⟨a, ha, hmem⟩ := List.mem_filterMap.mp hn
  exact h a ha n hmem

/-- A code of another phase than that of the notes is not among theirs. -/
theorem AllIn.code_ne {notes : List Note} (h : AllIn notes p) {c : Code} (hc : c.phase ≠ .reading)
    (hp : c.phase ≠ p) : ∀ n ∈ notes, n.code ≠ c := by
  rintro n hn rfl
  exact hp ((Finding.phase_of_code hc).symm.trans (h n hn))

end Note

namespace Diagnostic

/-- The diagnostics of the code are those on the notes, in the same order. -/
def AreOn (ds : List Diagnostic) (notes : List Note) (c : Code) : Prop :=
  ds.filter (·.code = c) = (notes.map Note.diagnostic).filter (·.code = c)

theorem AreOn.exists_note {ds : List Diagnostic} {notes : List Note} {c : Code}
    (h : AreOn ds notes c) {d : Diagnostic} (hd : d ∈ ds) (hc : d.code = c) :
    ∃ n ∈ notes, d = n.diagnostic := by
  have hmem : d ∈ (notes.map Note.diagnostic).filter (·.code = c) := by
    rw [← h]
    exact List.mem_filter.mpr ⟨hd, by simp [hc]⟩
  obtain ⟨n, hn, hsame⟩ := List.mem_map.mp (List.mem_filter.mp hmem).1
  exact ⟨n, hn, hsame.symm⟩

end Diagnostic

namespace Report

variable {α β : Type} {p : Phase}

/-- All notes on the report are made in the phase. -/
def NotesIn (r : Report α) (p : Phase) : Prop :=
  Note.AllIn r.notes p

@[simp] theorem notesIn_pure (a : α) : (pure a : Report α).NotesIn p :=
  Note.allIn_nil

@[simp] theorem notesIn_bind (r : Report α) (f : α → Report β) :
    (r >>= f).NotesIn p ↔ r.NotesIn p ∧ (f r.value).NotesIn p :=
  Note.allIn_append _ _

@[simp] theorem notesIn_note (finding : Finding) (origin : Origin) :
    (note finding origin).NotesIn p ↔ finding.phase = p := by
  simp [NotesIn]

@[simp] theorem notesIn_noteIf (condition : Bool) (finding : Finding) (origin : Origin) :
    (noteIf condition finding origin).NotesIn p ↔ (condition = true → finding.phase = p) := by
  cases condition <;> simp [noteIf]

theorem NotesIn.forEach {f : α → Report β} {as : List α} (h : ∀ a, (f a).NotesIn p) :
    (Report.forEach f as).NotesIn p := by
  rw [NotesIn, notes_forEach]
  exact .flatMap fun a _ => h a

theorem NotesIn.forEachIndexed {f : Nat → α → Report β} {as : List α}
    (h : ∀ i a, (f i a).NotesIn p) : (Report.forEachIndexed f as).NotesIn p := by
  rw [NotesIn, Report.forEachIndexed, notes_forEachFrom]
  exact .flatMap fun a _ => h a.2 a.1

end Report

attribute [simp] Finding.phase

/-! ## Reading -/

namespace Declared.Reading

open Report

variable (r : Reading)

@[simp] theorem notesIn_checkKeys (entries : List (String × Node)) (kind : Declaration)
    (path : String) : (r.checkKeys entries kind path).NotesIn .reading := by
  unfold checkKeys
  apply (notesIn_bind _ _).mpr ⟨.forEach _, notesIn_pure _⟩
  intro entry
  simp

@[simp] theorem notesIn_noteInvalid (node : Node) (path : String) (kind : Declaration) :
    (r.noteInvalid node path kind).NotesIn .reading := by
  simp [noteInvalid]

@[simp] theorem notesIn_authored (value : String) (origin : Origin) (key : String)
    (form : Option NameForm) : (authored value origin key form).NotesIn .reading := by
  unfold authored
  cases form with
  | none => simp
  | some form => cases hform : hasForm form value <;> simp [hform]

@[simp] theorem notesIn_required (parent : Node) (path key : String) (kind : Declaration)
    (form : Option NameForm) : (r.required parent path key kind form).NotesIn .reading := by
  unfold required
  cases parent.get? key with
  | none => simp
  | some node =>
    cases htext : node.text? with
    | none => simp [htext]
    | some text => by_cases hnull : isNull text = true <;> simp [htext, hnull]

@[simp] theorem notesIn_optional (parent : Node) (path key : String) (form : Option NameForm) :
    (r.optional parent path key form).NotesIn .reading := by
  unfold optional
  cases parent.get? key with
  | none => simp
  | some node =>
    cases htext : node.text? with
    | none => simp [htext]
    | some text => by_cases hnull : isNull text = true <;> simp [htext, hnull]

@[simp] theorem notesIn_reference (text : Field) (key : String) (role : ReferenceRole) :
    (reference text key role).NotesIn .reading := by
  unfold reference
  split
  · split
    · simp
    · split <;> simp
  · simp

@[simp] theorem notesIn_requiredReference (parent : Node) (path key : String) (kind : Declaration)
    (role : ReferenceRole) :
    (r.requiredReference parent path key kind role).NotesIn .reading := by
  simp [requiredReference]

@[simp] theorem notesIn_optionalReference (parent : Node) (path key : String)
    (role : ReferenceRole) : (r.optionalReference parent path key role).NotesIn .reading := by
  rw [optionalReference, notesIn_bind]
  constructor
  · simp
  · split <;> simp

@[simp] theorem notesIn_listing (parent : Node) (path key : String) :
    (r.listing parent path key).NotesIn .reading := by
  unfold listing
  split
  · simp
  · simp
  · split <;> simp
  · simp

theorem notesIn_readItems {α : Type} {path key : String} {items : List Node}
    {read : Node → String → Report α} (h : ∀ n p, (read n p).NotesIn .reading) :
    (readItems path key items read).NotesIn .reading :=
  .forEachIndexed fun _ _ => h _ _

theorem notesIn_readListing {α : Type} {parent : Node} {path key : String}
    {read : Node → String → Report α} (h : ∀ n p, (read n p).NotesIn .reading) :
    (r.readListing parent path key read).NotesIn .reading := by
  simp [readListing, notesIn_readItems h]

theorem notesIn_readEntries {α : Type} {node : Node} {path key : String}
    {read : Node → String → Report α} (h : ∀ n p, (read n p).NotesIn .reading) :
    (r.readEntries node path key read).NotesIn .reading := by
  rw [readEntries, notesIn_bind]
  constructor
  · simp
  · split
    · simp [notesIn_readItems h]
    · simp

theorem notesIn_readPackages (path : String) (seen : List String) (start : Nat)
    (nodes : List Node) : (r.readPackages path seen start nodes).NotesIn .reading := by
  induction nodes generalizing seen start with
  | nil => simp [readPackages]
  | cons node nodes ih =>
    unfold readPackages
    dsimp only
    split
    · simp [ih]
    · split <;> simp [ih]

@[simp] theorem notesIn_readCodeGen (root : Node) : (r.readCodeGen root).NotesIn .reading := by
  unfold readCodeGen
  dsimp only
  split
  · simp
  · split <;> simp [notesIn_readPackages]

@[simp] theorem notesIn_readInterface (node : Node) (path : String) :
    (r.readInterface node path).NotesIn .reading := by
  unfold readInterface
  split <;> simp

@[simp] theorem notesIn_checkConcrete (name : Field) (classRef interfaceRef : Option Reference) :
    (checkConcrete name classRef interfaceRef).NotesIn .reading := by
  unfold checkConcrete
  split
  · split <;> simp
  · simp

@[simp] theorem notesIn_readParameter (node : Node) (path : String) :
    (r.readParameter node path).NotesIn .reading := by
  unfold readParameter
  split <;> simp

@[simp] theorem notesIn_readParameters (node : Node) (path : String) :
    (r.readParameters node path).NotesIn .reading := by
  rw [readParameters, notesIn_bind]
  constructor
  · simp
  · split
    · simp [notesIn_readItems]
    · simp
    · simp

@[simp] theorem notesIn_readClass (node : Node) (path : String) :
    (r.readClass node path).NotesIn .reading := by
  unfold readClass
  split <;> simp

@[simp] theorem notesIn_readNamespace (node : Node) (path : String) :
    (r.readNamespace node path).NotesIn .reading := by
  unfold readNamespace
  split <;> simp [notesIn_readListing]

@[simp] theorem notesIn_readAssignment (node : Node) (path : String) :
    (r.readAssignment node path).NotesIn .reading := by
  unfold readAssignment
  split <;> simp

@[simp] theorem notesIn_readElement (node : Node) (path : String) :
    (r.readElement node path).NotesIn .reading := by
  unfold readElement
  split <;> simp

@[simp] theorem notesIn_readNamedInstance (node : Node) (path : String) :
    (r.readNamedInstance node path).NotesIn .reading := by
  unfold readNamedInstance
  split <;> simp [notesIn_readEntries]

theorem notesIn_readRoot (root : Node) (entries : List (String × Node)) :
    (r.readRoot root entries).NotesIn .reading := by
  simp [readRoot, notesIn_readListing]

theorem notesIn_readDocument {root : Node} {declared : Report Model}
    (h : r.readDocument root = .ok declared) : declared.NotesIn .reading := by
  obtain ⟨entries, -, rfl⟩ := r.eq_readRoot_of_readDocument h
  exact r.notesIn_readRoot root entries

theorem phase_of_readDocument {root : Node} {cause : Note}
    (h : r.readDocument root = .error cause) : cause.finding.phase = .reading := by
  unfold readDocument at h
  split at h
  · cases h
    rfl
  · cases h
    rfl
  · exact absurd h (by simp)

end Declared.Reading

/-! ## Building -/

namespace Model

open Report

variable (stamp : Stamp)

@[simp] theorem notesIn_recheck (f : Declared.Field) (form : NameForm) :
    (recheck f form).NotesIn .building := by
  unfold recheck
  extract_lets hasForm
  split
  · simp
  · split <;> simp

@[simp] theorem notesIn_parameterType (d : Declared.Parameter) :
    (parameterType d).NotesIn .building := by
  unfold parameterType
  split <;> simp

@[simp] theorem notesIn_buildParameter (d : Declared.Parameter) :
    (buildParameter stamp d).NotesIn .building := by
  simp [buildParameter]

@[simp] theorem notesIn_buildParameters (className : String) (seen : List String)
    (ds : List Declared.Parameter) :
    (buildParameters stamp className seen ds).NotesIn .building := by
  induction ds generalizing seen with
  | nil => simp [buildParameters]
  | cons d ds ih => simp [buildParameters, ih]

@[simp] theorem notesIn_buildInterface (namespaceName : String) (d : Declared.Interface) :
    (buildInterface stamp namespaceName d).NotesIn .building := by
  simp [buildInterface]

@[simp] theorem notesIn_buildClass (namespaceName : String) (d : Declared.Class) :
    (buildClass stamp namespaceName d).NotesIn .building := by
  simp [buildClass]

@[simp] theorem notesIn_buildNamespace (d : Declared.Namespace) :
    (buildNamespace stamp d).NotesIn .building := by
  simp [buildNamespace, NotesIn.forEach]

@[simp] theorem notesIn_buildWiring (value instanceRef : Option Declared.Field)
    (placeholder : Bool) (provenance : Provenance) (site : WiringSite) :
    (buildWiring value instanceRef placeholder provenance site).NotesIn .building := by
  unfold buildWiring
  split <;> simp

@[simp] theorem notesIn_buildAssignment (d : Declared.Assignment) :
    (buildAssignment stamp d).NotesIn .building := by
  simp [buildAssignment]

@[simp] theorem notesIn_buildElement (d : Declared.Element) :
    (buildElement stamp d).NotesIn .building := by
  simp [buildElement]

@[simp] theorem notesIn_buildNamedInstance (d : Declared.NamedInstance) :
    (buildNamedInstance stamp d).NotesIn .building := by
  simp [buildNamedInstance, NotesIn.forEach]

theorem notesIn_build (d : Declared.Model) : (build stamp d).NotesIn .building := by
  simp [build, buildCodeGen, NotesIn.forEach]

end Model

/-! ## Checking -/

namespace Check

open Note

variable (s : Scope)

theorem allIn_typeCollisions (m : Model) : AllIn (typeCollisions m) .typeCollisions := by
  apply AllIn.filterMap
  intro e _ n hn
  obtain ⟨-, hnote⟩ := Option.ite_none_right_eq_some.mp hn
  cases hnote
  rfl

theorem allIn_instanceCollisions (m : Model) :
    AllIn (instanceCollisions m) .instanceCollisions := by
  apply AllIn.filterMap
  intro i _ n hn
  obtain ⟨-, hnote⟩ := Option.ite_none_right_eq_some.mp hn
  cases hnote
  rfl

theorem allIn_invokerKeyNotes (m : Model) : AllIn (invokerKeyNotes m) .invokerKeys := by
  apply AllIn.flatMap
  intro c _
  rw [allIn_append]
  constructor <;> split <;> simp [noteOn]

theorem allIn_interfaceTypeNotes (i : NamedInstance) (t : TypeRef) (r : Declared.Reference) :
    AllIn (interfaceTypeNotes s i t r) .resolution := by
  unfold interfaceTypeNotes
  split
  · simp
  · split
    · simp
    · split
      · simp
      · split <;> simp

theorem allIn_instanceTypeNotes (i : NamedInstance) (d : Declared.NamedInstance) :
    AllIn (instanceTypeNotes s i d) .resolution := by
  unfold instanceTypeNotes classTypeNotes
  split
  · simp
  · rw [allIn_append]
    constructor
    · split <;> simp
    · split
      · exact allIn_interfaceTypeNotes s i _ _
      · simp

theorem allIn_resolutionNotes : AllIn (resolutionNotes s) .resolution := by
  rw [resolutionNotes, allIn_append]
  constructor
  · refine .flatMap fun ns _ => .flatMap fun c _ => ?_
    unfold exposedInterfaceNotes
    split
    · simp
    · split <;> simp
  · refine .flatMap fun ⟨i, d⟩ _ => ?_
    exact allIn_instanceTypeNotes s i d

theorem allIn_orderNotes (i : Nat) (inst : NamedInstance) (w : Wiring × Provenance) :
    AllIn (orderNotes s i inst w) .ordering := by
  unfold orderNotes
  split
  · simp
  · split
    · simp
    · split
      · simp [noteOn]
      · split <;> simp [noteOn]

theorem allIn_orderingNotes : AllIn (orderingNotes s) .ordering := by
  apply AllIn.flatMap
  rintro ⟨inst, i⟩ -
  dsimp only
  split
  · simp
  · exact .flatMap fun w _ => allIn_orderNotes s i inst w

theorem allIn_interfaceWiringNotes (a : Assignment) (expected : TypeRef) :
    AllIn (interfaceWiringNotes s a expected) .wiring := by
  unfold interfaceWiringNotes
  split
  · split <;> simp [noteOn]
  · split
    · simp
    · split <;> simp [noteOn]

theorem allIn_assignmentNotes (inst : NamedInstance) (c : Class) (assigned : List String)
    (items : List Assignment) : AllIn (assignmentNotes s inst c assigned items).1 .wiring := by
  induction items generalizing assigned with
  | nil => simp [assignmentNotes]
  | cons a items ih =>
    unfold assignmentNotes
    split
    · exact ih assigned
    · split
      · simp [noteOn, ih]
      · split
        · simp [noteOn, ih]
        · rw [allIn_append]
          refine ⟨?_, ih _⟩
          split
          · exact allIn_interfaceWiringNotes s a _
          · simp

theorem allIn_elementNotes (inst : NamedInstance) (expected : TypeRef) (e : Element) :
    AllIn (elementNotes s inst expected e) .wiring := by
  unfold elementNotes
  split
  · simp
  · split
    · simp
    · split
      · simp
      · split <;> simp [noteOn]

theorem allIn_unassignedNotes (inst : NamedInstance) (c : Class) (assigned : List String) :
    AllIn (unassignedNotes inst c assigned) .wiring := by
  intro n hn
  obtain ⟨p, -, rfl⟩ := List.mem_map.mp hn
  rfl

theorem allIn_wiringNotes : AllIn (wiringNotes s) .wiring := by
  apply AllIn.flatMap
  rintro ⟨inst, i⟩ -
  dsimp only [instanceWiringNotes]
  split
  · simp
  · split
    · split
      · simp
      · rw [allIn_append]
        exact ⟨allIn_assignmentNotes s inst _ _ _, allIn_unassignedNotes inst _ _⟩
    · split
      · simp
      · exact .flatMap fun e _ => allIn_elementNotes s inst _ e
    · simp

end Check

/-! ## Diagnostics of one phase -/

namespace Model

/-- The notes that a phase makes on declarations once they are read. -/
def notesOf (stamp : Stamp) (declared : Report Declared.Model) : Phase → List Note
  | .reading => declared.notes
  | .building => (build stamp declared.value).notes
  | .typeCollisions => Check.typeCollisions (Check.Scope.ofDeclared stamp declared.value).model
  | .instanceCollisions =>
    Check.instanceCollisions (Check.Scope.ofDeclared stamp declared.value).model
  | .invokerKeys => Check.invokerKeyNotes (Check.Scope.ofDeclared stamp declared.value).model
  | .resolution => Check.resolutionNotes (Check.Scope.ofDeclared stamp declared.value)
  | .ordering => Check.orderingNotes (Check.Scope.ofDeclared stamp declared.value)
  | .wiring => Check.wiringNotes (Check.Scope.ofDeclared stamp declared.value)

theorem allIn_notesOf (stamp : Stamp) {declared : Report Declared.Model}
    (h : declared.NotesIn .reading) (p : Phase) : Note.AllIn (notesOf stamp declared p) p := by
  cases p with
  | reading => exact h
  | building => exact notesIn_build stamp declared.value
  | typeCollisions => exact Check.allIn_typeCollisions _
  | instanceCollisions => exact Check.allIn_instanceCollisions _
  | invokerKeys => exact Check.allIn_invokerKeyNotes _
  | resolution => exact Check.allIn_resolutionNotes _
  | ordering => exact Check.allIn_orderingNotes _
  | wiring => exact Check.allIn_wiringNotes _

theorem diagnostics_ofDeclared (options : Options) (declared : Report Declared.Model) :
    (ofDeclared options declared.value declared.notes).diagnostics =
      (Phase.all.flatMap (notesOf (options.stamp .transform) declared)).map Note.diagnostic := by
  simp only [ofDeclared, judge, Check.notes, Phase.all, notesOf, List.flatMap_cons,
    List.flatMap_nil, List.append_nil, List.append_assoc]
  rfl

/-- The diagnostics of a code are those on the notes of its phase. -/
theorem areOn_notesOf (options : Options) {declared : Report Declared.Model}
    (h : declared.NotesIn .reading) {c : Code} (hc : c.phase ≠ .reading) :
    Diagnostic.AreOn (ofDeclared options declared.value declared.notes).diagnostics
      (notesOf (options.stamp .transform) declared c.phase) c := by
  have hother : ∀ p, p ≠ c.phase →
      ((notesOf (options.stamp .transform) declared p).map Note.diagnostic).filter
        (·.code = c) = [] := by
    intro p hp
    rw [List.filter_eq_nil_iff, List.forall_mem_map]
    intro n hn
    exact decide_eq_false ((allIn_notesOf _ h p).code_ne hc hp.symm n hn) ▸ Bool.false_ne_true
  rw [Diagnostic.AreOn, diagnostics_ofDeclared, List.map_flatMap, List.filter_flatMap, Phase.all]
  -- Of the lists of all phases one is left.
  cases hphase : c.phase <;> simp [hother, hphase]

/-- A document is refused by a finding of the first phase, or it gives the model of declarations
with diagnostics that are, code by code, those on the notes of one phase. -/
theorem ofNode_phases (options : Options) (source : String) (root : Node) :
    (∃ cause, cause.finding.phase = .reading ∧
      ofNode options source root = refused options source cause) ∨
    ∃ declared diagnostics,
      (Declared.Reading.mk source (options.stamp .extract)).readDocument root = .ok declared ∧
      (∀ c, c.phase ≠ .reading →
        Diagnostic.AreOn diagnostics (notesOf (options.stamp .transform) declared c.phase) c) ∧
      ofNode options source root =
        { (Check.Scope.ofDeclared (options.stamp .transform) declared.value).model with
          diagnostics := diagnostics } := by
  rw [ofNode]
  cases hread : (Declared.Reading.mk source (options.stamp .extract)).readDocument root with
  | error cause => exact .inl ⟨cause, Declared.Reading.phase_of_readDocument _ hread, rfl⟩
  | ok declared =>
    have hnotes := Declared.Reading.notesIn_readDocument _ hread
    exact .inr ⟨declared, _, rfl, fun c hc => areOn_notesOf options hnotes hc, rfl⟩

/-- A document that is not read has no diagnostic of a later phase. -/
theorem phase_of_mem_refused {options : Options} {source : String} {cause : Note}
    (h : cause.finding.phase = .reading) {d : Diagnostic}
    (hd : d ∈ (refused options source cause).diagnostics) : d.code.phase = .reading := by
  obtain rfl : d = cause.diagnostic := List.mem_singleton.mp hd
  by_cases hc : cause.diagnostic.code.phase = .reading
  · exact hc
  · exact (Finding.phase_of_code hc).symm.trans h

end Model

end DependencyWiring
