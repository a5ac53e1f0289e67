import DependencyWiring.Declared.Reader
import DependencyWiring.Proofs.CleanReport

/-!
# Sound declarations

A declaration is sound when nothing in it was replaced by a placeholder, every name has its form and
every reference is one its key asks for. A reading that notes no error leaves sound declarations
only. Whether a field fits is settled by its status alone, also in a document with errors.
-/
namespace DependencyWiring.Declared

open Report Reading

/-- The field was accepted and has the form. -/
structure Field.Fits (f : Field) (form : NameForm) : Prop where
  isValid : f.isValid = true
  hasForm : Reading.hasForm form f.value = true

/-- The token was accepted and refers to what the role asks for. -/
structure Reference.Fits (r : Reference) (role : ReferenceRole) : Prop where
  isUsable : r.isUsable = true
  parsed : TypeRef.parse r.text.value = .ok r.resolved
  fitsRole : Reading.fitsRole r.resolved role = true

structure CodeGen.IsSound (d : CodeGen) : Prop where
  authored : d.placeholder = false
  registryClassName : d.registryClassName.Fits .simple
  generatedCodePath : d.generatedCodePath.isValid = true
  namespaceName : d.namespaceName.Fits .simpleOrQualified
  initializerName : d.initializerName.Fits .simple

structure Interface.IsSound (d : Interface) : Prop where
  authored : d.placeholder = false
  name : d.name.Fits .simple

structure Parameter.IsSound (d : Parameter) : Prop where
  authored : d.placeholder = false
  name : d.name.Fits .simple
  classRef : ∀ r ∈ d.classRef, r.Fits .classType
  interfaceRef : ∀ r ∈ d.interfaceRef, r.Fits .interfaceType
  primitive : d.interfaceRef = none → ∀ r ∈ d.classRef, r.resolved.isPrimitive = true

structure Class.IsSound (d : Class) : Prop where
  authored : d.placeholder = false
  name : d.name.Fits .simple
  interfaceRef : ∀ r ∈ d.interfaceRef, r.Fits .bareInterface
  parameters : ∀ p ∈ d.parameters.getD [], p.IsSound

structure Namespace.IsSound (d : Namespace) : Prop where
  authored : d.placeholder = false
  name : d.name.Fits .simpleOrQualified
  interfaces : ∀ i ∈ d.interfaces, i.IsSound
  classes : ∀ c ∈ d.classes, c.IsSound

structure Assignment.IsSound (d : Assignment) : Prop where
  authored : d.placeholder = false
  parameterName : d.parameterName.Fits .simple
  value : ∀ f ∈ d.value, f.isValid = true
  instanceRef : ∀ f ∈ d.instanceRef, f.Fits .simple

structure Element.IsSound (d : Element) : Prop where
  authored : d.placeholder = false
  value : ∀ f ∈ d.value, f.isValid = true
  instanceRef : ∀ f ∈ d.instanceRef, f.Fits .simple

structure NamedInstance.IsSound (d : NamedInstance) : Prop where
  authored : d.placeholder = false
  name : d.name.Fits .simple
  classRef : d.classRef.Fits .classType
  interfaceRef : ∀ r ∈ d.interfaceRef, r.Fits .interfaceType
  assignments : ∀ a ∈ d.assignments.getD [], a.IsSound
  elements : ∀ e ∈ d.elements.getD [], e.IsSound

structure Model.IsSound (d : Model) : Prop where
  codeGen : d.codeGen.IsSound
  namespaces : ∀ ns ∈ d.namespaces, ns.IsSound
  namedInstances : ∀ i ∈ d.namedInstances, i.IsSound

namespace Reading

variable (r : Reading)

/-! ## Fields -/

theorem hasForm_of_authored (value : String) (origin : Origin) (key : String)
    (form : Option NameForm) (h : (authored value origin key form).value.isValid = true) :
    ∀ f ∈ form, hasForm f (authored value origin key form).value.value = true := by
  intro f hf
  obtain rfl : form = some f := hf
  by_cases hform : hasForm f value = true
  · simp [authored, hform]
  · simp [authored, hform, Field.isValid] at h

theorem isValid_of_authored {value : String} {origin : Origin} {key : String}
    {form : Option NameForm} (h : (authored value origin key form).IsClean) :
    (authored value origin key form).value.isValid = true := by
  cases form with
  | none => rfl
  | some f =>
    by_cases hform : hasForm f value = true
    · simp [authored, hform, Field.isValid]
    · simp [authored, hform, -Finding.isError, Finding.isError_invalidName] at h

/-- A required field is a placeholder with an error noted, or what the document gives. -/
theorem required_cases (parent : Node) (path key : String) (kind : Declaration)
    (form : Option NameForm) :
    ((r.required parent path key kind form).value.isValid = false ∧
      ¬(r.required parent path key kind form).IsClean) ∨
    ∃ text origin, r.required parent path key kind form = authored text origin key form := by
  unfold required
  cases parent.get? key with
  | none => simp [absent, Field.isValid]
  | some node =>
    dsimp only
    cases node.text? with
    | none => simp [absent, Field.isValid]
    | some text =>
      by_cases hnull : isNull text = true
      · simp [hnull, absent, Field.isValid]
      · exact .inr ⟨text, r.origin node (LogicalPath.key path key), by simp [hnull]⟩

/-- An optional field is left out, or it is what the document gives. -/
theorem optional_cases (parent : Node) (path key : String) (form : Option NameForm) :
    (r.optional parent path key form).value = none ∨
    ∃ text origin, (r.optional parent path key form).value =
        some (authored text origin key form).value ∧
      (r.optional parent path key form).notes = (authored text origin key form).notes := by
  unfold optional
  cases parent.get? key with
  | none => simp
  | some node =>
    dsimp only
    cases node.text? with
    | none => simp
    | some text =>
      by_cases hnull : isNull text = true
      · simp [hnull]
      · exact .inr ⟨text, r.origin node (LogicalPath.key path key), by simp [hnull],
          by simp [hnull]⟩

theorem isValid_of_required {parent : Node} {path key : String} {kind : Declaration}
    {form : Option NameForm} (h : (r.required parent path key kind form).IsClean) :
    (r.required parent path key kind form).value.isValid = true := by
  rcases r.required_cases parent path key kind form with ⟨_, hbad⟩ | ⟨text, origin, he⟩
  · exact absurd h hbad
  · rw [he] at h ⊢
    exact isValid_of_authored h

theorem fits_of_required {parent : Node} {path key : String} {kind : Declaration}
    {form : NameForm} (h : (r.required parent path key kind (some form)).IsClean) :
    (r.required parent path key kind (some form)).value.Fits form := by
  refine ⟨r.isValid_of_required h, ?_⟩
  rcases r.required_cases parent path key kind (some form) with ⟨_, hbad⟩ | ⟨text, origin, he⟩
  · exact absurd h hbad
  · rw [he] at h ⊢
    exact hasForm_of_authored text origin key (some form) (isValid_of_authored h) form rfl

theorem isValid_of_optional {parent : Node} {path key : String} {form : Option NameForm}
    (h : (r.optional parent path key form).IsClean) :
    ∀ f ∈ (r.optional parent path key form).value, f.isValid = true := by
  intro f hf
  rcases r.optional_cases parent path key form with hnone | ⟨text, origin, hvalue, hnotes⟩
  · simp [hnone] at hf
  · obtain rfl : (authored text origin key form).value = f := by simpa [hvalue] using hf
    exact isValid_of_authored (by rwa [IsClean, hnotes] at h)

theorem fits_of_optional {parent : Node} {path key : String} {form : NameForm}
    (h : (r.optional parent path key (some form)).IsClean) :
    ∀ f ∈ (r.optional parent path key (some form)).value, f.Fits form := by
  intro f hf
  refine ⟨r.isValid_of_optional h f hf, ?_⟩
  rcases r.optional_cases parent path key (some form) with hnone | ⟨text, origin, hvalue, hnotes⟩
  · simp [hnone] at hf
  · obtain rfl : (authored text origin key (some form)).value = f := by simpa [hvalue] using hf
    have hclean : (authored text origin key (some form)).IsClean := by rwa [IsClean, hnotes] at h
    exact hasForm_of_authored text origin key (some form) (isValid_of_authored hclean) form rfl

/-! ## References -/

/-- A reference is unusable, with an error noted unless its text was refused before, or it is the
type that its text spells. -/
theorem reference_cases (text : Field) (key : String) (role : ReferenceRole) :
    ((reference text key role).value.isUsable = false ∧
      (text.isValid = true → ¬(reference text key role).IsClean)) ∨
    ∃ t, text.isValid = true ∧ TypeRef.parse text.value = .ok t ∧ fitsRole t role = true ∧
      reference text key role = pure ⟨text, some t⟩ := by
  unfold reference
  by_cases hvalid : text.isValid = true
  · simp only [hvalid, if_true, true_and, forall_const]
    cases TypeRef.parse text.value with
    | error cause =>
      simp [Reference.isUsable, -Finding.isError, Finding.isError_invalidToken]
    | ok t =>
      by_cases hrole : fitsRole t role = true
      · simp [hrole]
      · simp [hrole, Reference.isUsable, Field.isValid]
  · simp [hvalid, Reference.isUsable]

theorem fits_of_reference {text : Field} {key : String} {role : ReferenceRole}
    (hvalid : text.isValid = true) (h : (reference text key role).IsClean) :
    (reference text key role).value.Fits role := by
  rcases reference_cases text key role with ⟨_, hbad⟩ | ⟨t, _, hparse, hrole, he⟩
  · exact absurd h (hbad hvalid)
  · rw [he]
    exact ⟨by simp [Reference.isUsable, hvalid], hparse, hrole⟩

theorem fits_of_requiredReference {parent : Node} {path key : String} {kind : Declaration}
    {role : ReferenceRole} (h : (r.requiredReference parent path key kind role).IsClean) :
    (r.requiredReference parent path key kind role).value.Fits role := by
  simp only [requiredReference, isClean_bind, value_bind] at h ⊢
  exact fits_of_reference (r.isValid_of_required h.1) h.2

theorem fits_of_optionalReference {parent : Node} {path key : String} {role : ReferenceRole}
    (h : (r.optionalReference parent path key role).IsClean) :
    ∀ ref ∈ (r.optionalReference parent path key role).value, ref.Fits role := by
  simp only [optionalReference, isClean_bind, value_bind] at h ⊢
  have hvalid := r.isValid_of_optional h.1
  cases hv : (r.optional parent path key none).value with
  | none => simp
  | some text =>
    simp only [hv, isClean_bind, isClean_pure, and_true, value_bind, value_pure] at h ⊢
    rintro ref ⟨⟩
    exact fits_of_reference (hvalid text hv) h.2

/-! ## Sequences -/

theorem forall_readItems {α : Type} {P : α → Prop} {path key : String} {items : List Node}
    {read : Node → String → Report α} (hread : ∀ n p, (read n p).IsClean → P (read n p).value)
    (h : (readItems path key items read).IsClean) :
    ∀ a ∈ (readItems path key items read).value, P a :=
  h.forall_forEachIndexed fun i n => hread n (LogicalPath.item path key i)

theorem forall_readListing {α : Type} {P : α → Prop} {parent : Node} {path key : String}
    {read : Node → String → Report α} (hread : ∀ n p, (read n p).IsClean → P (read n p).value)
    (h : (r.readListing parent path key read).IsClean) :
    ∀ a ∈ (r.readListing parent path key read).value, P a := by
  simp only [readListing, isClean_bind, value_bind] at h ⊢
  exact forall_readItems hread h.2

theorem forall_readEntries {α : Type} {P : α → Prop} {node : Node} {path key : String}
    {read : Node → String → Report α} (hread : ∀ n p, (read n p).IsClean → P (read n p).value)
    (h : (r.readEntries node path key read).IsClean) :
    ∀ a ∈ (r.readEntries node path key read).value.getD [], P a := by
  simp only [readEntries, isClean_bind, value_bind] at h ⊢
  cases hl : (r.listing node path key).value with
  | absent => simp
  | invalid => simp
  | items nodes holder =>
    simp only [hl, isClean_bind, value_bind, value_pure, Option.getD_some] at h ⊢
    exact forall_readItems hread h.2.2.1

/-! ## Declarations -/

theorem readCodeGen_sound {root : Node} (h : (r.readCodeGen root).IsClean) :
    (r.readCodeGen root).value.IsSound := by
  unfold readCodeGen at h ⊢
  cases hn : root.get? "codeGen" with
  | none => simp [hn] at h
  | some node =>
    cases he : node.entries? with
    | none => simp [hn, he, noteInvalid] at h
    | some entries =>
      simp only [hn, he, isClean_bind, value_bind, value_pure] at h ⊢
      obtain ⟨-, hregistry, hpath, hnamespace, hinitializer, -⟩ := h
      exact ⟨rfl, r.fits_of_required hregistry, r.isValid_of_required hpath,
        r.fits_of_required hnamespace, r.fits_of_required hinitializer⟩

theorem readInterface_sound {node : Node} {path : String}
    (h : (r.readInterface node path).IsClean) : (r.readInterface node path).value.IsSound := by
  unfold readInterface at h ⊢
  cases he : node.entries? with
  | none => simp [he, noteInvalid] at h
  | some entries =>
    simp only [he, isClean_bind, value_bind, value_pure] at h ⊢
    exact ⟨rfl, r.fits_of_required h.2.1⟩

/-- The rule on concrete classes changes no reference that it does not refuse. -/
theorem checkConcrete_sound {name : Field} {classRef interfaceRef : Option Reference}
    (h : (checkConcrete name classRef interfaceRef).IsClean) :
    (checkConcrete name classRef interfaceRef).value = classRef ∧
      (interfaceRef = none → ∀ ref ∈ classRef, ref.isUsable = true →
        ref.resolved.isPrimitive = true) := by
  cases classRef with
  | none => simp [checkConcrete]
  | some ref =>
    cases interfaceRef with
    | some _ => simp [checkConcrete]
    | none =>
      obtain ⟨text, parsed⟩ := ref
      by_cases hc : (text.isValid && parsed.any fun t => !t.isPrimitive) = true
      · simp [checkConcrete, hc] at h
      · simp only [checkConcrete, hc, Bool.false_eq_true, if_false, value_pure, true_and]
        rintro - ref ⟨⟩ husable
        cases parsed with
        | none => simp [Reference.isUsable] at husable
        | some t => simp_all [Reference.isUsable, Reference.resolved]

theorem readParameter_sound {node : Node} {path : String}
    (h : (r.readParameter node path).IsClean) : (r.readParameter node path).value.IsSound := by
  unfold readParameter at h ⊢
  cases he : node.entries? with
  | none => simp [he, noteInvalid] at h
  | some entries =>
    simp only [he, isClean_bind, value_bind, value_pure] at h ⊢
    obtain ⟨-, hname, hclass, hinterface, hconcrete, -⟩ := h
    obtain ⟨hsame, hprimitive⟩ := checkConcrete_sound hconcrete
    have hfits := r.fits_of_optionalReference hclass
    refine ⟨rfl, r.fits_of_required hname, ?_, r.fits_of_optionalReference hinterface, ?_⟩
    · rw [hsame]
      exact hfits
    · rw [hsame]
      exact fun hnone ref href => hprimitive hnone ref href (hfits ref href).isUsable

theorem readParameters_sound {node : Node} {path : String}
    (h : (r.readParameters node path).IsClean) :
    ∀ p ∈ (r.readParameters node path).value.getD [], p.IsSound := by
  simp only [readParameters, isClean_bind, value_bind] at h ⊢
  cases hl : (r.listing node path "initializerParameters").value with
  | absent => simp
  | invalid => simp
  | items nodes holder =>
    simp only [hl, isClean_bind, value_bind, value_pure, Option.getD_some] at h ⊢
    exact forall_readItems (fun _ _ => r.readParameter_sound) h.2.1

theorem readClass_sound {node : Node} {path : String}
    (h : (r.readClass node path).IsClean) : (r.readClass node path).value.IsSound := by
  unfold readClass at h ⊢
  cases he : node.entries? with
  | none => simp [he, noteInvalid] at h
  | some entries =>
    simp only [he, isClean_bind, value_bind, value_pure] at h ⊢
    obtain ⟨-, hname, hinterface, hparameters, -⟩ := h
    exact ⟨rfl, r.fits_of_required hname, r.fits_of_optionalReference hinterface,
      r.readParameters_sound hparameters⟩

theorem readNamespace_sound {node : Node} {path : String}
    (h : (r.readNamespace node path).IsClean) : (r.readNamespace node path).value.IsSound := by
  unfold readNamespace at h ⊢
  cases he : node.entries? with
  | none => simp [he, noteInvalid] at h
  | some entries =>
    simp only [he, isClean_bind, value_bind, value_pure] at h ⊢
    obtain ⟨-, hname, hinterfaces, hclasses, -⟩ := h
    exact ⟨rfl, r.fits_of_required hname,
      r.forall_readListing (fun _ _ => r.readInterface_sound) hinterfaces,
      r.forall_readListing (fun _ _ => r.readClass_sound) hclasses⟩

theorem readAssignment_sound {node : Node} {path : String}
    (h : (r.readAssignment node path).IsClean) :
    (r.readAssignment node path).value.IsSound := by
  unfold readAssignment at h ⊢
  cases he : node.entries? with
  | none => simp [he, noteInvalid] at h
  | some entries =>
    simp only [he, isClean_bind, value_bind, value_pure] at h ⊢
    obtain ⟨-, hname, hvalue, hinstance, -⟩ := h
    exact ⟨rfl, r.fits_of_required hname, r.isValid_of_optional hvalue,
      r.fits_of_optional hinstance⟩

theorem readElement_sound {node : Node} {path : String}
    (h : (r.readElement node path).IsClean) : (r.readElement node path).value.IsSound := by
  unfold readElement at h ⊢
  cases he : node.entries? with
  | none => simp [he, noteInvalid] at h
  | some entries =>
    simp only [he, isClean_bind, value_bind, value_pure] at h ⊢
    obtain ⟨-, hvalue, hinstance, -⟩ := h
    exact ⟨rfl, r.isValid_of_optional hvalue, r.fits_of_optional hinstance⟩

theorem readNamedInstance_sound {node : Node} {path : String}
    (h : (r.readNamedInstance node path).IsClean) :
    (r.readNamedInstance node path).value.IsSound := by
  unfold readNamedInstance at h ⊢
  cases he : node.entries? with
  | none => simp [he, noteInvalid] at h
  | some entries =>
    simp only [he, isClean_bind, value_bind, value_pure] at h ⊢
    obtain ⟨-, hname, hclass, hinterface, hassignments, helements, -⟩ := h
    exact ⟨rfl, r.fits_of_required hname, r.fits_of_requiredReference hclass,
      r.fits_of_optionalReference hinterface,
      r.forall_readEntries (fun _ _ => r.readAssignment_sound) hassignments,
      r.forall_readEntries (fun _ _ => r.readElement_sound) helements⟩

theorem readRoot_sound {root : Node} {entries : List (String × Node)}
    (h : (r.readRoot root entries).IsClean) : (r.readRoot root entries).value.IsSound := by
  simp only [readRoot, isClean_bind, value_bind, value_pure] at h ⊢
  obtain ⟨-, hcodeGen, hnamespaces, hinstances, -⟩ := h
  exact ⟨r.readCodeGen_sound hcodeGen,
    r.forall_readListing (fun _ _ => r.readNamespace_sound) hnamespaces,
    r.forall_readListing (fun _ _ => r.readNamedInstance_sound) hinstances⟩

/-- Only a mapping is read. -/
theorem eq_readRoot_of_readDocument {root : Node} {declared : Report Model}
    (h : r.readDocument root = .ok declared) :
    ∃ entries, root.entries? = some entries ∧ declared = r.readRoot root entries := by
  unfold readDocument at h
  cases he : root.entries? with
  | none => simp [he] at h
  | some entries =>
    cases entries with
    | nil => simp [he] at h
    | cons e es => exact ⟨e :: es, rfl, by simpa [he] using h.symm⟩

/-- What is not read has no keys, and is refused at its root for an error. -/
theorem cause_of_readDocument {root : Node} {cause : Note}
    (h : r.readDocument root = .error cause) :
    cause.isError = true ∧ cause.origin = r.origin root LogicalPath.root ∧
      ∀ key, root.get? key = none := by
  unfold readDocument at h
  cases he : root.entries? with
  | none =>
    obtain rfl : _ = cause := by simpa [he] using h
    exact ⟨rfl, rfl, fun key => by simp [Node.get?, he]⟩
  | some entries =>
    cases entries with
    | nil =>
      obtain rfl : _ = cause := by simpa [he] using h
      exact ⟨rfl, rfl, fun key => by simp [Node.get?, he, Node.lookup]⟩
    | cons e es => simp [he] at h

/-- A document that is read without an error declares sound things only. -/
theorem readDocument_sound {root : Node} {declared : Report Model}
    (hread : r.readDocument root = .ok declared) (h : declared.IsClean) :
    declared.value.IsSound := by
  obtain ⟨entries, -, rfl⟩ := r.eq_readRoot_of_readDocument hread
  exact r.readRoot_sound h

end Reading

end DependencyWiring.Declared
