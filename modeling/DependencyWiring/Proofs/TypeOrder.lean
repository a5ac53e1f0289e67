import DependencyWiring.Proofs.AgreeingScopes
import DependencyWiring.Proofs.DocumentRules
import DependencyWiring.Proofs.PlacelessModels
import DependencyWiring.Proofs.RearrangedTypes
import Mathlib.Data.Option.Basic

/-!
# The order of types

A name is looked up among the types in the order of their declarations, so the order decides where
two types share a name. But then the document is refused in either order, by the check for
collisions, which does not look at the order. So the verdict on a document does not depend on the
order of its namespaces and types, and of a document that is accepted the same is said in any order.
-/
namespace DependencyWiring

/-! ## Sound declarations elsewhere -/

namespace Declared

variable {m : Relocation}

theorem Field.Fits.relocate {f : Field} {form : NameForm} (h : f.Fits form) :
    (f.relocate m).Fits form :=
  ⟨h.isValid, h.hasForm⟩

theorem Reference.Fits.relocate {r : Reference} {role : ReferenceRole} (h : r.Fits role) :
    (r.relocate m).Fits role :=
  ⟨h.isUsable, h.parsed, h.fitsRole⟩

theorem forall_mem_getD_map {α : Type} {f : α → α} {P Q : α → Prop} {as : Option (List α)}
    (h : ∀ a ∈ as.getD [], P a) (hf : ∀ a, P a → Q (f a)) :
    ∀ a ∈ (as.map (List.map f)).getD [], Q a := by
  cases as with
  | none => simp
  | some as =>
    rw [Option.map_some, Option.getD_some, List.forall_mem_map]
    exact fun a ha => hf a (h a ha)

theorem CodeGen.IsSound.relocate {d : CodeGen} (h : d.IsSound) : (d.relocate m).IsSound :=
  ⟨h.authored, h.registryClassName.relocate, h.generatedCodePath, h.namespaceName.relocate,
    h.initializerName.relocate⟩

theorem Interface.IsSound.relocate {d : Interface} (h : d.IsSound) : (d.relocate m).IsSound :=
  ⟨h.authored, h.name.relocate⟩

theorem Parameter.IsSound.relocate {d : Parameter} (h : d.IsSound) : (d.relocate m).IsSound where
  authored := h.authored
  name := h.name.relocate
  classRef := Option.forall_mem_map.mpr fun r hr => (h.classRef r hr).relocate
  interfaceRef := Option.forall_mem_map.mpr fun r hr => (h.interfaceRef r hr).relocate
  primitive hnone := Option.forall_mem_map.mpr fun r hr =>
    h.primitive (Option.map_eq_none_iff.mp hnone) r hr

theorem Class.IsSound.relocate {d : Class} (h : d.IsSound) : (d.relocate m).IsSound where
  authored := h.authored
  name := h.name.relocate
  interfaceRef := Option.forall_mem_map.mpr fun r hr => (h.interfaceRef r hr).relocate
  parameters := forall_mem_getD_map h.parameters fun _ hp => hp.relocate

theorem Namespace.IsSound.relocate {d : Namespace} (h : d.IsSound) : (d.relocate m).IsSound where
  authored := h.authored
  name := h.name.relocate
  interfaces := List.forall_mem_map.mpr fun i hi => (h.interfaces i hi).relocate
  classes := List.forall_mem_map.mpr fun c hc => (h.classes c hc).relocate

theorem Assignment.IsSound.relocate {d : Assignment} (h : d.IsSound) : (d.relocate m).IsSound where
  authored := h.authored
  parameterName := h.parameterName.relocate
  value := Option.forall_mem_map.mpr fun f hf => h.value f hf
  instanceRef := Option.forall_mem_map.mpr fun f hf => (h.instanceRef f hf).relocate

theorem Element.IsSound.relocate {d : Element} (h : d.IsSound) : (d.relocate m).IsSound where
  authored := h.authored
  value := Option.forall_mem_map.mpr fun f hf => h.value f hf
  instanceRef := Option.forall_mem_map.mpr fun f hf => (h.instanceRef f hf).relocate

theorem NamedInstance.IsSound.relocate {d : NamedInstance} (h : d.IsSound) :
    (d.relocate m).IsSound where
  authored := h.authored
  name := h.name.relocate
  classRef := h.classRef.relocate
  interfaceRef := Option.forall_mem_map.mpr fun r hr => (h.interfaceRef r hr).relocate
  assignments := forall_mem_getD_map h.assignments fun _ ha => ha.relocate
  elements := forall_mem_getD_map h.elements fun _ he => he.relocate

theorem Model.IsSound.relocate {d : Model} (h : d.IsSound) : (d.relocate m).IsSound where
  codeGen := h.codeGen.relocate
  namespaces := List.forall_mem_map.mpr fun ns hns => (h.namespaces ns hns).relocate
  namedInstances := List.forall_mem_map.mpr fun i hi => (h.namedInstances i hi).relocate

theorem Model.HasMarks.relocate {d : Model} (h : d.HasMarks) : (d.relocate m).HasMarks where
  namespaces := List.forall_mem_map.mpr fun ns hns =>
    { name := (h.namespaces ns hns).name
      interfaces := List.forall_mem_map.mpr (h.namespaces ns hns).interfaces
      classes := List.forall_mem_map.mpr (h.namespaces ns hns).classes }
  namedInstances := List.forall_mem_map.mpr h.namedInstances

/-! ## Names in another order -/

namespace Model.Rearranges

variable {d d' : Model} (h : d.Rearranges d')

include h

theorem typeNames_perm : d.typeNames.Perm d'.typeNames := by
  refine h.namespaces.flatMap_perm fun ns ns' hns => ?_
  rw [hns.name]
  exact (hns.interfaces.map _).append (hns.classes.map _)

theorem classNames_perm : d.classNames.Perm d'.classNames := by
  refine h.namespaces.flatMap_perm fun ns ns' hns => ?_
  rw [hns.name]
  exact hns.classes.map _

theorem hasDistinctNames (hnames : d.HasDistinctNames) : d'.HasDistinctNames where
  types := h.typeNames_perm.nodup_iff.mp hnames.types
  instances := by
    rw [instanceNames, h.namedInstances]
    exact hnames.instances
  invokerKeys := (h.classNames_perm.map _).nodup_iff.mp hnames.invokerKeys

end Model.Rearranges

theorem Model.exists_declaresClass_iff {d : Model} {q : String} :
    (∃ c, d.DeclaresClass q c) ↔ q ∈ d.classNames := by
  simp only [DeclaresClass, classNames, List.mem_flatMap, List.mem_map]
  constructor
  · rintro ⟨c, ns, hns, hc, hname⟩
    exact ⟨ns, hns, c, hc, hname⟩
  · rintro ⟨ns, hns, c, hc, hname⟩
    exact ⟨c, ns, hns, hc, hname⟩

end Declared

/-! ## Checks -/

namespace Note

theorem NoErrors.eq_nil {notes : List Note} (h : NoErrors notes)
    (herror : ∀ n ∈ notes, n.isError = true) : notes = [] := by
  rw [List.eq_nil_iff_forall_not_mem]
  intro n hn
  exact absurd ((herror n hn).symm.trans (h n hn)) (by decide)

end Note

namespace Check

/-! Of names, only errors are noted. -/

theorem typeCollisions_eq_nil {m : Model} (h : Note.NoErrors (typeCollisions m)) :
    typeCollisions m = [] := by
  refine h.eq_nil fun n hn => ?_
  obtain ⟨e, -, he⟩ := List.mem_filterMap.mp hn
  dsimp only at he
  split at he
  · obtain rfl := Option.some.inj he
    rfl
  · exact absurd he (by simp)

theorem invokerKeyNotes_eq_nil {m : Model} (h : Note.NoErrors (invokerKeyNotes m)) :
    invokerKeyNotes m = [] := by
  refine h.eq_nil fun n hn => ?_
  obtain ⟨c, -, hc⟩ := List.mem_flatMap.mp hn
  rcases List.mem_append.mp hc with hc | hc
  · split at hc
    · obtain rfl := List.mem_singleton.mp hc
      rfl
    · exact absurd hc (by simp)
  · split at hc
    · exact absurd hc (by simp)
    · obtain rfl := List.mem_singleton.mp hc
      rfl

section

variable {stamp : Stamp} {d d' : Declared.Model} (h : d.Rearranges d') (hd : d.HasMarks)
  (hd' : d'.HasMarks)

include h hd hd'

theorem hasInterface_rearranged {q : String} (hq : '<' ∉ q.toList) :
    (Scope.ofDeclared stamp d').index.hasInterface q =
      (Scope.ofDeclared stamp d).index.hasInterface q := by
  rw [Bool.eq_iff_iff, Scope.hasInterface_iff stamp hd hq, Scope.hasInterface_iff stamp hd' hq]
  have hmem {i : Interface} := (Model.interfaces_build_rearranged stamp h).mem_iff (a := i)
  exact exists_congr fun i => and_congr_left fun _ => hmem.symm

theorem hasClass_rearranged {q : String} (hq : '<' ∉ q.toList) :
    (Scope.ofDeclared stamp d').index.hasClass q =
      (Scope.ofDeclared stamp d).index.hasClass q := by
  have hclass : (Declared.Index.ofModel d').hasClass q = true ↔
      (Declared.Index.ofModel d).hasClass q = true := by
    rw [Declared.Index.hasClass_iff hd hq, Declared.Index.hasClass_iff hd' hq,
      Declared.Model.exists_declaresClass_iff, Declared.Model.exists_declaresClass_iff]
    exact h.classNames_perm.mem_iff.symm
  exact Bool.eq_iff_iff.mpr hclass

/-- Where names are distinct there is one class of a name, and it is found in any order. -/
theorem class_rearranged
    (hnames : ((Model.build stamp d).value.classes.map Class.qualifiedName).Nodup) {q : String}
    (hq : '<' ∉ q.toList) :
    (Scope.ofDeclared stamp d').class? q = (Scope.ofDeclared stamp d).class? q := by
  have hperm := Model.classes_build_rearranged stamp h
  have hnames' := (hperm.map Class.qualifiedName).nodup_iff.mp hnames
  rw [Scope.class_eq stamp hd hq, Scope.class_eq stamp hd' hq]
  refine Option.ext fun c => ?_
  rw [Scope.ofDeclared, Scope.ofDeclared, Model.class_eq_some_iff hnames,
    Model.class_eq_some_iff hnames', hperm.mem_iff]

theorem findsAlike_rearranged (haccepted : Accepted stamp d) :
    (Scope.ofDeclared stamp d).FindsAlike (Scope.ofDeclared stamp d') := by
  have hbase (i : NamedInstance) (hi : i ∈ (Scope.ofDeclared stamp d).model.namedInstances) :
      '<' ∉ i.classType.base.toList :=
    bracket_not_mem_of_fitsRole (haccepted.model.namedInstances i hi).classType
  exact
    { positions := by simp only [Scope.ofDeclared, Declared.Index.ofModel, h.namedInstances]
      namedInstances := Model.namedInstances_build_rearranged stamp h
      declared := h.namedInstances
      class_eq := fun i hi =>
        class_rearranged h hd hd' haccepted.classNames_nodup (hbase i hi)
      hasClass := fun i hi => hasClass_rearranged h hd hd' (hbase i hi)
      hasInterface := fun i hi => hasInterface_rearranged h hd hd' (hbase i hi)
      hasInterfaceType := fun i hi t ht => hasInterface_rearranged h hd hd'
        (bracket_not_mem_of_fitsRole ((haccepted.model.namedInstances i hi).interfaceType t ht)) }

/-- Of declarations that are accepted the checks note the same in any order. -/
theorem notes_rearranged (haccepted : Accepted stamp d) (hsound' : d'.IsSound) :
    (notes (Scope.ofDeclared stamp d)).Perm (notes (Scope.ofDeclared stamp d')) := by
  have hbuilt' : Note.NoErrors (Model.build stamp d').notes := fun n hn =>
    haccepted.built n ((Model.notes_build_rearranged stamp h).mem_iff.mpr hn)
  have hinstances : instanceCollisions (Scope.ofDeclared stamp d').model =
      instanceCollisions (Scope.ofDeclared stamp d).model := by
    unfold instanceCollisions namedOnes
    rw [Scope.ofDeclared, Scope.ofDeclared, Model.namedInstances_build_rearranged stamp h]
  have hnames := (Model.noErrors_nameNotes_iff stamp haccepted.declared haccepted.model).mp
    ⟨haccepted.typeCollisions, ((noErrors_notes _).mp haccepted.checked).2.1,
      haccepted.invokerKeyNotes⟩
  obtain ⟨htypes', -, hkeys'⟩ :
      Note.NoErrors (typeCollisions (Scope.ofDeclared stamp d').model) ∧
        Note.NoErrors (instanceCollisions (Scope.ofDeclared stamp d').model) ∧
        Note.NoErrors (invokerKeyNotes (Scope.ofDeclared stamp d').model) :=
    (Model.noErrors_nameNotes_iff stamp hsound' (Model.build_sound stamp hsound' hbuilt')).mpr
      (h.hasDistinctNames hnames)
  have hfinds := findsAlike_rearranged h hd hd' haccepted
  -- No collision and no shared key is noted in either order.
  rw [notes, notes, typeCollisions_eq_nil haccepted.typeCollisions, typeCollisions_eq_nil htypes',
    invokerKeyNotes_eq_nil haccepted.invokerKeyNotes, invokerKeyNotes_eq_nil hkeys', hinstances,
    orderingNotes_eq hfinds, wiringNotes_eq hfinds]
  refine .append_right _ (.append_right _ (.append_left _ ?_))
  -- Classes are checked one by one, and instances do not move.
  have hexposed : ∀ ns ∈ d'.namespaces, ∀ c ∈ ns.classes,
      exposedInterfaceNotes (Scope.ofDeclared stamp d') c =
        exposedInterfaceNotes (Scope.ofDeclared stamp d) c := by
    intro ns hns c hc
    unfold exposedInterfaceNotes
    cases hr : c.interfaceRef with
    | none => rfl
    | some r =>
      have hfits := ((hsound'.namespaces ns hns).classes c hc).interfaceRef r hr
      dsimp only
      rw [hasInterface_rearranged h hd hd' hfits.bracket_not_mem]
  have hclasses : (d.namespaces.flatMap fun ns =>
        ns.classes.flatMap (exposedInterfaceNotes (Scope.ofDeclared stamp d))).Perm
      (d'.namespaces.flatMap fun ns =>
        ns.classes.flatMap (exposedInterfaceNotes (Scope.ofDeclared stamp d'))) := by
    rw [List.flatMap_congr fun ns hns => List.flatMap_congr (hexposed ns hns)]
    exact h.namespaces.flatMap_perm fun ns ns' hns => hns.classes.flatMap_right _
  unfold resolutionNotes
  rw [hfinds.namedInstances, hfinds.declared]
  refine .append hclasses (.of_eq (List.flatMap_congr fun p hp => ?_))
  exact (instanceTypeNotes_eq hfinds (List.of_mem_zip hp).1 p.2).symm

end

end Check

/-! ## The verdict -/

/-- What a diagnostic says, wherever it is. -/
def Diagnostic.said (d : Diagnostic) : Code × String :=
  (d.code, d.message)

theorem Note.said_diagnostics (notes : List Note) :
    (notes.map Note.diagnostic).map Diagnostic.said =
      (notes.map Note.finding).map fun f => (f.code, f.message) := by
  rw [List.map_map, List.map_map]
  rfl

/-- Whether something is an error depends on what was found. -/
theorem Note.noErrors_iff_of_findings {as bs : List Note}
    (h : (as.map Note.finding).Perm (bs.map Note.finding)) : NoErrors as ↔ NoErrors bs := by
  have hfindings (notes : List Note) :
      NoErrors notes ↔ ∀ f ∈ notes.map Note.finding, f.isError = false := by
    rw [List.forall_mem_map]
    rfl
  rw [hfindings, hfindings]
  exact forall_congr' fun f => imp_congr_left h.mem_iff

namespace Model

/-- The verdict on both models is the same, and if code may be generated from them, their
diagnostics say the same in any order. -/
structure JudgedAlike (m m' : Model) : Prop where
  isGeneratable : m'.isGeneratable = m.isGeneratable
  diagnostics : m.isGeneratable = true →
    (m.diagnostics.map Diagnostic.said).Perm (m'.diagnostics.map Diagnostic.said)

/-- A diagnostic on a document is as severe as its code. -/
theorem severity_of_mem_diagnostics {options : Options} {source : String} {root : Node}
    {d : Diagnostic} (h : d ∈ (ofNode options source root).diagnostics) :
    d.severity = d.code.severity := by
  obtain ⟨notes, -, hdiagnostics, -⟩ := ofNode_blank options source root
  rw [hdiagnostics] at h
  obtain ⟨n, -, rfl⟩ := List.mem_map.mp h
  rfl

/-- Whether something said is an error depends on its code. -/
theorem hasErrors_ofNode (options : Options) (source : String) (root : Node) :
    Diagnostic.hasErrors (ofNode options source root).diagnostics =
      ((ofNode options source root).diagnostics.map Diagnostic.said).any
        fun said => said.1.severity = .error := by
  rw [Bool.eq_iff_iff, Diagnostic.hasErrors, List.any_map, List.any_eq_true, List.any_eq_true]
  refine exists_congr fun d => and_congr_right fun hd => ?_
  rw [Diagnostic.isError, severity_of_mem_diagnostics hd]
  rfl

theorem isGeneratable_of_said (options : Options) (source : String) {root root' : Node}
    (h : ((ofNode options source root).diagnostics.map Diagnostic.said).Perm
      ((ofNode options source root').diagnostics.map Diagnostic.said)) :
    (ofNode options source root').isGeneratable = (ofNode options source root).isGeneratable := by
  rw [isGeneratable, isGeneratable, hasErrors_ofNode, hasErrors_ofNode, h.any_eq]

theorem said_of_isGeneratable (options : Options) (source : String) {root root' : Node}
    (h : root.RearrangesNamespaces root')
    (hgeneratable : (ofNode options source root).isGeneratable = true) :
    ((ofNode options source root).diagnostics.map Diagnostic.said).Perm
      ((ofNode options source root').diagnostics.map Diagnostic.said) := by
  rcases (options.reading source).readDocument_rearranged h with
    ⟨cause, hread, hread'⟩ | ⟨p, q, hread, hread', hmatches⟩
  · rw [ofNode_of_error hread, ofNode_of_error hread']
  have hmarks := Declared.Reading.readDocument_marked _ hread
  have hmarks' := Declared.Reading.readDocument_marked _ hread'
  rw [ofNode_of_ok hread, isGeneratable_ofDeclared_iff] at hgeneratable
  obtain ⟨hclean, hbuilt, hchecked⟩ := hgeneratable
  have hclean' := (Note.noErrors_iff_of_findings hmatches.notes).mp hclean
  have hsound := Declared.Reading.readDocument_sound _ hread hclean
  have hsound' := Declared.Reading.readDocument_sound _ hread' hclean'
  obtain ⟨-, hbuilt₁, hchecked₁⟩ := judge_relocate .pathless (Relocation.pathless_carries _) p.value
  obtain ⟨-, hbuilt₂, hchecked₂⟩ := judge_relocate .pathless (Relocation.pathless_carries _) q.value
  have haccepted : Accepted (options.stamp .transform) (p.value.relocate .pathless) :=
    ⟨hmarks.relocate, hsound.relocate, (Note.noErrors_iff_of_findings hbuilt₁).mp hbuilt,
      (Note.noErrors_iff_of_findings hchecked₁).mp hchecked⟩
  have hbuilt' := (Model.notes_build_rearranged (options.stamp .transform) hmatches.value).map
    Note.finding
  have hchecked' := (Check.notes_rearranged hmatches.value hmarks.relocate hmarks'.relocate
    haccepted hsound'.relocate).map Note.finding
  rw [ofNode_of_ok hread, ofNode_of_ok hread']
  simp only [ofDeclared, Note.said_diagnostics, List.map_append]
  refine .append (.append (List.Perm.map _ hmatches.notes) ?_) ?_
  · exact ((hbuilt₁.trans hbuilt').trans hbuilt₂.symm).map _
  · exact ((hchecked₁.trans hchecked').trans hchecked₂.symm).map _

/-- What is said of a document is said of it without places. -/
theorem said_ofNode_blank (options : Options) (source : String) (root : Node) :
    (ofNode .blank "" root.placeless).diagnostics.map Diagnostic.said =
      (ofNode options source root).diagnostics.map Diagnostic.said := by
  obtain ⟨notes, -, hdiagnostics, hblank⟩ := ofNode_blank options source root
  rw [hblank, hdiagnostics]
  simp only [List.map_map]
  rfl

/-- The verdict on a document does not depend on the order of its namespaces, of the interfaces and
of the classes in them, nor on where they stand in the text. -/
theorem ofNode_judgedAlike (options : Options) (source : String) {root root' : Node}
    (h : root.placeless.RearrangesNamespaces root'.placeless) :
    (ofNode options source root).JudgedAlike (ofNode options source root') := by
  have hsaid {root root' : Node} (h : root.placeless.RearrangesNamespaces root'.placeless)
      (hgeneratable : (ofNode options source root).isGeneratable = true) :
      ((ofNode options source root).diagnostics.map Diagnostic.said).Perm
        ((ofNode options source root').diagnostics.map Diagnostic.said) := by
    rw [← isGeneratable_ofNode_blank] at hgeneratable
    rw [← said_ofNode_blank options source root, ← said_ofNode_blank options source root']
    exact said_of_isGeneratable .blank "" h hgeneratable
  refine ⟨?_, hsaid h⟩
  cases hgeneratable : (ofNode options source root).isGeneratable with
  | true => exact (isGeneratable_of_said options source (hsaid h hgeneratable)).trans hgeneratable
  | false =>
    rw [Bool.eq_false_iff]
    intro hgeneratable'
    have hback := isGeneratable_of_said options source (hsaid h.symm hgeneratable')
    rw [hgeneratable, hgeneratable'] at hback
    exact absurd hback (by decide)

end Model

namespace Sample

/-- A namespace with the types of these names. -/
def pool (interfaces classes : List String) : Node :=
  mapping [("namespaceName", text "Pool"),
    ("interfaces", sequence (interfaces.map fun name => mapping [("interfaceName", text name)])),
    ("classes", sequence (classes.map fun name =>
      mapping [("className", text name), ("initializerParameters", sequence [])]))]

def pooled (namespaces : List Node) : Node :=
  mapping [("codeGen", codeGen), ("namespaces", sequence namespaces),
    ("namedInstances", sequence [firstNode, secondNode (entry "namedInstanceName" "First")])]

def leftFirst : Node :=
  pooled [types, pool ["Left", "Right"] ["Low", "high"]]

def rightFirst : Node :=
  pooled [pool ["Right", "Left"] ["high", "Low"], types]

theorem rearrangesTypes_pool : (pool ["Left", "Right"] ["Low", "high"]).RearrangesTypes
    (pool ["Right", "Left"] ["high", "Low"]) := by
  refine .mapping (.cons (.same _)
    (.cons (.list (by decide) ?_) (.cons (.list (by decide) ?_) .nil)))
  · exact Rearranged.eq_iff.mpr (.swap _ _ _)
  · exact Rearranged.eq_iff.mpr (.swap _ _ _)

theorem rearrangesNamespaces_leftFirst :
    leftFirst.placeless.RearrangesNamespaces rightFirst.placeless := by
  have hplaceless : leftFirst.placeless = leftFirst ∧ rightFirst.placeless = rightFirst :=
    ⟨rfl, rfl⟩
  rw [hplaceless.1, hplaceless.2]
  refine .mapping (.cons (.same _) (.cons (.list (by decide) ?_) (.cons (.same _) .nil)))
  exact ⟨[pool ["Left", "Right"] ["Low", "high"], types], .swap _ _ _,
    .cons rearrangesTypes_pool (.cons (.same _) .nil)⟩

end Sample

namespace Model

/-- Both documents are accepted. The notes on the naming of three types stand in another order. -/
theorem leftFirst_judgedAlike :
    (ofNode Sample.options "pool" Sample.leftFirst).isGeneratable = true ∧
    (ofNode Sample.options "pool" Sample.leftFirst).diagnostics.map Diagnostic.said ≠
      (ofNode Sample.options "pool" Sample.rightFirst).diagnostics.map Diagnostic.said ∧
    (ofNode Sample.options "pool" Sample.leftFirst).JudgedAlike
      (ofNode Sample.options "pool" Sample.rightFirst) :=
  ⟨by decide +kernel, by decide +kernel,
    ofNode_judgedAlike Sample.options "pool" Sample.rearrangesNamespaces_leftFirst⟩

end Model

end DependencyWiring
