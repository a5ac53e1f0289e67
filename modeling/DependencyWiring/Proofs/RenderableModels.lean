import DependencyWiring.Proofs.AcceptedDocuments
import DependencyWiring.Proofs.DeclarationGrammar
import DependencyWiring.Proofs.TypeTokens

/-!
# Renderable models

Malformed text and placeholders stay in the model of a document, so that a tool can show all of it.
A renderer that takes generatable models only meets none of them: every name it is given is an
identifier, every base of a type is of the kind its place asks for, every type is read back from its
token, and only an array has elements.
-/
namespace DependencyWiring

open Report

/-! ## What a renderer may rely on -/

/-- The type is read back from its token. In particular it is no array of nullable elements. -/
structure TypeRef.IsSpelled (t : TypeRef) : Prop where
  parse_token : TypeRef.parse t.token = .ok t
  notNullableElements : ¬(t.isArray = true ∧ t.isElementNullable = true)

structure CodeGen.IsRenderable (g : CodeGen) : Prop where
  registryClassName : Name.isSimple g.registryClassName = true
  namespaceName : Name.isSimpleOrQualified g.namespaceName = true
  initializerName : Name.isSimple g.initializerName = true

structure Interface.IsRenderable (i : Interface) : Prop where
  name : Name.isSimple i.name = true
  qualifiedName : Name.isQualified i.qualifiedName = true

/-- A parameter takes a primitive, or an interface that is none. -/
structure Parameter.IsRenderable (p : Parameter) : Prop where
  name : Name.isSimple p.name = true
  classType : ∀ t, p.type = .classType t → Name.isPrimitive t.base = true
  interfaceType : ∀ t, p.type = .interfaceType t →
    Name.isPrimitive t.base = false ∧ Name.isQualified t.base = true
  type : p.type.type.IsSpelled

structure Class.IsRenderable (c : Class) : Prop where
  name : Name.isSimple c.name = true
  qualifiedName : Name.isQualified c.qualifiedName = true
  interfaceName : ∀ base ∈ c.interfaceName, Name.isQualified base = true
  effectiveReturnType : Name.isQualified c.effectiveReturnType = true
  parameters : ∀ p ∈ c.parameters, p.IsRenderable

structure Namespace.IsRenderable (ns : Namespace) : Prop where
  name : Name.isSimpleOrQualified ns.name = true
  interfaces : ∀ i ∈ ns.interfaces, i.IsRenderable
  classes : ∀ c ∈ ns.classes, c.IsRenderable

structure NamedInstance.IsRenderable (i : NamedInstance) : Prop where
  name : Name.isSimple i.name = true
  classBase : Name.isPrimitive i.classType.base = true ∨ Name.isQualified i.classType.base = true
  classType : i.classType.IsSpelled
  interfaceBase : ∀ t ∈ i.interfaceType,
    Name.isPrimitive t.base = false ∧ Name.isQualified t.base = true
  interfaceType : ∀ t ∈ i.interfaceType, t.IsSpelled
  parameterNames : ∀ items, i.initialization = .assignments items →
    ∀ a ∈ items, Name.isSimple a.parameterName = true
  targets : ∀ w ∈ i.wirings, ∀ target, w.1 = .instanceOf target → Name.isSimple target = true
  elements : ∀ items, i.initialization = .elements items → i.classType.isArray = true

structure Model.IsRenderable (m : Model) : Prop where
  codeGen : m.codeGen.IsRenderable
  namespaces : ∀ ns ∈ m.namespaces, ns.IsRenderable
  namedInstances : ∀ i ∈ m.namedInstances, i.IsRenderable

/-! ## References -/

namespace Declared.Reference.Fits

variable {r : Declared.Reference}

theorem isSpelled {role : ReferenceRole} (h : r.Fits role) : r.resolved.IsSpelled := by
  refine ⟨TypeRef.parse_token_of_parse h.parsed, ?_⟩
  rintro ⟨harray, helement⟩
  have hwf := (TypeRef.parse_eq_ok_iff.mp h.parsed).2
  rw [hwf.element helement] at harray
  exact absurd harray (by decide)

/-- A reference that was accepted is one that its key asks for. -/
theorem suits {role : ReferenceRole} (h : r.Fits role) : Grammar.Suits role r.resolved :=
  (Reading.fitsRole_iff _ _).mp h.fitsRole

end Declared.Reference.Fits

/-! ## What is built -/

namespace Model

variable (stamp : Stamp)

theorem buildCodeGen_renderable {d : Declared.CodeGen} (hd : d.IsSound) :
    (buildCodeGen stamp d).value.IsRenderable :=
  ⟨hd.registryClassName.hasForm, hd.namespaceName.hasForm, hd.initializerName.hasForm⟩

theorem buildInterface_renderable {namespaceName : String} {d : Declared.Interface}
    (hns : Name.isSimpleOrQualified namespaceName = true) (hd : d.IsSound) :
    (buildInterface stamp namespaceName d).value.IsRenderable :=
  ⟨hd.name.hasForm, Name.isQualified_qualify hns hd.name.hasForm⟩

/-- The one type that a parameter declares is its type. -/
theorem buildParameter_renderable {d : Declared.Parameter} (hd : d.IsSound)
    (hone : Declared.ExactlyOne d.classRef d.interfaceRef) :
    (buildParameter stamp d).value.IsRenderable := by
  rcases Declared.exactlyOne_iff.mp hone with ⟨r, hr, hnone⟩ | ⟨r, hnone, hr⟩
  · have htype : (buildParameter stamp d).value.type = .classType r.resolved := by
      simp [type_buildParameter, parameterType, hr, hnone]
    refine ⟨hd.name.hasForm, ?_, ?_, ?_⟩
    · rw [htype]
      rintro t ⟨⟩
      exact hd.primitive hnone r hr
    · rw [htype]
      rintro t ⟨⟩
    · rw [htype]
      exact (hd.classRef r hr).isSpelled
  · have htype : (buildParameter stamp d).value.type = .interfaceType r.resolved := by
      simp [type_buildParameter, parameterType, hr, hnone]
    refine ⟨hd.name.hasForm, ?_, ?_, ?_⟩
    · rw [htype]
      rintro t ⟨⟩
    · rw [htype]
      rintro t ⟨⟩
      exact (hd.interfaceRef r hr).suits
    · rw [htype]
      exact (hd.interfaceRef r hr).isSpelled

theorem buildClass_renderable {namespaceName : String} {d : Declared.Class}
    (hns : Name.isSimpleOrQualified namespaceName = true) (hd : d.IsSound)
    (hc : d.IsConsistent) : (buildClass stamp namespaceName d).value.IsRenderable := by
  have hname := Name.isQualified_qualify hns hd.name.hasForm
  have hinterface : ∀ base ∈ d.interfaceRef.map fun r => r.resolved.base,
      Name.isQualified base = true := by
    intro base hbase
    obtain ⟨r, hr, rfl⟩ := Option.map_eq_some_iff.mp hbase
    exact (hd.interfaceRef r hr).suits.2.2
  refine ⟨hd.name.hasForm, hname, hinterface, ?_, ?_⟩
  · show Name.isQualified ((d.interfaceRef.map fun r => r.resolved.base).getD _) = true
    cases hr : d.interfaceRef with
    | none => exact hname
    | some r => exact hinterface _ (by simp [hr])
  · rw [parameters_buildClass]
    intro p hp
    obtain ⟨e, he, rfl⟩ := List.mem_map.mp hp
    exact buildParameter_renderable stamp (hd.parameters e he) (hc.types e he)

theorem buildNamespace_renderable {d : Declared.Namespace} (hd : d.IsSound)
    (hc : ∀ c ∈ d.classes, c.IsConsistent) :
    (buildNamespace stamp d).value.IsRenderable := by
  refine ⟨hd.name.hasForm, ?_, ?_⟩
  · rw [interfaces_buildNamespace]
    intro i hi
    obtain ⟨e, he, rfl⟩ := List.mem_map.mp hi
    exact buildInterface_renderable stamp hd.name.hasForm (hd.interfaces e he)
  · rw [classes_buildNamespace]
    intro c hc'
    obtain ⟨e, he, rfl⟩ := List.mem_map.mp hc'
    exact buildClass_renderable stamp hd.name.hasForm (hd.classes e he) (hc e he)

/-- An instance with elements declares some. -/
theorem ne_nil_of_initialization_elements {as : List Assignment} {es items : List Element}
    (h : initialization as es = .elements items) : es ≠ [] := by
  unfold initialization at h
  split at h
  · exact absurd h (by simp)
  · split at h
    · assumption
    · exact absurd h (by simp)

theorem buildNamedInstance_renderable {d : Declared.NamedInstance} (hd : d.IsSound)
    (hc : d.IsConsistent) : (buildNamedInstance stamp d).value.IsRenderable := by
  have hsound := buildNamedInstance_sound stamp hd
  refine ⟨hsound.name, hd.classRef.suits, hd.classRef.isSpelled, ?_, ?_,
    hsound.parameterNames, hsound.targets, ?_⟩
  · rw [interfaceType_buildNamedInstance]
    intro t ht
    obtain ⟨r, hr, rfl⟩ := Option.map_eq_some_iff.mp ht
    exact (hd.interfaceRef r hr).suits
  · rw [interfaceType_buildNamedInstance]
    intro t ht
    obtain ⟨r, hr, rfl⟩ := Option.map_eq_some_iff.mp ht
    exact (hd.interfaceRef r hr).isSpelled
  · intro items hitems
    rw [initialization_buildNamedInstance] at hitems
    exact hc.array (by simpa using ne_nil_of_initialization_elements hitems)

theorem build_renderable {d : Declared.Model} (hd : d.IsSound) (hc : d.IsConsistent) :
    (build stamp d).value.IsRenderable := by
  refine ⟨buildCodeGen_renderable stamp hd.codeGen, ?_, ?_⟩
  · rw [namespaces_build]
    intro ns hns
    obtain ⟨e, he, rfl⟩ := List.mem_map.mp hns
    exact buildNamespace_renderable stamp (hd.namespaces e he) (hc.classes e he)
  · rw [namedInstances_build]
    intro i hi
    obtain ⟨e, he, rfl⟩ := List.mem_map.mp hi
    exact buildNamedInstance_renderable stamp (hd.namedInstances e he) (hc.namedInstances e he)

/-- Whatever a document holds, what a renderer may see of it can be rendered. -/
theorem ofNode_isRenderable {options : Options} {source : String} {root : Node}
    (h : (ofNode options source root).isGeneratable = true) :
    (ofNode options source root).IsRenderable := by
  obtain ⟨d, haccepted, diagnostics, he⟩ := exists_accepted h
  have hconsistent := (isClean_build _ haccepted.declared).mp haccepted.built
  have hbuilt := build_renderable (options.stamp .transform) haccepted.declared hconsistent
  rw [he]
  exact ⟨hbuilt.codeGen, hbuilt.namespaces, hbuilt.namedInstances⟩

theorem linked_isRenderable : (Sample.linked "First").IsRenderable :=
  ofNode_isRenderable Sample.isGeneratable_linked

end Model

end DependencyWiring
