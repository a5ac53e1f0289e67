import DependencyWiring.Proofs.DocumentRules

/-!
# Resolved references

A model refers to types by qualified names. Some references are checked where they are declared,
others where they are built, and a reference that was refused before is passed over. In a
generatable model every name that is referred to is that of a type of the model, unless it is a
primitive one.
-/
namespace DependencyWiring

open Check

namespace Model

/-! ## What is promised -/

def DeclaresClass (m : Model) (qualifiedName : String) : Prop :=
  ∃ c ∈ m.classes, c.qualifiedName = qualifiedName

def DeclaresInterface (m : Model) (qualifiedName : String) : Prop :=
  ∃ i ∈ m.interfaces, i.qualifiedName = qualifiedName

/-- The type is primitive or that of a class, or an array of what exposes an interface. -/
def ResolvesClassType (m : Model) (t : TypeRef) : Prop :=
  t.isPrimitive = true ∨ m.DeclaresClass t.base ∨ (t.isArray = true ∧ m.DeclaresInterface t.base)

/-- What classes expose is declared, and so are the types of instances. -/
structure ResolvesReferences (m : Model) : Prop where
  exposed : ∀ c ∈ m.classes, ∀ base, c.interfaceName = some base → m.DeclaresInterface base
  classTypes : ∀ i ∈ m.namedInstances, m.ResolvesClassType i.classType
  interfaceTypes : ∀ i ∈ m.namedInstances, ∀ t, i.interfaceType = some t →
    m.DeclaresInterface t.base

/-! ## Declarations and what is built from them -/

section

variable (stamp : Stamp) {d : Declared.Model} {q : String}

theorem declaresClass_build_iff :
    (build stamp d).value.DeclaresClass q ↔ ∃ c, d.DeclaresClass q c := by
  simp only [DeclaresClass, mem_classes_build]
  constructor
  · rintro ⟨_, ⟨ns, hns, c, hc, rfl⟩, hname⟩
    exact ⟨c, ns, hns, hc, hname⟩
  · rintro ⟨c, ns, hns, hc, hname⟩
    exact ⟨_, ⟨ns, hns, c, hc, rfl⟩, hname⟩

theorem mem_interfaces_build {i : Interface} : i ∈ (build stamp d).value.interfaces ↔
    ∃ ns ∈ d.namespaces, ∃ e ∈ ns.interfaces,
      (buildInterface stamp ns.name.value e).value = i := by
  simp [interfaces]

theorem declaresInterface_build_iff :
    (build stamp d).value.DeclaresInterface q ↔ d.DeclaresInterface q := by
  simp only [DeclaresInterface, mem_interfaces_build]
  constructor
  · rintro ⟨_, ⟨ns, hns, i, hi, rfl⟩, hname⟩
    exact ⟨ns, hns, i, hi, hname⟩
  · rintro ⟨ns, hns, i, hi, hname⟩
    exact ⟨_, ⟨ns, hns, i, hi, rfl⟩, hname⟩

/-- References of declarations are resolved in the model that is built from them. -/
theorem resolvesReferences_build (h : d.ResolvesTypes) :
    (build stamp d).value.ResolvesReferences := by
  refine ⟨?_, ?_, ?_⟩
  · intro c hc base hbase
    obtain ⟨ns, hns, e, he, rfl⟩ := (mem_classes_build stamp).mp hc
    obtain ⟨r, hr, rfl⟩ := Option.map_eq_some_iff.mp hbase
    exact (declaresInterface_build_iff stamp).mpr (h.classes ns hns e he r hr)
  · intro i hi
    rw [namedInstances_build] at hi
    obtain ⟨e, he, rfl⟩ := List.mem_map.mp hi
    rw [classType_buildNamedInstance, ResolvesClassType, declaresClass_build_iff,
      declaresInterface_build_iff]
    exact (h.namedInstances e he).classRef
  · intro i hi t ht
    rw [namedInstances_build] at hi
    obtain ⟨e, he, rfl⟩ := List.mem_map.mp hi
    rw [interfaceType_buildNamedInstance] at ht
    obtain ⟨r, hr, rfl⟩ := Option.map_eq_some_iff.mp ht
    exact (declaresInterface_build_iff stamp).mpr ((h.namedInstances e he).interfaceRef r hr).1

end

end Model

theorem Accepted.resolvesReferences {stamp : Stamp} {d : Declared.Model} (h : Accepted stamp d) :
    (Scope.ofDeclared stamp d).model.ResolvesReferences :=
  Model.resolvesReferences_build stamp ((noErrors_resolutionNotes_iff stamp h.marks
    h.classNames_nodup h.declared).mp h.resolutionNotes)

namespace Sample

/-- An instance of a primitive class, one of a declared class and one that is an array of what
exposes an interface. The last two declare the interface. -/
def assorted : Node :=
  mapping [("codeGen", codeGen), ("namespaces", sequence [types]),
    ("namedInstances", sequence [
      mapping [("namedInstanceName", text "Count"), ("qualifiedClassName", text "int")],
      mapping [("namedInstanceName", text "First"), ("qualifiedClassName", text "App.Node"),
        ("qualifiedInterfaceName", text "App.INode")],
      mapping [("namedInstanceName", text "Nodes"), ("qualifiedClassName", text "App.INode[]"),
        ("qualifiedInterfaceName", text "App.INode[]"),
        ("elements", sequence [mapping [("namedInstanceName", text "First")]])]])]

theorem isGeneratable_assorted :
    (Model.ofNode options "assorted" assorted).isGeneratable = true := by
  decide +kernel

end Sample

namespace Model

/-- Every reference of a generatable model is resolved in it. -/
theorem ofNode_resolvesReferences {options : Options} {source : String} {root : Node}
    (h : (ofNode options source root).isGeneratable = true) :
    (ofNode options source root).ResolvesReferences := by
  obtain ⟨d, haccepted, diagnostics, he⟩ := exists_accepted h
  have hresolves := haccepted.resolvesReferences
  rw [he]
  exact ⟨hresolves.exposed, hresolves.classTypes, hresolves.interfaceTypes⟩

/-- The references in the sample of an assortment are resolved, and there are all kinds of them. -/
theorem assorted_resolvesReferences :
    ((ofNode Sample.options "assorted" Sample.assorted).namedInstances.map fun i =>
        (i.classType.token, i.interfaceType.map TypeRef.token)) =
      [("int", none), ("App.Node", some "App.INode"), ("App.INode[]", some "App.INode[]")] ∧
    (ofNode Sample.options "assorted" Sample.assorted).ResolvesReferences :=
  ⟨by decide +kernel, ofNode_resolvesReferences Sample.isGeneratable_assorted⟩

end Model

end DependencyWiring
