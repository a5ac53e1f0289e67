import DependencyWiring.Proofs.CleanBuilding

/-!
# Sound models

Every declaration becomes one entity, and the names of an entity are computed from those of its
declaration alone. Sound declarations that are built without an error give a sound model: all names
in it are names, and the parameters of a class are distinct.
-/
namespace DependencyWiring

open Report

/-! ## What is built -/

namespace Model

variable (stamp : Stamp)

@[simp] theorem namespaces_build (d : Declared.Model) :
    (build stamp d).value.namespaces =
      d.namespaces.map fun ns => (buildNamespace stamp ns).value := by
  simp [build]

@[simp] theorem namedInstances_build (d : Declared.Model) :
    (build stamp d).value.namedInstances =
      d.namedInstances.map fun i => (buildNamedInstance stamp i).value := by
  simp [build]

@[simp] theorem interfaces_buildNamespace (d : Declared.Namespace) :
    (buildNamespace stamp d).value.interfaces =
      d.interfaces.map fun i => (buildInterface stamp d.name.value i).value := by
  simp [buildNamespace]

@[simp] theorem classes_buildNamespace (d : Declared.Namespace) :
    (buildNamespace stamp d).value.classes =
      d.classes.map fun c => (buildClass stamp d.name.value c).value := by
  simp [buildNamespace]

@[simp] theorem name_buildParameter (d : Declared.Parameter) :
    (buildParameter stamp d).value.name = d.name.value := rfl

@[simp] theorem value_buildParameters (className : String) (seen : List String)
    (ds : List Declared.Parameter) :
    (buildParameters stamp className seen ds).value =
      ds.map fun d => (buildParameter stamp d).value := by
  induction ds generalizing seen with
  | nil => rfl
  | cons d ds ih => simp [buildParameters, ih]

theorem type_buildParameter (d : Declared.Parameter) :
    (buildParameter stamp d).value.type = (parameterType d).value.1 := rfl

/-- A parameter is an interface exactly when it names one. -/
theorem type_eq_interfaceType_iff {d : Declared.Parameter} {t : TypeRef} :
    (buildParameter stamp d).value.type = .interfaceType t ↔
      ∃ r ∈ d.interfaceRef, r.resolved = t := by
  rw [type_buildParameter, parameterType]
  cases d.classRef <;> cases d.interfaceRef <;> simp

theorem parameters_buildClass (namespaceName : String) (d : Declared.Class) :
    (buildClass stamp namespaceName d).value.parameters =
      (d.parameters.getD []).map fun p => (buildParameter stamp p).value := by
  simp [buildClass]

@[simp] theorem classType_buildNamedInstance (d : Declared.NamedInstance) :
    (buildNamedInstance stamp d).value.classType = d.classRef.resolved := rfl

@[simp] theorem interfaceType_buildNamedInstance (d : Declared.NamedInstance) :
    (buildNamedInstance stamp d).value.interfaceType =
      d.interfaceRef.map Declared.Reference.resolved := rfl

theorem isPlaceholder_buildNamedInstance {d : Declared.NamedInstance} (hd : d.IsSound) :
    (buildNamedInstance stamp d).value.isPlaceholder = false :=
  Placeholder.isPlaceholder_of_isSimple hd.name.hasForm

theorem initialization_buildNamedInstance (d : Declared.NamedInstance) :
    (buildNamedInstance stamp d).value.initialization =
      initialization ((d.assignments.getD []).map fun a => (buildAssignment stamp a).value)
        ((d.elements.getD []).map fun e => (buildElement stamp e).value) := by
  simp [buildNamedInstance]

theorem eq_of_initialization_assignments {as items : List Assignment} {es : List Element}
    (h : initialization as es = .assignments items) : items = as := by
  unfold initialization at h
  split at h
  · exact (Initialization.assignments.inj h).symm
  · split at h <;> exact absurd h (by simp)

theorem eq_of_initialization_elements {as : List Assignment} {es items : List Element}
    (h : initialization as es = .elements items) : items = es := by
  unfold initialization at h
  split at h
  · exact absurd h (by simp)
  · split at h
    · exact (Initialization.elements.inj h).symm
    · exact absurd h (by simp)

/-- Every wiring of an instance is that of an entry that the instance declares. -/
theorem exists_entry_of_mem_wirings {d : Declared.NamedInstance} {w : Wiring × Provenance}
    (hw : w ∈ (buildNamedInstance stamp d).value.wirings) :
    (∃ a ∈ d.assignments.getD [], w = ((buildAssignment stamp a).value.wiring,
      (buildAssignment stamp a).value.provenance)) ∨
    ∃ e ∈ d.elements.getD [], w = ((buildElement stamp e).value.wiring,
      (buildElement stamp e).value.provenance) := by
  unfold NamedInstance.wirings at hw
  rw [initialization_buildNamedInstance] at hw
  split at hw
  · simp at hw
  · rename_i items hitems
    rw [eq_of_initialization_assignments hitems, List.map_map] at hw
    obtain ⟨a, ha, rfl⟩ := List.mem_map.mp hw
    exact .inl ⟨a, ha, rfl⟩
  · rename_i items hitems
    rw [eq_of_initialization_elements hitems, List.map_map] at hw
    obtain ⟨e, he, rfl⟩ := List.mem_map.mp hw
    exact .inr ⟨e, he, rfl⟩

/-- An entry is wired to an instance exactly when it names one. -/
theorem buildWiring_eq_instanceOf_iff {value instanceRef : Option Declared.Field}
    {placeholder : Bool} {provenance : Provenance} {site : WiringSite} {target : String} :
    (buildWiring value instanceRef placeholder provenance site).value.1 = .instanceOf target ↔
      ∃ f ∈ instanceRef, f.value = target := by
  cases value <;> cases instanceRef <;> simp [buildWiring]

end Model

/-! ## What is sound -/

structure Interface.IsSound (namespaceName : String) (i : Interface) : Prop where
  name : Name.isSimple i.name = true
  qualifiedName : i.qualifiedName = Name.qualify namespaceName i.name

structure Class.IsSound (namespaceName : String) (c : Class) : Prop where
  name : Name.isSimple c.name = true
  qualifiedName : c.qualifiedName = Name.qualify namespaceName c.name
  effectiveReturnType : c.effectiveReturnType = c.interfaceName.getD c.qualifiedName
  parameters : (c.parameters.map Parameter.name).Nodup

structure Namespace.IsSound (ns : Namespace) : Prop where
  name : Name.isSimpleOrQualified ns.name = true
  interfaces : ∀ i ∈ ns.interfaces, i.IsSound ns.name
  classes : ∀ c ∈ ns.classes, c.IsSound ns.name

structure NamedInstance.IsSound (i : NamedInstance) : Prop where
  name : Name.isSimple i.name = true
  classType : Declared.Reading.fitsRole i.classType .classType = true
  interfaceType : ∀ t ∈ i.interfaceType, Declared.Reading.fitsRole t .interfaceType = true
  parameterNames : ∀ items, i.initialization = .assignments items →
    ∀ a ∈ items, Name.isSimple a.parameterName = true
  targets : ∀ w ∈ i.wirings, ∀ t, w.1 = .instanceOf t → Name.isSimple t = true

structure Model.IsSound (m : Model) : Prop where
  namespaces : ∀ ns ∈ m.namespaces, ns.IsSound
  namedInstances : ∀ i ∈ m.namedInstances, i.IsSound

namespace Model

variable (stamp : Stamp)

theorem buildClass_sound {ns : String} {d : Declared.Class} (hd : d.IsSound)
    (h : (buildClass stamp ns d).IsClean) : (buildClass stamp ns d).value.IsSound ns := by
  refine ⟨hd.name.hasForm, rfl, rfl, ?_⟩
  simpa [buildClass, Function.comp_def] using ((isClean_buildClass stamp hd).mp h).names

theorem buildNamespace_sound {d : Declared.Namespace} (hd : d.IsSound)
    (h : (buildNamespace stamp d).IsClean) : (buildNamespace stamp d).value.IsSound := by
  simp only [buildNamespace, isClean_bind, isClean_forEach] at h
  obtain ⟨-, -, -, hclasses, -⟩ := h
  refine ⟨hd.name.hasForm, ?_, ?_⟩
  · rw [interfaces_buildNamespace]
    intro i hi
    obtain ⟨e, he, rfl⟩ := List.mem_map.mp hi
    exact ⟨(hd.interfaces e he).name.hasForm, rfl⟩
  · rw [classes_buildNamespace]
    intro c hc
    obtain ⟨e, he, rfl⟩ := List.mem_map.mp hc
    exact buildClass_sound stamp (hd.classes e he) (hclasses e he)

theorem buildNamedInstance_sound {d : Declared.NamedInstance} (hd : d.IsSound) :
    (buildNamedInstance stamp d).value.IsSound := by
  refine ⟨hd.name.hasForm, hd.classRef.fitsRole, ?_, ?_, ?_⟩
  · rw [interfaceType_buildNamedInstance]
    intro t ht
    obtain ⟨ref, href, rfl⟩ := Option.map_eq_some_iff.mp ht
    exact (hd.interfaceRef ref href).fitsRole
  · intro items hitems a ha
    rw [initialization_buildNamedInstance] at hitems
    rw [eq_of_initialization_assignments hitems] at ha
    obtain ⟨e, he, rfl⟩ := List.mem_map.mp ha
    exact (hd.assignments e he).parameterName.hasForm
  · intro w hw t ht
    rcases exists_entry_of_mem_wirings stamp hw with ⟨a, ha, rfl⟩ | ⟨e, he, rfl⟩
    · obtain ⟨f, hf, rfl⟩ := buildWiring_eq_instanceOf_iff.mp ht
      exact ((hd.assignments a ha).instanceRef f hf).hasForm
    · obtain ⟨f, hf, rfl⟩ := buildWiring_eq_instanceOf_iff.mp ht
      exact ((hd.elements e he).instanceRef f hf).hasForm

theorem build_sound {d : Declared.Model} (hd : d.IsSound) (h : (build stamp d).IsClean) :
    (build stamp d).value.IsSound := by
  simp only [build, isClean_bind, isClean_forEach] at h
  obtain ⟨-, hnamespaces, -, -⟩ := h
  refine ⟨?_, ?_⟩
  · rw [namespaces_build]
    intro ns hns
    obtain ⟨e, he, rfl⟩ := List.mem_map.mp hns
    exact buildNamespace_sound stamp (hd.namespaces e he) (hnamespaces e he)
  · rw [namedInstances_build]
    intro i hi
    obtain ⟨e, he, rfl⟩ := List.mem_map.mp hi
    exact buildNamedInstance_sound stamp (hd.namedInstances e he)

end Model

end DependencyWiring
