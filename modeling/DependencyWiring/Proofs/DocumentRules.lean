import DependencyWiring.Proofs.WiringSoundness

/-!
# Rules of names and types

What the declarations of a document owe each other in their names and their types, said of the
declarations as they are authored. The checks of names and types look at the model that is built and
at the index. They find no error exactly when the declarations keep these rules.
-/
namespace DependencyWiring

open Check

/-! ## The rules -/

namespace Declared

/-- The class says that it exposes the interface. -/
def Class.Exposes (c : Class) (base : String) : Prop :=
  ∃ r ∈ c.interfaceRef, r.resolved.base = base

namespace Model

/-- The types by namespace and name, block by block. -/
def typeNames (d : Model) : List (String × String) :=
  d.namespaces.flatMap fun ns =>
    ns.interfaces.map (fun i => (ns.name.value, i.name.value)) ++
      ns.classes.map fun c => (ns.name.value, c.name.value)

/-- The instances by the namespace of their class and by name. -/
def instanceNames (d : Model) : List (String × String) :=
  d.namedInstances.map fun i => (Name.namespaceOf i.classRef.resolved.base, i.name.value)

/-- The qualified names of the classes. -/
def classNames (d : Model) : List String :=
  d.namespaces.flatMap fun ns => ns.classes.map fun c => Name.qualify ns.name.value c.name.value

def DeclaresClass (d : Model) (qualifiedName : String) (c : Class) : Prop :=
  ∃ ns ∈ d.namespaces, c ∈ ns.classes ∧ Name.qualify ns.name.value c.name.value = qualifiedName

def DeclaresInterface (d : Model) (qualifiedName : String) : Prop :=
  ∃ ns ∈ d.namespaces, ∃ i ∈ ns.interfaces,
    Name.qualify ns.name.value i.name.value = qualifiedName

/-- No two types or instances of a namespace share a name, and no two classes a key. -/
structure HasDistinctNames (d : Model) : Prop where
  types : d.typeNames.Nodup
  instances : d.instanceNames.Nodup
  invokerKeys : (d.classNames.map Name.invokerKey).Nodup

/-- The class of an instance is primitive or declared, or an array of a declared interface. An
interface that the instance declares is declared, and is the one that its class exposes. -/
structure ResolvesTypesOf (d : Model) (i : NamedInstance) : Prop where
  classRef : i.classRef.resolved.isPrimitive = true ∨
    (∃ c, d.DeclaresClass i.classRef.resolved.base c) ∨
    (i.classRef.resolved.isArray = true ∧ d.DeclaresInterface i.classRef.resolved.base)
  interfaceRef : ∀ r ∈ i.interfaceRef, d.DeclaresInterface r.resolved.base ∧
    ∀ c, d.DeclaresClass i.classRef.resolved.base c → c.Exposes r.resolved.base

/-- Every type that is referred to is declared. -/
structure ResolvesTypes (d : Model) : Prop where
  classes : ∀ ns ∈ d.namespaces, ∀ c ∈ ns.classes, ∀ r ∈ c.interfaceRef,
    d.DeclaresInterface r.resolved.base
  namedInstances : ∀ i ∈ d.namedInstances, d.ResolvesTypesOf i

end Model

end Declared

/-! ## Names of what is built -/

namespace Model

variable (stamp : Stamp) {d : Declared.Model}

theorem invokerKeys_build :
    (build stamp d).value.classes.map Class.invokerKey = d.classNames.map Name.invokerKey := by
  simp only [classes, Declared.Model.classNames, List.map_flatMap, namespaces_build,
    List.flatMap_map, classes_buildNamespace, List.map_map]
  rfl

theorem map_typeEntries_build (h : (build stamp d).value.IsSound) :
    (typeEntries (build stamp d).value).map (fun e => (e.namespaceName, e.name)) =
      d.typeNames := by
  rw [typeEntries, namespaces_build, List.flatMap_map, List.map_flatMap, Declared.Model.typeNames]
  refine List.flatMap_congr fun ns hns => ?_
  have hsound := h.namespaces (buildNamespace stamp ns).value (by simpa using ⟨ns, hns, rfl⟩)
  rw [typeEntriesOf_eq hsound]
  simp only [interfaces_buildNamespace, classes_buildNamespace, List.map_append, List.map_map]
  rfl

theorem map_namedOnes_build (h : (build stamp d).value.IsSound) :
    (namedOnes (build stamp d).value).map (fun i => (i.namespaceName, i.name)) =
      d.instanceNames := by
  have hall : ∀ i ∈ (build stamp d).value.namedInstances, (!i.isPlaceholder) = true := by
    intro i hi
    simp [NamedInstance.isPlaceholder,
      Placeholder.isPlaceholder_of_isSimple (h.namedInstances i hi).name]
  rw [namedOnes, List.filter_eq_self.mpr hall, namedInstances_build, List.map_map,
    Declared.Model.instanceNames]
  rfl

/-- The checks of names find no error exactly when names are distinct. -/
theorem noErrors_nameNotes_iff (hd : d.IsSound) (h : (build stamp d).value.IsSound) :
    (Note.NoErrors (typeCollisions (build stamp d).value) ∧
      Note.NoErrors (instanceCollisions (build stamp d).value) ∧
      Note.NoErrors (invokerKeyNotes (build stamp d).value)) ↔ d.HasDistinctNames := by
  have htypes := noErrors_typeCollisions_iff (build stamp d).value
  have hinstances := noErrors_instanceCollisions_iff (build stamp d).value
  rw [map_typeEntries_build stamp h] at htypes
  rw [map_namedOnes_build stamp h] at hinstances
  have hkeys : Note.NoErrors (typeCollisions (build stamp d).value) →
      (Note.NoErrors (invokerKeyNotes (build stamp d).value) ↔
        (d.classNames.map Name.invokerKey).Nodup) := by
    intro hnotes
    rw [← invokerKeys_build stamp]
    exact noErrors_invokerKeyNotes_iff h (fun c hc => isSimple_invokerKey_of_mem stamp hd hc)
      ((typeNames_nodup h hnotes).sublist (classNames_sublist _))
  constructor
  · rintro ⟨htype, hinstance, hkey⟩
    exact ⟨htypes.mp htype, hinstances.mp hinstance, (hkeys htype).mp hkey⟩
  · rintro ⟨htype, hinstance, hkey⟩
    exact ⟨htypes.mpr htype, hinstances.mpr hinstance, (hkeys (htypes.mpr htype)).mpr hkey⟩

end Model

/-! ## Types that are referred to -/

theorem exists_mem_zipIdx_iff {α : Type} {as : List α} {P : α → Prop} :
    (∃ p ∈ as.zipIdx, P p.1) ↔ ∃ a ∈ as, P a := by
  constructor
  · rintro ⟨p, hp, hP⟩
    exact ⟨p.1, List.fst_mem_of_mem_zipIdx hp, hP⟩
  · rintro ⟨a, ha, hP⟩
    obtain ⟨i, hi⟩ := List.mem_iff_getElem?.mp ha
    exact ⟨(a, i), List.mem_zipIdx_iff_getElem?.mpr hi, hP⟩

namespace Declared.Index

variable {d : Declared.Model} (hd : d.HasMarks) {q : String} (hq : '<' ∉ q.toList)

include hd hq

theorem hasClass_iff : (ofModel d).hasClass q = true ↔ ∃ c, d.DeclaresClass q c := by
  simp only [hasClass, lookup_classes hd hq, List.isSome_findSome?, List.any_eq_true,
    Option.isSome_map, List.findIdx?_isSome, decide_eq_true_eq, Model.DeclaresClass]
  rw [exists_mem_zipIdx_iff
    (P := fun ns : Namespace => ∃ c ∈ ns.classes, Name.qualify ns.name.value c.name.value = q)]
  constructor
  · rintro ⟨ns, hns, c, hc, hname⟩
    exact ⟨c, ns, hns, hc, hname⟩
  · rintro ⟨c, ns, hns, hc, hname⟩
    exact ⟨ns, hns, c, hc, hname⟩

theorem hasInterface_iff : (ofModel d).hasInterface q = true ↔ d.DeclaresInterface q := by
  simp only [hasInterface, lookup_interfaces hd hq, List.isSome_findSome?, List.any_eq_true,
    Option.isSome_map, List.findIdx?_isSome, decide_eq_true_eq, Model.DeclaresInterface]
  exact exists_mem_zipIdx_iff
    (P := fun ns : Namespace => ∃ i ∈ ns.interfaces, Name.qualify ns.name.value i.name.value = q)

end Declared.Index

namespace Check.Scope

variable (stamp : Stamp) {d : Declared.Model} (hd : d.HasMarks)
  (hnames : ((Model.build stamp d).value.classes.map Class.qualifiedName).Nodup)

include hd hnames

/-- Where names are distinct the index finds the one class of a name. -/
theorem class_eq_some_iff {q : String} (hq : '<' ∉ q.toList) {c : Class} :
    (ofDeclared stamp d).class? q = some c ↔ ∃ ns ∈ d.namespaces, ∃ e ∈ ns.classes,
      Name.qualify ns.name.value e.name.value = q ∧
      (Model.buildClass stamp ns.name.value e).value = c := by
  rw [class_eq stamp hd hq]
  refine (Model.class_eq_some_iff hnames).trans ?_
  simp only [Model.mem_classes_build]
  constructor
  · rintro ⟨⟨ns, hns, e, he, rfl⟩, hname⟩
    exact ⟨ns, hns, e, he, hname, rfl⟩
  · rintro ⟨ns, hns, e, he, hname, rfl⟩
    exact ⟨⟨ns, hns, e, he, rfl⟩, hname⟩

/-- What holds of the class that the index finds is said of the declared one. -/
theorem forall_class_iff {q : String} (hq : '<' ∉ q.toList) {P : Class → Prop}
    {P' : Declared.Class → Prop} (hP : ∀ ns ∈ d.namespaces, ∀ e ∈ ns.classes,
      (P (Model.buildClass stamp ns.name.value e).value ↔ P' e)) :
    (∀ c, (ofDeclared stamp d).class? q = some c → P c) ↔ ∀ e, d.DeclaresClass q e → P' e := by
  simp only [class_eq_some_iff stamp hd hnames hq]
  constructor
  · rintro h e ⟨ns, hns, he, hname⟩
    exact (hP ns hns e he).mp (h _ ⟨ns, hns, e, he, hname, rfl⟩)
  · rintro h c ⟨ns, hns, e, he, hname, rfl⟩
    exact (hP ns hns e he).mpr (h e ⟨ns, hns, he, hname⟩)

end Check.Scope

/-- The base of a reference that was accepted has no bracket in it. -/
theorem Declared.Reference.Fits.bracket_not_mem {r : Declared.Reference} {role : ReferenceRole}
    (h : r.Fits role) : '<' ∉ r.resolved.base.toList :=
  bracket_not_mem_of_fitsRole h.fitsRole

namespace Check

variable (stamp : Stamp) {d : Declared.Model} (hd : d.HasMarks)

include hd

theorem noErrors_exposedInterfaceNotes_iff {c : Declared.Class} (hc : c.IsSound) :
    Note.NoErrors (exposedInterfaceNotes (Scope.ofDeclared stamp d) c) ↔
      ∀ r ∈ c.interfaceRef, d.DeclaresInterface r.resolved.base := by
  unfold exposedInterfaceNotes
  cases hr : c.interfaceRef with
  | none => simp
  | some r =>
    have hfits := hc.interfaceRef r hr
    have hdeclared := Declared.Index.hasInterface_iff hd hfits.bracket_not_mem
    simp [Scope.ofDeclared, hfits.isUsable, Note.noErrors_ite, ← hdeclared]

theorem isDeclaredType_iff {t : TypeRef} (ht : '<' ∉ t.base.toList) :
    isDeclaredType (Scope.ofDeclared stamp d) t = true ↔
      (∃ c, d.DeclaresClass t.base c) ∨ (t.isArray = true ∧ d.DeclaresInterface t.base) := by
  rw [isDeclaredType, Bool.or_eq_true, Bool.and_eq_true]
  exact or_congr (Declared.Index.hasClass_iff hd ht)
    (and_congr_right fun _ => Declared.Index.hasInterface_iff hd ht)

theorem noErrors_classTypeNotes_iff {i : Declared.NamedInstance} (hi : i.IsSound) :
    Note.NoErrors (classTypeNotes (Scope.ofDeclared stamp d)
      (Model.buildNamedInstance stamp i).value i.classRef) ↔
    i.classRef.resolved.isPrimitive = true ∨
      (∃ c, d.DeclaresClass i.classRef.resolved.base c) ∨
      (i.classRef.resolved.isArray = true ∧
        d.DeclaresInterface i.classRef.resolved.base) := by
  rw [← isDeclaredType_iff stamp hd hi.classRef.bracket_not_mem, classTypeNotes,
    Note.noErrors_ite, Model.classType_buildNamedInstance, hi.classRef.isUsable]
  cases i.classRef.resolved.isPrimitive <;> simp

theorem noErrors_interfaceTypeNotes_iff
    (hnames : ((Model.build stamp d).value.classes.map Class.qualifiedName).Nodup)
    {i : Declared.NamedInstance} (hi : i.IsSound) {r : Declared.Reference}
    (hr : i.interfaceRef = some r) :
    Note.NoErrors (interfaceTypeNotes (Scope.ofDeclared stamp d)
      (Model.buildNamedInstance stamp i).value r.resolved r) ↔
    d.DeclaresInterface r.resolved.base ∧
      ∀ c, d.DeclaresClass i.classRef.resolved.base c → c.Exposes r.resolved.base := by
  have hfits := hi.interfaceRef r hr
  have hdeclared := Declared.Index.hasInterface_iff hd hfits.bracket_not_mem
  have hexposed : (∀ c, (Scope.ofDeclared stamp d).class? i.classRef.resolved.base = some c →
      c.interfaceName = some r.resolved.base) ↔
      ∀ c, d.DeclaresClass i.classRef.resolved.base c → c.Exposes r.resolved.base :=
    Scope.forall_class_iff stamp hd hnames hi.classRef.bracket_not_mem
      fun _ _ _ _ => Option.map_eq_some_iff
  rw [← hdeclared, ← hexposed, interfaceTypeNotes, hfits.isUsable,
    Model.classType_buildNamedInstance]
  change _ ↔ (Scope.ofDeclared stamp d).index.hasInterface r.resolved.base = true ∧ _
  cases hinterface : (Scope.ofDeclared stamp d).index.hasInterface r.resolved.base with
  | false => simp
  | true =>
    cases hclass : (Scope.ofDeclared stamp d).class? i.classRef.resolved.base with
    | none => simp
    | some c => by_cases hname : c.interfaceName = some r.resolved.base <;> simp [mismatches, hname]

theorem noErrors_instanceTypeNotes_iff
    (hnames : ((Model.build stamp d).value.classes.map Class.qualifiedName).Nodup)
    {i : Declared.NamedInstance} (hi : i.IsSound) :
    Note.NoErrors (instanceTypeNotes (Scope.ofDeclared stamp d)
      (Model.buildNamedInstance stamp i).value i) ↔ d.ResolvesTypesOf i := by
  have hclass := noErrors_classTypeNotes_iff stamp hd hi
  simp only [instanceTypeNotes, Model.isPlaceholder_buildNamedInstance stamp hi,
    Bool.false_eq_true, if_false, Note.noErrors_append, hclass,
    Model.interfaceType_buildNamedInstance]
  cases hr : i.interfaceRef with
  | none =>
    constructor
    · rintro ⟨hclass, -⟩
      exact ⟨hclass, by simp [hr]⟩
    · rintro ⟨hclass, -⟩
      exact ⟨hclass, Note.noErrors_nil⟩
  | some r =>
    have hinterface := noErrors_interfaceTypeNotes_iff stamp hd hnames hi hr
    constructor
    · rintro ⟨hclass, hnotes⟩
      exact ⟨hclass, fun r' hr' => Option.some.inj (hr.symm.trans hr') ▸ hinterface.mp hnotes⟩
    · rintro ⟨hclass, hresolved⟩
      exact ⟨hclass, hinterface.mpr (hresolved r hr)⟩

/-- The checks of references to types find no error exactly when all of them are resolved. -/
theorem noErrors_resolutionNotes_iff
    (hnames : ((Model.build stamp d).value.classes.map Class.qualifiedName).Nodup)
    (hsound : d.IsSound) :
    Note.NoErrors (resolutionNotes (Scope.ofDeclared stamp d)) ↔ d.ResolvesTypes := by
  have hzip : (Scope.ofDeclared stamp d).model.namedInstances.zip d.namedInstances =
      d.namedInstances.map fun i => ((Model.buildNamedInstance stamp i).value, i) := by
    simp only [Scope.ofDeclared, Model.namedInstances_build, List.map_prod_right_eq_zip]
  have hclasses : (∀ ns ∈ d.namespaces, ∀ c ∈ ns.classes,
      Note.NoErrors (exposedInterfaceNotes (Scope.ofDeclared stamp d) c)) ↔
      ∀ ns ∈ d.namespaces, ∀ c ∈ ns.classes, ∀ r ∈ c.interfaceRef,
        d.DeclaresInterface r.resolved.base :=
    forall₂_congr fun ns hns => forall₂_congr fun c hc =>
      noErrors_exposedInterfaceNotes_iff stamp hd ((hsound.namespaces ns hns).classes c hc)
  have hinstances : (∀ i ∈ d.namedInstances, Note.NoErrors (instanceTypeNotes
      (Scope.ofDeclared stamp d) (Model.buildNamedInstance stamp i).value i)) ↔
      ∀ i ∈ d.namedInstances, d.ResolvesTypesOf i :=
    forall₂_congr fun i hi =>
      noErrors_instanceTypeNotes_iff stamp hd hnames (hsound.namedInstances i hi)
  have hdeclared : (Scope.ofDeclared stamp d).declared = d := rfl
  simp only [resolutionNotes, hdeclared, hzip, Note.noErrors_append, Note.noErrors_flatMap,
    List.forall_mem_map, hclasses, hinstances]
  constructor
  · rintro ⟨hclasses, hinstances⟩
    exact ⟨hclasses, hinstances⟩
  · rintro ⟨hclasses, hinstances⟩
    exact ⟨hclasses, hinstances⟩

end Check

end DependencyWiring
