import DependencyWiring.Proofs.DeclaredParts
import DependencyWiring.Proofs.ResolvedReferences

/-!
# Declared interfaces

An instance may declare the interface that it is wired as, and a declared class that does not expose
it is reported. A class that is not declared is passed over here, because it is refused when classes
are resolved. Primitive classes and arrays of interfaces are not refused there, though, and so they
may declare an interface that has nothing to do with them.
-/
namespace DependencyWiring

open Check

/-! ## What is promised -/

namespace Model

/-- A class of the type exposes the interface, or the type is an array of it. -/
def Provides (m : Model) (t : TypeRef) (base : String) : Prop :=
  (∃ c ∈ m.classes, c.qualifiedName = t.base ∧ c.interfaceName = some base) ∨
    (t.isArray = true ∧ t.base = base)

/-- An instance provides the interface that it declares exactly when its class is declared or it is
an array of this interface. -/
def ComparesInterfaces (m : Model) : Prop :=
  ∀ i ∈ m.namedInstances, ∀ t, i.interfaceType = some t →
    (m.Provides i.classType t.base ↔
      m.DeclaresClass i.classType.base ∨ i.classType.base = t.base)

/-- An instance whose class does not expose the declared interface has an error at its path or below
it. -/
def ReportsMismatches (m : Model) (source : String) : Prop :=
  ∀ i ∈ m.namedInstances, ∀ t, i.interfaceType = some t →
    ∀ c, m.class? i.classType.base = some c → c.interfaceName ≠ some t.base →
      Diagnostic.HasErrorWithin m.diagnostics (source ++ "#" ++ i.provenance.origin.path)

end Model

/-! ## Accepted instances -/

/-- A name of an interface is not primitive, so what has it for a base is an array or a class. -/
theorem Accepted.provides_iff {stamp : Stamp} {d : Declared.Model} (h : Accepted stamp d)
    {i : NamedInstance} (hi : i ∈ (Scope.ofDeclared stamp d).model.namedInstances) {t : TypeRef}
    (ht : i.interfaceType = some t) :
    (Scope.ofDeclared stamp d).model.Provides i.classType t.base ↔
      (Scope.ofDeclared stamp d).model.DeclaresClass i.classType.base ∨
        i.classType.base = t.base := by
  have hexposed : (Scope.ofDeclared stamp d).model.DeclaresClass i.classType.base →
      (Scope.ofDeclared stamp d).model.Provides i.classType t.base := by
    rintro ⟨c, hc, hname⟩
    exact .inl ⟨c, hc, hname, h.interfaceName_eq hi ht hc hname⟩
  constructor
  · rintro (⟨c, hc, hname, -⟩ | ⟨-, hbase⟩)
    · exact .inl ⟨c, hc, hname⟩
    · exact .inr hbase
  · rintro (hclass | hbase)
    · exact hexposed hclass
    · rcases h.resolvesReferences.classTypes i hi with hprimitive | hclass | ⟨harray, -⟩
      · have hinterface : t.isPrimitive = false ∧ Name.isQualified t.base = true := by
          simpa [Declared.Reading.fitsRole] using
            (h.model.namedInstances i hi).interfaceType t ht
        rw [TypeRef.isPrimitive, hbase] at hprimitive
        exact absurd (hprimitive.symm.trans hinterface.1) (by decide)
      · exact hexposed hclass
      · exact .inr ⟨harray, hbase⟩

/-! ## Mismatches -/

namespace Check

variable (stamp : Stamp) {d : Declared.Model} {e : Declared.NamedInstance}

theorem instanceTypeNotes_subset (he : e ∈ d.namedInstances) :
    instanceTypeNotes (Scope.ofDeclared stamp d) (Model.buildNamedInstance stamp e).value e ⊆
      notes (Scope.ofDeclared stamp d) := by
  intro n hn
  have hpair : ((Model.buildNamedInstance stamp e).value, e) ∈
      (Scope.ofDeclared stamp d).model.namedInstances.zip d.namedInstances := by
    rw [Scope.ofDeclared, Model.namedInstances_build, ← List.map_prod_right_eq_zip]
    exact List.mem_map.mpr ⟨e, he, rfl⟩
  have hresolution : n ∈ resolutionNotes (Scope.ofDeclared stamp d) :=
    List.mem_append_right _ (List.mem_flatMap.mpr ⟨_, hpair, hn⟩)
  simp only [notes, List.mem_append]
  exact .inl (.inl (.inr hresolution))

/-- A sound instance is refused where it names the interface, for not being declared or for not
being the one of the class. -/
theorem exists_interfaceTypeNote (hd : d.HasMarks) (he : e.IsSound) {r : Declared.Reference}
    (hr : e.interfaceRef = some r) {c : Class}
    (hclass : (Model.build stamp d).value.class? e.classRef.resolved.base = some c)
    (hmismatch : c.interfaceName ≠ some r.resolved.base) :
    ∃ n ∈ instanceTypeNotes (Scope.ofDeclared stamp d) (Model.buildNamedInstance stamp e).value e,
      n.isError = true ∧ n.origin = r.text.origin := by
  have hfound : (Scope.ofDeclared stamp d).class? e.classRef.resolved.base = some c :=
    (Scope.class_eq stamp hd he.classRef.bracket_not_mem).trans hclass
  simp only [instanceTypeNotes, Model.isPlaceholder_buildNamedInstance stamp he,
    Model.interfaceType_buildNamedInstance, Model.classType_buildNamedInstance, hr,
    Option.map_some, interfaceTypeNotes, (he.interfaceRef r hr).isUsable, hfound, mismatches,
    hmismatch, Bool.not_true, Bool.false_eq_true, if_false, ne_eq, not_false_eq_true, decide_true,
    if_true, List.mem_append]
  cases (Scope.ofDeclared stamp d).index.hasInterface r.resolved.base with
  | false => exact ⟨_, .inr (List.mem_singleton.mpr rfl), rfl, rfl⟩
  | true => exact ⟨_, .inr (List.mem_singleton.mpr rfl), rfl, rfl⟩

end Check

namespace Model

/-- A mismatch is an error of the instance. Where reading the instance gave none, the interface that
it names is refused. -/
theorem hasErrorWithin_of_mismatch (stamp : Stamp) {r : Declared.Reading} {root : Node}
    {declared : Report Declared.Model} (hread : r.readDocument root = .ok declared)
    {i : NamedInstance} (hi : i ∈ (build stamp declared.value).value.namedInstances) {t : TypeRef}
    (ht : i.interfaceType = some t) {c : Class}
    (hclass : (build stamp declared.value).value.class? i.classType.base = some c)
    (hmismatch : c.interfaceName ≠ some t.base) :
    Note.HasErrorWithin (declared.notes ++ notes (Scope.ofDeclared stamp declared.value)) r.source
      i.provenance.origin.path := by
  rw [namedInstances_build] at hi
  obtain ⟨e, he, rfl⟩ := List.mem_map.mp hi
  rw [interfaceType_buildNamedInstance] at ht
  obtain ⟨ref, hr, rfl⟩ := Option.map_eq_some_iff.mp ht
  have hafter := instanceTypeNotes_subset stamp he
  obtain ⟨node, path, hpath, rfl, hbefore⟩ := (r.readBy_of_readDocument hread).2 e he
  have hplace := (Stamp.origin_extend stamp _).trans (r.origin_readNamedInstance node path)
  have hstays := r.staysWithin_readNamedInstance hpath node
  refine congrArg Origin.path hplace ▸ hstays.hasErrorWithin hbefore fun hclean => ?_
  obtain ⟨n, hn, herror, horigin⟩ := exists_interfaceTypeNote stamp (r.readDocument_marked hread)
    (r.readNamedInstance_sound hclean) hr hclass hmismatch
  exact ⟨n, hafter hn, herror,
    horigin ▸ r.origin_interfaceRef_readNamedInstance hpath node ref hr⟩

/-- In a generatable model instances of declared classes provide what they declare, and others that
are no array of it do not. In any document what a declared class does not expose is reported. -/
theorem ofNode_declaredInterfaces (options : Options) (source : String) (root : Node) :
    ((ofNode options source root).isGeneratable = true →
      (ofNode options source root).ComparesInterfaces) ∧
    (ofNode options source root).ReportsMismatches source := by
  constructor
  · intro h
    obtain ⟨d, haccepted, diagnostics, he⟩ := exists_accepted h
    rw [he]
    exact fun i hi t ht => haccepted.provides_iff hi ht
  · rcases ofNode_cases options source root with ⟨cause, -, he⟩ | ⟨declared, hread, he⟩
    · rw [he]
      intro i hi
      simp [refused] at hi
    · rw [he]
      intro i hi t ht c hclass hmismatch
      have herror := hasErrorWithin_of_mismatch (options.stamp .transform) hread hi ht hclass
        hmismatch
      refine (herror.mono fun n hn => ?_).diagnostics
      simp only [List.mem_append] at hn ⊢
      rcases hn with hn | hn
      · exact .inl (.inl hn)
      · exact .inr hn

end Model

/-! ## Documents with one instance -/

namespace Sample

def otherTypes : Node :=
  mapping [("namespaceName", text "Other"),
    ("interfaces", sequence [mapping [("interfaceName", text "INode")]])]

/-- The class exposes `App.INode`, and nothing exposes `Other.INode`. The one instance has the class
type and declares the interface. -/
def declaring (classType interfaceType : TypeRef) : Node :=
  mapping [("codeGen", codeGen), ("namespaces", sequence [types, otherTypes]),
    ("namedInstances", sequence [mapping [("namedInstanceName", text "Only"),
      ("qualifiedClassName", text classType.token),
      ("qualifiedInterfaceName", text interfaceType.token)]])]

/-- The model of the document with the one instance. -/
def modelDeclaring (classType interfaceType : TypeRef) : Model :=
  Model.ofNode options "chain" (declaring classType interfaceType)

def only (classType interfaceType : TypeRef) : NamedInstance :=
  ⟨"Only", classType, some interfaceType, .default, true, place "namedInstances[0]"⟩

/-- The instance may have the class type and declare the interface. -/
structure Accepts (classType interfaceType : TypeRef) : Prop where
  isGeneratable : (modelDeclaring classType interfaceType).isGeneratable = true
  namedInstances :
    (modelDeclaring classType interfaceType).namedInstances = [only classType interfaceType]
  classes : (modelDeclaring classType interfaceType).classes = [node]

section

variable {classType interfaceType : TypeRef} (h : Accepts classType interfaceType)

include h

theorem Accepts.mem :
    only classType interfaceType ∈ (modelDeclaring classType interfaceType).namedInstances := by
  rw [h.namedInstances]
  exact List.mem_singleton.mpr rfl

theorem Accepts.declaresClass_iff {q : String} :
    (modelDeclaring classType interfaceType).DeclaresClass q ↔ q = "App.Node" := by
  simp only [Model.DeclaresClass, h.classes, List.mem_singleton, exists_eq_left]
  exact eq_comm

end

/-- An array of what exposes an interface. -/
def arrayOf (base : String) : TypeRef :=
  ⟨base, true, false, false⟩

theorem accepts_class : Accepts (.named "App.Node") (.named "App.INode") :=
  ⟨by decide +kernel, by decide +kernel, by decide +kernel⟩

theorem accepts_primitive : Accepts (.named "int") (.named "App.INode") :=
  ⟨by decide +kernel, by decide +kernel, by decide +kernel⟩

theorem accepts_array : Accepts (arrayOf "App.INode") (.named "Other.INode") :=
  ⟨by decide +kernel, by decide +kernel, by decide +kernel⟩

theorem mismatch_class :
    only (.named "App.Node") (.named "Other.INode") ∈
        (modelDeclaring (.named "App.Node") (.named "Other.INode")).namedInstances ∧
      (modelDeclaring (.named "App.Node") (.named "Other.INode")).class? "App.Node" = some node :=
  ⟨by decide +kernel, by decide +kernel⟩

end Sample

namespace Model

/-- An instance of a class provides the interface of the class and is reported with another one. An
array of one interface is accepted with another one, which it does not provide. -/
theorem class_declaredInterfaces :
    (Sample.modelDeclaring (.named "App.Node") (.named "App.INode")).Provides
        (.named "App.Node") "App.INode" ∧
      Diagnostic.HasErrorWithin
        (Sample.modelDeclaring (.named "App.Node") (.named "Other.INode")).diagnostics
        "chain#namedInstances[0]" ∧
      ¬(Sample.modelDeclaring (Sample.arrayOf "App.INode") (.named "Other.INode")).Provides
        (Sample.arrayOf "App.INode") "Other.INode" := by
  refine ⟨?_, ?_, ?_⟩
  · have hcompares := (ofNode_declaredInterfaces Sample.options "chain" _).1
      Sample.accepts_class.isGeneratable
    exact (hcompares _ Sample.accepts_class.mem _ rfl).mpr
      (.inl (Sample.accepts_class.declaresClass_iff.mpr rfl))
  · have hreports := (ofNode_declaredInterfaces Sample.options "chain"
      (Sample.declaring (.named "App.Node") (.named "Other.INode"))).2
    obtain ⟨honly, hclass⟩ := Sample.mismatch_class
    exact hreports _ honly _ rfl _ hclass (by decide)
  · have hcompares := (ofNode_declaredInterfaces Sample.options "chain" _).1
      Sample.accepts_array.isGeneratable
    intro hprovides
    rcases (hcompares _ Sample.accepts_array.mem _ rfl).mp hprovides with hclass | hbase
    · exact absurd (Sample.accepts_array.declaresClass_iff.mp hclass) (by decide)
    · exact absurd hbase (by decide)

/-- An instance of a primitive class may declare an interface, which nothing provides. -/
theorem primitive_declares_interface :
    ¬ ∀ (options : Options) (source : String) (root : Node),
      (ofNode options source root).isGeneratable = true →
      ∀ i ∈ (ofNode options source root).namedInstances, ∀ t, i.interfaceType = some t →
        (ofNode options source root).Provides i.classType t.base := by
  intro hall
  rcases hall Sample.options "chain" _ Sample.accepts_primitive.isGeneratable _
    Sample.accepts_primitive.mem _ rfl with ⟨c, hc, hname, -⟩ | ⟨harray, -⟩
  · exact absurd (Sample.accepts_primitive.declaresClass_iff.mp ⟨c, hc, hname⟩) (by decide)
  · exact absurd harray (by decide)

end Model

end DependencyWiring
