import DependencyWiring.Proofs.AcceptedDocuments

/-!
# Agreement of index and model

The index is made from declarations and holds positions, and the checks look these positions up in
the model. Building keeps every declaration at its position and computes the same names, so each
entry of the index leads to an entity of the name, whatever was declared. For what was read from a
document nothing is skipped that has a name, and the index finds what a search of the model finds.
-/
namespace DependencyWiring

namespace Table

variable {α : Type}

theorem mem_of_mem_keepFirst {e : String × α} {es : Table α} (h : e ∈ keepFirst es) : e ∈ es := by
  induction es with
  | nil => exact h
  | cons f fs ih =>
    obtain ⟨k, v⟩ := f
    rcases List.mem_cons.mp h with rfl | hrest
    · exact List.mem_cons_self
    · exact List.mem_cons_of_mem _ (ih (List.mem_filter.mp hrest).1)

/-- What has an entry among the positions of named things is the key of the thing at its place. -/
theorem exists_of_mem_positions {β : Type} {bs : List β} (named : β → Bool) (key : β → String)
    (place : Nat → α) {name : String} {a : α}
    (h : (name, a) ∈ bs.zipIdx.filterMap fun p =>
      if named p.1 then some (key p.1, place p.2) else none) :
    ∃ i b, bs[i]? = some b ∧ key b = name ∧ place i = a := by
  obtain ⟨p, hp, hentry⟩ := List.mem_filterMap.mp h
  split at hentry
  · obtain ⟨hname, hplace⟩ := Prod.mk.inj (Option.some.inj hentry)
    exact ⟨p.2, p.1, List.mem_zipIdx_iff_getElem?.mp hp, hname, hplace⟩
  · exact absurd hentry (by simp)

end Table

/-! ## Entries of the index -/

namespace Declared.Index

/-- Each entry leads to an entity of the model that has the name. -/
structure PointsInto (ix : Index) (m : DependencyWiring.Model) : Prop where
  classes : ∀ q n k, (q, (n, k)) ∈ ix.classes →
    ∃ ns c, m.namespaces[n]? = some ns ∧ ns.classes[k]? = some c ∧ c.qualifiedName = q
  interfaces : ∀ q n k, (q, (n, k)) ∈ ix.interfaces →
    ∃ ns i, m.namespaces[n]? = some ns ∧ ns.interfaces[k]? = some i ∧ i.qualifiedName = q
  instances : ∀ name k, (name, k) ∈ ix.instances →
    ∃ i, m.namedInstances[k]? = some i ∧ i.name = name

/-- The types of a namespace with their positions lead to types of the namespace. -/
theorem exists_of_mem_typeEntries {α : Type} {ns : Namespace} {types : List α}
    (named : α → Bool) (name : α → Field) {q : String} {n m k : Nat}
    (h : (q, (m, k)) ∈ if isNamed ns.placeholder ns.name then
        types.zipIdx.filterMap fun p =>
          if named p.1 then some (Name.qualify ns.name.value (name p.1).value, (n, p.2)) else none
      else []) :
    m = n ∧ ∃ t, types[k]? = some t ∧ Name.qualify ns.name.value (name t).value = q := by
  split at h
  · obtain ⟨i, t, ht, hname, hplace⟩ := Table.exists_of_mem_positions named
      (fun t => Name.qualify ns.name.value (name t).value) (fun i => (n, i)) h
    obtain ⟨rfl, rfl⟩ := Prod.mk.inj hplace
    exact ⟨rfl, t, ht, hname⟩
  · exact absurd h (by simp)

theorem exists_of_mem_classes {d : Model} {q : String} {n k : Nat}
    (h : (q, (n, k)) ∈ (ofModel d).classes) : ∃ ns c, d.namespaces[n]? = some ns ∧
      ns.classes[k]? = some c ∧ Name.qualify ns.name.value c.name.value = q := by
  obtain ⟨⟨ns, n'⟩, hp, hentry⟩ := List.mem_flatMap.mp (Table.mem_of_mem_keepFirst h)
  obtain ⟨rfl, c, hc, hname⟩ := exists_of_mem_typeEntries
    (fun c : Class => isNamed c.placeholder c.name) Class.name hentry
  exact ⟨ns, c, List.mem_zipIdx_iff_getElem?.mp hp, hc, hname⟩

theorem exists_of_mem_interfaces {d : Model} {q : String} {n k : Nat}
    (h : (q, (n, k)) ∈ (ofModel d).interfaces) : ∃ ns i, d.namespaces[n]? = some ns ∧
      ns.interfaces[k]? = some i ∧ Name.qualify ns.name.value i.name.value = q := by
  obtain ⟨⟨ns, n'⟩, hp, hentry⟩ := List.mem_flatMap.mp (Table.mem_of_mem_keepFirst h)
  obtain ⟨rfl, i, hi, hname⟩ := exists_of_mem_typeEntries
    (fun i : Interface => isNamed i.placeholder i.name) Interface.name hentry
  exact ⟨ns, i, List.mem_zipIdx_iff_getElem?.mp hp, hi, hname⟩

theorem exists_of_mem_instances {d : Model} {name : String} {k : Nat}
    (h : (name, k) ∈ (ofModel d).instances) :
    ∃ i, d.namedInstances[k]? = some i ∧ i.name.value = name := by
  obtain ⟨j, i, hi, hname, rfl⟩ := Table.exists_of_mem_positions
    (fun i : NamedInstance => isNamed i.placeholder i.name) (fun i => i.name.value) id
    (Table.mem_of_mem_keepFirst h)
  exact ⟨i, hi, hname⟩

/-- The index of declarations leads into the model that is built from them, also where they were
never read from a document. -/
theorem ofModel_pointsInto (stamp : Stamp) (d : Model) :
    (ofModel d).PointsInto (Model.build stamp d).value := by
  have hnamespace : ∀ {n : Nat} {ns : Namespace}, d.namespaces[n]? = some ns →
      (Model.build stamp d).value.namespaces[n]? =
        some (Model.buildNamespace stamp ns).value := by
    intro n ns hns
    simp [hns]
  refine ⟨?_, ?_, ?_⟩
  · intro q n k h
    obtain ⟨ns, c, hns, hc, hname⟩ := exists_of_mem_classes h
    exact ⟨_, (Model.buildClass stamp ns.name.value c).value, hnamespace hns, by simp [hc], hname⟩
  · intro q n k h
    obtain ⟨ns, i, hns, hi, hname⟩ := exists_of_mem_interfaces h
    exact ⟨_, (Model.buildInterface stamp ns.name.value i).value, hnamespace hns, by simp [hi],
      hname⟩
  · intro name k h
    obtain ⟨i, hi, hname⟩ := exists_of_mem_instances h
    exact ⟨(Model.buildNamedInstance stamp i).value, by simp [hi], hname⟩

end Declared.Index

/-! ## Lookups -/

namespace Check.Scope

/-- Looking a name up in the index is searching the model for it. A placeholder is not looked up:
the model keeps it, and the index does not. -/
structure FindsFirst (s : Scope) : Prop where
  classes : ∀ q, '<' ∉ q.toList → s.class? q = s.model.class? q
  interfaces : ∀ q, '<' ∉ q.toList →
    (s.index.hasInterface q = true ↔ ∃ i ∈ s.model.interfaces, i.qualifiedName = q)
  instances : ∀ name, Placeholder.isPlaceholder name = false →
    s.instance? name = s.model.namedInstance? name

theorem ofDeclared_findsFirst (stamp : Stamp) {d : Declared.Model} (hd : d.HasMarks) :
    (ofDeclared stamp d).FindsFirst where
  classes _ hq := class_eq stamp hd hq
  interfaces _ hq := hasInterface_iff stamp hd hq
  instances _ hname := instance_eq stamp hd hname

end Check.Scope

/-- Every declaration is made twice, after one that is not a mapping. -/
def Sample.cluttered : Node :=
  mapping [("namespaces", sequence [text "stray", types, types]),
    ("namedInstances", sequence [text "stray", firstNode, firstNode])]

namespace Declared.Index

/-- The index of any declarations leads into the model that is built from them, and where they were
read from a document it finds in the model what a search finds, or nothing where that does. -/
theorem ofModel_agrees (stamp : Stamp) :
    (∀ d, (ofModel d).PointsInto (Model.build stamp d).value) ∧
    ∀ (r : Reading) (root : Node) (declared : Report Model),
      r.readDocument root = .ok declared →
      (Check.Scope.ofDeclared stamp declared.value).FindsFirst :=
  ⟨ofModel_pointsInto stamp, fun r _ _ hread =>
    Check.Scope.ofDeclared_findsFirst stamp (r.readDocument_marked hread)⟩

/-- In a cluttered document the first proper declaration of each name counts. -/
theorem ofModel_agrees_cluttered : ∃ declared,
    (⟨"cluttered", Sample.options.stamp .extract⟩ : Reading).readDocument Sample.cluttered =
      .ok declared ∧
    ofModel declared.value =
      ⟨[("App.Node", (1, 0))], [("App.INode", (1, 0))], [("First", 1)]⟩ ∧
    (ofModel declared.value).PointsInto
      (Model.build (Sample.options.stamp .transform) declared.value).value ∧
    (Check.Scope.ofDeclared (Sample.options.stamp .transform) declared.value).FindsFirst :=
  ⟨_, rfl, by decide +kernel, (ofModel_agrees _).1 _,
    (ofModel_agrees _).2 ⟨"cluttered", _⟩ Sample.cluttered _ rfl⟩

end Declared.Index

end DependencyWiring
