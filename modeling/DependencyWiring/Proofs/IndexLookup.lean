import DependencyWiring.Check.Scope
import DependencyWiring.Proofs.SoundModel

/-!
# Lookups in the index

The index is made from the declarations and skips placeholders; the model keeps them. Looking a name
up in the index is searching the model for the first entity of the name all the same, because a
placeholder is marked by a bracket that no name looked up has.
-/
namespace DependencyWiring

namespace Table

variable {α β : Type}

theorem lookup_append (name : String) (as bs : Table α) :
    lookup name (as ++ bs) = (lookup name as).or (lookup name bs) := by
  induction as with
  | nil => rfl
  | cons e as ih =>
    obtain ⟨k, v⟩ := e
    by_cases h : k = name <;> simp [lookup, h, ih]

theorem lookup_flatMap {name : String} {f : β → Table α} {g : β → Option α} {bs : List β}
    (h : ∀ b ∈ bs, lookup name (f b) = g b) :
    lookup name (bs.flatMap f) = bs.findSome? g := by
  induction bs with
  | nil => rfl
  | cons b bs ih =>
    rw [List.flatMap_cons, lookup_append, ih fun c hc => h c (by simp [hc]), h b (by simp),
      List.findSome?_cons]
    cases g b <;> rfl

/-- In a table of the positions of named things a name has the first position of a thing so
named. -/
theorem lookup_positions {name : String} {bs : List β} (named found : β → Bool)
    (key : β → String) (place : Nat → α) (start : Nat)
    (h : ∀ b ∈ bs, (named b && key b = name) = found b) :
    lookup name ((bs.zipIdx start).filterMap fun p =>
        if named p.1 then some (key p.1, place p.2) else none) =
      (bs.findIdx? found).map fun i => place (i + start) := by
  induction bs generalizing start with
  | nil => rfl
  | cons b bs ih =>
    have hb := h b (by simp)
    have hrest := ih (start + 1) fun c hc => h c (by simp [hc])
    have hshift : ∀ i, place (i + (start + 1)) = place (i + 1 + start) := fun i => by
      rw [Nat.add_right_comm, Nat.add_assoc]
    rw [List.zipIdx_cons, List.filterMap_cons, List.findIdx?_cons, ← hb]
    by_cases hnamed : named b = true
    · by_cases hkey : key b = name
      · simp [hnamed, hkey, lookup]
      · simp [hnamed, hkey, lookup, hrest, hshift, Function.comp_def]
    · simp [hnamed, hrest, hshift, Function.comp_def]

/-- Searching a list of lists by positions and taking what stands there is searching it directly. -/
theorem bind_findSome_positions {γ : Type} {xs : List β} {found : β → Option Nat}
    {get : β → Nat → Option γ} (hget : ∀ x i, found x = some i → (get x i).isSome = true)
    {ps : List (β × Nat)} (hps : ∀ p ∈ ps, xs[p.2]? = some p.1) :
    ((ps.findSome? fun p => (found p.1).map fun i => (p.2, i)).bind fun q =>
        xs[q.1]?.bind fun x => get x q.2) =
      (ps.map Prod.fst).findSome? fun x => (found x).bind (get x) := by
  induction ps with
  | nil => rfl
  | cons p ps ih =>
    have hrest := ih fun q hq => hps q (by simp [hq])
    rw [List.findSome?_cons, List.map_cons, List.findSome?_cons]
    cases hf : found p.1 with
    | none => simpa [hf] using hrest
    | some i =>
      obtain ⟨y, hy⟩ := Option.isSome_iff_exists.mp (hget p.1 i hf)
      simp [hps p (by simp), hy]

end Table

namespace Declared

/-! ## Marked placeholders -/

/-- What is no declaration has the name of a placeholder. -/
def IsMarked (placeholder : Bool) (name : Field) : Prop :=
  placeholder = true → Placeholder.isPlaceholder name.value = true

theorem IsMarked.isNamed_eq {placeholder : Bool} {name : Field} (h : IsMarked placeholder name) :
    Index.isNamed placeholder name = !Placeholder.isPlaceholder name.value := by
  cases placeholder with
  | false => rfl
  | true => simp [Index.isNamed, h rfl]

structure Namespace.HasMarks (d : Namespace) : Prop where
  name : IsMarked d.placeholder d.name
  interfaces : ∀ i ∈ d.interfaces, IsMarked i.placeholder i.name
  classes : ∀ c ∈ d.classes, IsMarked c.placeholder c.name

structure Model.HasMarks (d : Model) : Prop where
  namespaces : ∀ ns ∈ d.namespaces, ns.HasMarks
  namedInstances : ∀ i ∈ d.namedInstances, IsMarked i.placeholder i.name

namespace Reading

open Report

variable (r : Reading)

theorem forall_value_readListing {α : Type} {P : α → Prop} {parent : Node} {path key : String}
    {read : Node → String → Report α} (hread : ∀ n p, P (read n p).value) :
    ∀ a ∈ (r.readListing parent path key read).value, P a := by
  simp only [readListing, value_bind, readItems, forEachIndexed, value_forEachFrom]
  intro a ha
  obtain ⟨p, -, rfl⟩ := List.mem_map.mp ha
  exact hread _ _

theorem readInterface_marked (node : Node) (path : String) :
    IsMarked (r.readInterface node path).value.placeholder
      (r.readInterface node path).value.name := by
  unfold readInterface
  cases node.entries? with
  | none => exact fun _ => Placeholder.isPlaceholder_invalid _
  | some entries => simp [IsMarked]

theorem readClass_marked (node : Node) (path : String) :
    IsMarked (r.readClass node path).value.placeholder (r.readClass node path).value.name := by
  unfold readClass
  cases node.entries? with
  | none => exact fun _ => Placeholder.isPlaceholder_invalid _
  | some entries => simp [IsMarked]

theorem readNamespace_marked (node : Node) (path : String) :
    (r.readNamespace node path).value.HasMarks := by
  unfold readNamespace
  cases node.entries? with
  | none => exact ⟨fun _ => Placeholder.isPlaceholder_invalid _, by simp, by simp⟩
  | some entries =>
    simp only [value_bind, value_pure]
    exact ⟨by simp [IsMarked], r.forall_value_readListing r.readInterface_marked,
      r.forall_value_readListing r.readClass_marked⟩

theorem readNamedInstance_marked (node : Node) (path : String) :
    IsMarked (r.readNamedInstance node path).value.placeholder
      (r.readNamedInstance node path).value.name := by
  unfold readNamedInstance
  cases node.entries? with
  | none => exact fun _ => Placeholder.isPlaceholder_invalid _
  | some entries => simp [IsMarked]

/-- Placeholders are marked in every document that can be read at all. -/
theorem readDocument_marked {root : Node} {declared : Report Model}
    (h : r.readDocument root = .ok declared) : declared.value.HasMarks := by
  obtain ⟨entries, -, rfl⟩ := r.eq_readRoot_of_readDocument h
  simp only [readRoot, value_bind, value_pure]
  exact ⟨r.forall_value_readListing r.readNamespace_marked,
    r.forall_value_readListing r.readNamedInstance_marked⟩

end Reading

/-! ## Lookups -/

namespace Index

/-- The types of a namespace are found under their qualified names. A name without a bracket is no
qualified name with a placeholder in it. -/
theorem lookup_typeEntries {α : Type} {ns : Namespace} {types : List α} {placeholder : α → Bool}
    {name : α → Field} (hns : IsMarked ns.placeholder ns.name)
    (htypes : ∀ t ∈ types, IsMarked (placeholder t) (name t)) {q : String}
    (hq : '<' ∉ q.toList) (n : Nat) :
    Table.lookup q (if isNamed ns.placeholder ns.name then
        types.zipIdx.filterMap fun p =>
          if isNamed (placeholder p.1) (name p.1) then
            some (Name.qualify ns.name.value (name p.1).value, (n, p.2))
          else none
      else []) =
      (types.findIdx? fun t => Name.qualify ns.name.value (name t).value = q).map
        fun i => (n, i) := by
  by_cases hnamed : isNamed ns.placeholder ns.name = true
  · rw [if_pos hnamed]
    refine Table.lookup_positions (fun t => isNamed (placeholder t) (name t))
      (fun t => Name.qualify ns.name.value (name t).value = q)
      (fun t => Name.qualify ns.name.value (name t).value) (fun i => (n, i)) 0 fun t ht => ?_
    rw [(htypes t ht).isNamed_eq]
    by_cases hp : Placeholder.isPlaceholder (name t).value = true
    · have hne : Name.qualify ns.name.value (name t).value ≠ q := fun h =>
        hq (h ▸ Placeholder.bracket_mem_qualify (.inr hp))
      simp [hp, hne]
    · simp [hp]
  · rw [if_neg hnamed]
    have hp : Placeholder.isPlaceholder ns.name.value = true := by
      simpa [hns.isNamed_eq] using hnamed
    have hnone : types.findIdx? (fun t => Name.qualify ns.name.value (name t).value = q) =
        none := by
      rw [List.findIdx?_eq_none_iff]
      intro t _
      exact decide_eq_false fun h => hq (h ▸ Placeholder.bracket_mem_qualify (.inl hp))
    rw [hnone]
    rfl

theorem lookup_classes {d : Model} (hd : d.HasMarks) {q : String} (hq : '<' ∉ q.toList) :
    (ofModel d).classes.lookup q =
      d.namespaces.zipIdx.findSome? fun p =>
        (p.1.classes.findIdx? fun c => Name.qualify p.1.name.value c.name.value = q).map
          fun i => (p.2, i) := by
  rw [ofModel, Table.lookup_keepFirst]
  refine Table.lookup_flatMap fun p hp => ?_
  have hns := hd.namespaces p.1 (List.fst_mem_of_mem_zipIdx hp)
  exact lookup_typeEntries hns.name hns.classes hq p.2

theorem lookup_interfaces {d : Model} (hd : d.HasMarks) {q : String} (hq : '<' ∉ q.toList) :
    (ofModel d).interfaces.lookup q =
      d.namespaces.zipIdx.findSome? fun p =>
        (p.1.interfaces.findIdx? fun i => Name.qualify p.1.name.value i.name.value = q).map
          fun i => (p.2, i) := by
  rw [ofModel, Table.lookup_keepFirst]
  refine Table.lookup_flatMap fun p hp => ?_
  have hns := hd.namespaces p.1 (List.fst_mem_of_mem_zipIdx hp)
  exact lookup_typeEntries hns.name hns.interfaces hq p.2

theorem instancePosition_eq {d : Model} (hd : d.HasMarks) {name : String}
    (hname : Placeholder.isPlaceholder name = false) :
    (ofModel d).instancePosition? name =
      d.namedInstances.findIdx? fun i => i.name.value = name := by
  rw [instancePosition?, ofModel, Table.lookup_keepFirst]
  refine (Table.lookup_positions (fun i : NamedInstance => isNamed i.placeholder i.name)
    (fun i => i.name.value = name) (fun i => i.name.value) id 0 fun i hi => ?_).trans (by simp)
  rw [(hd.namedInstances i hi).isNamed_eq]
  by_cases hi : i.name.value = name <;> simp [hi, hname]

end Index

end Declared

namespace Check.Scope

variable (stamp : Stamp)

/-- What the checks look at once declarations are built. -/
def ofDeclared (d : Declared.Model) : Scope :=
  ⟨(Model.build stamp d).value, d, Declared.Index.ofModel d⟩

variable {d : Declared.Model} (hd : d.HasMarks)

include hd

/-- The index finds the first class of a qualified name. -/
theorem class_eq {q : String} (hq : '<' ∉ q.toList) :
    (ofDeclared stamp d).class? q = (ofDeclared stamp d).model.class? q := by
  have hpositions : ∀ p ∈ d.namespaces.zipIdx, d.namespaces[p.2]? = some p.1 :=
    fun p hp => List.mem_zipIdx_iff_getElem?.mp hp
  have hget : ∀ (ns : Declared.Namespace) (i : Nat),
      ns.classes.findIdx? (fun c => Name.qualify ns.name.value c.name.value = q) = some i →
      ((Model.buildNamespace stamp ns).value.classes[i]?).isSome = true := by
    intro ns i hi
    obtain ⟨hlt, -⟩ := List.findIdx?_eq_some_iff_getElem.mp hi
    simpa using hlt
  calc (ofDeclared stamp d).class? q
      = ((d.namespaces.zipIdx.findSome? fun p =>
            (p.1.classes.findIdx? fun c => Name.qualify p.1.name.value c.name.value = q).map
              fun i => (p.2, i)).bind fun p => d.namespaces[p.1]?.bind fun ns =>
                (Model.buildNamespace stamp ns).value.classes[p.2]?) := by
        rw [← Declared.Index.lookup_classes hd hq]
        simp only [class?, ofDeclared, Model.namespaces_build, List.getElem?_map,
          Option.bind_eq_bind, Option.bind_map, Function.comp_def, Model.classes_buildNamespace]
    _ = d.namespaces.findSome? fun ns =>
          (ns.classes.findIdx? fun c => Name.qualify ns.name.value c.name.value = q).bind
            fun i => (Model.buildNamespace stamp ns).value.classes[i]? := by
        rw [Table.bind_findSome_positions hget hpositions, List.zipIdx_map_fst]
    _ = (ofDeclared stamp d).model.class? q := by
        simp only [ofDeclared, Model.class?, Model.classes, Model.namespaces_build,
          List.find?_flatMap, List.findSome?_map]
        simp [List.find?_eq_bind_findIdx?_getElem?, Function.comp_def]
        rfl

theorem hasInterface_iff {q : String} (hq : '<' ∉ q.toList) :
    (ofDeclared stamp d).index.hasInterface q = true ↔
      ∃ i ∈ (ofDeclared stamp d).model.interfaces, i.qualifiedName = q := by
  simp only [ofDeclared, Declared.Index.hasInterface, Declared.Index.lookup_interfaces hd hq,
    Model.interfaces, List.isSome_findSome?, List.any_eq_true, Option.isSome_map,
    List.findIdx?_isSome, decide_eq_true_eq, List.mem_flatMap, Model.namespaces_build,
    List.mem_map]
  constructor
  · rintro ⟨p, hp, i, hi, hname⟩
    refine ⟨(Model.buildInterface stamp p.1.name.value i).value,
      ⟨_, ⟨p.1, List.fst_mem_of_mem_zipIdx hp, rfl⟩, ?_⟩, hname⟩
    rw [Model.interfaces_buildNamespace]
    exact List.mem_map_of_mem hi
  · rintro ⟨_, ⟨_, ⟨ns, hns, rfl⟩, hmem⟩, hname⟩
    rw [Model.interfaces_buildNamespace] at hmem
    obtain ⟨i, hi, rfl⟩ := List.mem_map.mp hmem
    obtain ⟨n, hn⟩ := List.mem_iff_getElem?.mp hns
    exact ⟨(ns, n), List.mem_zipIdx_iff_getElem?.mpr hn, i, hi, hname⟩

theorem instancePosition_eq {name : String} (hname : Placeholder.isPlaceholder name = false) :
    (ofDeclared stamp d).index.instancePosition? name =
      (ofDeclared stamp d).model.namedInstances.findIdx? fun i => i.name = name := by
  simp only [ofDeclared, Model.namedInstances_build, List.findIdx?_map]
  exact Declared.Index.instancePosition_eq hd hname

/-- The index finds the first instance of a name. -/
theorem instance_eq {name : String} (hname : Placeholder.isPlaceholder name = false) :
    (ofDeclared stamp d).instance? name = (ofDeclared stamp d).model.namedInstance? name := by
  rw [instance?, instancePosition_eq stamp hd hname, Model.namedInstance?,
    List.find?_eq_bind_findIdx?_getElem?]
  rfl

end Check.Scope

end DependencyWiring
