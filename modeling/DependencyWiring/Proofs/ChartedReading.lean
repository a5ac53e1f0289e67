import DependencyWiring.Declared.Reader
import DependencyWiring.Proofs.Trails

/-!
# Charted reading

Every place that a reader names is that of a node at its own path, or of a mapping or the value of
one of its keys at the path of the key. What holds of all these places, and is handed down from a
node to those that are read next, holds therefore of every place in the notes and in the
declarations. A chart is such a property of places together with what is handed down.
-/
namespace DependencyWiring

/-! ## Notes about places of a kind -/

namespace Note

variable {α : Type} {P : Origin → Prop}

/-- All notes are about places of a kind. -/
def AllAt (notes : List Note) (P : Origin → Prop) : Prop :=
  ∀ n ∈ notes, P n.origin

theorem AllAt.nil : AllAt [] P :=
  fun _ hn => absurd hn List.not_mem_nil

theorem AllAt.single {n : Note} (h : P n.origin) : AllAt [n] P :=
  fun _ hm => List.mem_singleton.mp hm ▸ h

theorem AllAt.append {as bs : List Note} (has : AllAt as P) (hbs : AllAt bs P) :
    AllAt (as ++ bs) P :=
  List.forall_mem_append.mpr ⟨has, hbs⟩

theorem AllAt.ite {p : Prop} [Decidable p] {as bs : List Note} (has : AllAt as P)
    (hbs : AllAt bs P) : AllAt (if p then as else bs) P := by
  split
  · exact has
  · exact hbs

theorem AllAt.flatMap {f : α → List Note} {as : List α} (h : ∀ a ∈ as, AllAt (f a) P) :
    AllAt (as.flatMap f) P := by
  intro n hn
  obtain ⟨a, ha, hmem⟩ := List.mem_flatMap.mp hn
  exact h a ha n hmem

theorem AllAt.filterMap {f : α → Option Note} {as : List α}
    (h : ∀ a ∈ as, ∀ n ∈ f a, P n.origin) : AllAt (as.filterMap f) P := by
  intro n hn
  obtain ⟨a, ha, hnote⟩ := List.mem_filterMap.mp hn
  exact h a ha n hnote

end Note

/-! ## Reports about places of a kind -/

namespace Report

variable {α β : Type} {P : Origin → Prop} {Q : α → Prop} {R : β → Prop}

/-- All notes are about places of a kind, and the value has a property. -/
structure Gives (r : Report α) (P : Origin → Prop) (Q : α → Prop) : Prop where
  notes : Note.AllAt r.notes P
  value : Q r.value

theorem Gives.pure {a : α} (h : Q a) : (Pure.pure a : Report α).Gives P Q :=
  ⟨.nil, h⟩

theorem Gives.bind {r : Report α} {f : α → Report β} (h : r.Gives P Q)
    (hf : ∀ a, Q a → (f a).Gives P R) : (r >>= f).Gives P R :=
  have hrest := hf r.value h.value
  ⟨h.notes.append hrest.notes, hrest.value⟩

theorem Gives.note {finding : Finding} {origin : Origin} (h : P origin) :
    (Report.note finding origin).Gives P fun _ => True :=
  ⟨.single h, trivial⟩

theorem Gives.noteIf {condition : Bool} {finding : Finding} {origin : Origin}
    (h : condition = true → P origin) :
    (Report.noteIf condition finding origin).Gives P fun _ => True := by
  cases condition with
  | false => exact .pure trivial
  | true => exact .note (h rfl)

theorem Gives.forEach {f : α → Report β} {as : List α} (h : ∀ a ∈ as, (f a).Gives P R) :
    (Report.forEach f as).Gives P fun bs => ∀ b ∈ bs, R b := by
  induction as with
  | nil => exact .pure (by simp)
  | cons a as ih =>
    refine .bind (h a List.mem_cons_self) fun b hb => ?_
    refine .bind (ih fun a' ha' => h a' (List.mem_cons_of_mem a ha')) fun bs hbs => ?_
    exact .pure (List.forall_mem_cons.mpr ⟨hb, hbs⟩)

theorem Gives.forEachIndexed {f : Nat → α → Report β} {as : List α}
    (h : ∀ i a, as[i]? = some a → (f i a).Gives P R) :
    (Report.forEachIndexed f as).Gives P fun bs => ∀ b ∈ bs, R b := by
  have hitem : ∀ p ∈ as.zipIdx, (f p.2 p.1).Gives P R := fun p hp =>
    h p.2 p.1 (List.mem_zipIdx_iff_getElem?.mp hp)
  constructor
  · rw [Report.forEachIndexed, notes_forEachFrom]
    exact .flatMap fun p hp => (hitem p hp).notes
  · intro b hb
    rw [Report.forEachIndexed, value_forEachFrom] at hb
    obtain ⟨p, hp, rfl⟩ := List.mem_map.mp hb
    exact (hitem p hp).value

end Report

/-! ## Declarations with places of a kind -/

namespace Declared

variable (P : Origin → Prop)

/-- Only names that are usable are looked at again, so only their places count. -/
structure CodeGen.LiesIn (d : CodeGen) : Prop where
  registryClassName : d.registryClassName.isValid = true → P d.registryClassName.origin
  namespaceName : d.namespaceName.isValid = true → P d.namespaceName.origin
  initializerName : d.initializerName.isValid = true → P d.initializerName.origin

structure Interface.LiesIn (d : Interface) : Prop where
  name : P d.name.origin
  entity : P d.provenance.origin

structure Parameter.LiesIn (d : Parameter) : Prop where
  name : P d.name.origin
  entity : P d.provenance.origin

structure Class.LiesIn (d : Class) : Prop where
  name : P d.name.origin
  interfaceRef : ∀ ref ∈ d.interfaceRef, P ref.text.origin
  parameters : ∀ p ∈ d.parameters.getD [], p.LiesIn P
  entity : P d.provenance.origin

structure Namespace.LiesIn (d : Namespace) : Prop where
  name : P d.name.origin
  interfaces : ∀ i ∈ d.interfaces, i.LiesIn P
  classes : ∀ c ∈ d.classes, c.LiesIn P
  entity : P d.provenance.origin

structure Assignment.LiesIn (d : Assignment) : Prop where
  parameterName : P d.parameterName.origin
  entity : P d.provenance.origin

structure Element.LiesIn (d : Element) : Prop where
  entity : P d.provenance.origin

structure NamedInstance.LiesIn (d : NamedInstance) : Prop where
  name : P d.name.origin
  classRef : P d.classRef.text.origin
  interfaceRef : ∀ ref ∈ d.interfaceRef, P ref.text.origin
  assignments : ∀ a ∈ d.assignments.getD [], a.LiesIn P
  elements : ∀ e ∈ d.elements.getD [], e.LiesIn P
  entity : P d.provenance.origin

structure Model.LiesIn (d : Model) : Prop where
  codeGen : d.codeGen.LiesIn P
  namespaces : ∀ ns ∈ d.namespaces, ns.LiesIn P
  namedInstances : ∀ i ∈ d.namedInstances, i.LiesIn P

end Declared

/-! ## Charts -/

namespace Declared.Reading

open Report

/-- From the nodes and paths that are charted only places of a kind are named, and the nodes that
are read next are charted again. A key may be spelled like the root, and is then not led on from. -/
structure Charts (r : Reading) (A : Node → String → Prop) (P : Origin → Prop) : Prop where
  place {n : Node} {path : String} : A n path → P (r.origin n path)
  owner {n : Node} {path : String} {entries : List (String × Node)} (name : String) :
    A n path → n.entries? = some entries → P (r.origin n (LogicalPath.key path name))
  value {n v : Node} {path name : String} {entries : List (String × Node)} :
    A n path → n.entries? = some entries → (name, v) ∈ entries →
      P (r.origin v (LogicalPath.key path name))
  child {n v : Node} {path name : String} :
    A n path → n.get? name = some v → LogicalPath.key path name ≠ LogicalPath.root →
      A v (LogicalPath.key path name)
  item {n v : Node} {path name : String} {index : Nat} :
    A n path → (n.listed name)[index]? = some v → A v (LogicalPath.item path name index)

namespace Charts

variable {r : Reading} {A : Node → String → Prop} {P : Origin → Prop} (h : r.Charts A P)
  {node : Node} {path : String}

/-! ### Fields -/

theorem gives_authored {value key : String} {origin : Origin} {form : Option NameForm}
    (ho : P origin) : (authored value origin key form).Gives P fun f => P f.origin := by
  cases form with
  | none => exact .pure ho
  | some form =>
    dsimp only [authored]
    split
    · exact .pure ho
    · exact .bind (.note ho) fun _ _ => .pure ho

theorem gives_reference {text : Field} {key : String} {role : ReferenceRole}
    (ho : P text.origin) :
    (reference text key role).Gives P fun ref => P ref.text.origin := by
  unfold reference
  split
  · split
    · exact .bind (.note ho) fun _ _ => .pure ho
    · split
      · exact .pure ho
      · exact .bind (.note ho) fun _ _ => .pure ho
  · exact .pure ho

theorem gives_checkConcrete {name : Field} {classRef interfaceRef : Option Reference}
    (hclass : ∀ ref ∈ classRef, P ref.text.origin) :
    (checkConcrete name classRef interfaceRef).Gives P fun _ => True := by
  unfold checkConcrete
  split
  · rename_i ref
    split
    · exact .bind (.note (hclass ref rfl)) fun _ _ => .pure trivial
    · exact .pure trivial
  · exact .pure trivial

include h

theorem gives_noteInvalid (hn : A node path) (kind : Declaration) :
    (r.noteInvalid node path kind).Gives P fun _ => True :=
  .note (h.place hn)

section

variable {entries : List (String × Node)} (hn : A node path) (he : node.entries? = some entries)

include hn he

/-- The place of the value of a key. -/
theorem value_get {key : String} {v : Node} (hv : node.get? key = some v) :
    P (r.origin v (LogicalPath.key path key)) := by
  obtain ⟨entries', position, rfl, hmem⟩ := Node.mem_entries_of_get hv
  exact h.value hn rfl hmem

theorem gives_checkKeys (kind : Declaration) :
    (r.checkKeys entries kind path).Gives P fun _ => True := by
  refine .bind (.forEach (R := fun _ => True) fun e hmem => ?_) fun _ _ => .pure trivial
  exact .noteIf fun _ => h.value hn he hmem

theorem gives_required (key : String) (kind : Declaration) (form : Option NameForm) :
    (r.required node path key kind form).Gives P fun f => P f.origin := by
  unfold required
  cases hv : node.get? key with
  | none =>
    have howner := h.owner key hn he
    exact .bind (.note howner) fun _ _ => .pure howner
  | some v =>
    have hplace := h.value_get hn he hv
    dsimp only
    cases v.text? with
    | none => exact .bind (.note hplace) fun _ _ => .pure hplace
    | some text =>
      dsimp only
      split
      · exact .bind (.note hplace) fun _ _ => .pure hplace
      · exact gives_authored hplace

theorem gives_optional (key : String) (form : Option NameForm) :
    (r.optional node path key form).Gives P fun f => ∀ f' ∈ f, P f'.origin := by
  unfold optional
  cases hv : node.get? key with
  | none => exact .pure (by simp)
  | some v =>
    have hplace := h.value_get hn he hv
    dsimp only
    cases v.text? with
    | none => exact .bind (.note hplace) fun _ _ => .pure (by simp)
    | some text =>
      dsimp only
      split
      · exact .pure (by simp)
      · exact .bind (gives_authored hplace) fun f hf => .pure (by simpa using hf)

theorem gives_requiredReference (key : String) (kind : Declaration) (role : ReferenceRole) :
    (r.requiredReference node path key kind role).Gives P fun ref => P ref.text.origin :=
  .bind (h.gives_required hn he key kind none) fun _ hf => gives_reference hf

theorem gives_optionalReference (key : String) (role : ReferenceRole) :
    (r.optionalReference node path key role).Gives P fun ref =>
      ∀ ref' ∈ ref, P ref'.text.origin := by
  refine .bind (h.gives_optional hn he key none) fun f hf => ?_
  cases f with
  | none => exact .pure (by simp)
  | some text =>
    exact .bind (gives_reference (hf text rfl)) fun ref href => .pure (by simpa using href)

end

/-! ### Lists -/

/-- The items of a list are charted, and the place of the list is of the kind. -/
theorem gives_listing (hn : A node path) (key : String) :
    (r.listing node path key).Gives P fun found =>
      (∀ i v, found.nodes[i]? = some v → A v (LogicalPath.item path key i)) ∧
        ∀ nodes holder, found = .items nodes holder →
          P (r.origin holder (LogicalPath.key path key)) := by
  unfold listing
  cases hv : node.get? key with
  | none => exact .pure (by simp [Listing.nodes])
  | some v =>
    obtain ⟨entries, position, rfl, hmem⟩ := Node.mem_entries_of_get hv
    have hplace := h.value hn rfl hmem
    cases v with
    | sequence items p =>
      refine .pure ⟨fun i v hi => h.item hn ?_, ?_⟩
      · rw [Node.listed, hv]
        exact hi
      · rintro nodes holder ⟨⟩
        exact hplace
    | scalar text p =>
      dsimp only
      split
      · exact .pure (by simp [Listing.nodes])
      · exact .bind (.note hplace) fun _ _ => .pure (by simp [Listing.nodes])
    | mapping entries p =>
      exact .bind (.note hplace) fun _ _ => .pure (by simp [Listing.nodes])

variable {α : Type} {read : Node → String → Report α} {Q : α → Prop}
  (hread : ∀ {v p}, A v p → (read v p).Gives P Q)

omit h in
include hread in
theorem gives_readItems {key : String} {items : List Node}
    (hitems : ∀ i v, items[i]? = some v → A v (LogicalPath.item path key i)) :
    (readItems path key items read).Gives P fun as => ∀ a ∈ as, Q a :=
  .forEachIndexed fun i v hi => hread (hitems i v hi)

include hread in
theorem gives_readListing (hn : A node path) (key : String) :
    (r.readListing node path key read).Gives P fun as => ∀ a ∈ as, Q a :=
  .bind (h.gives_listing hn key) fun _ hfound => gives_readItems hread hfound.1

include hread in
theorem gives_readEntries (hn : A node path) (key : String) :
    (r.readEntries node path key read).Gives P fun as => ∀ a ∈ as.getD [], Q a := by
  refine .bind (h.gives_listing hn key) fun found hfound => ?_
  cases found with
  | absent => exact .pure (by simp)
  | invalid => exact .pure (by simp)
  | items nodes holder =>
    refine .bind (.noteIf fun _ => hfound.2 nodes holder rfl) fun _ _ => ?_
    exact .bind (gives_readItems hread hfound.1) fun as has => .pure has

/-! ### Declarations -/

theorem gives_readInterface (hn : A node path) :
    (r.readInterface node path).Gives P (Interface.LiesIn P) := by
  have hplace := h.place hn
  unfold readInterface
  cases he : node.entries? with
  | none => exact .bind (h.gives_noteInvalid hn _) fun _ _ => .pure ⟨hplace, hplace⟩
  | some entries =>
    refine .bind (h.gives_checkKeys hn he _) fun _ _ => ?_
    exact .bind (h.gives_required hn he _ _ _) fun _ hname => .pure ⟨hname, hplace⟩

theorem gives_readParameter (hn : A node path) :
    (r.readParameter node path).Gives P (Parameter.LiesIn P) := by
  have hplace := h.place hn
  unfold readParameter
  cases he : node.entries? with
  | none => exact .bind (h.gives_noteInvalid hn _) fun _ _ => .pure ⟨hplace, hplace⟩
  | some entries =>
    refine .bind (h.gives_checkKeys hn he _) fun _ _ => ?_
    refine .bind (h.gives_required hn he _ _ _) fun _ hname => ?_
    refine .bind (h.gives_optionalReference hn he _ _) fun _ hclass => ?_
    refine .bind (h.gives_optionalReference hn he _ _) fun _ _ => ?_
    exact .bind (gives_checkConcrete hclass) fun _ _ => .pure ⟨hname, hplace⟩

theorem gives_readParameters {entries : List (String × Node)} (hn : A node path)
    (he : node.entries? = some entries) :
    (r.readParameters node path).Gives P fun ps => ∀ p ∈ ps.getD [], p.LiesIn P := by
  refine .bind (h.gives_listing hn _) fun found hfound => ?_
  cases found with
  | absent => exact .bind (.note (h.owner _ hn he)) fun _ _ => .pure (by simp)
  | invalid => exact .pure (by simp)
  | items nodes holder =>
    exact .bind (gives_readItems h.gives_readParameter hfound.1) fun ps hps => .pure hps

theorem gives_readClass (hn : A node path) :
    (r.readClass node path).Gives P (Class.LiesIn P) := by
  have hplace := h.place hn
  unfold readClass
  cases he : node.entries? with
  | none =>
    exact .bind (h.gives_noteInvalid hn _) fun _ _ => .pure ⟨hplace, by simp, by simp, hplace⟩
  | some entries =>
    refine .bind (h.gives_checkKeys hn he _) fun _ _ => ?_
    refine .bind (h.gives_required hn he _ _ _) fun _ hname => ?_
    refine .bind (h.gives_optionalReference hn he _ _) fun _ hinterface => ?_
    exact .bind (h.gives_readParameters hn he) fun _ hps =>
      .pure ⟨hname, hinterface, hps, hplace⟩

theorem gives_readNamespace (hn : A node path) :
    (r.readNamespace node path).Gives P (Namespace.LiesIn P) := by
  have hplace := h.place hn
  unfold readNamespace
  cases he : node.entries? with
  | none =>
    exact .bind (h.gives_noteInvalid hn _) fun _ _ => .pure ⟨hplace, by simp, by simp, hplace⟩
  | some entries =>
    refine .bind (h.gives_checkKeys hn he _) fun _ _ => ?_
    refine .bind (h.gives_required hn he _ _ _) fun _ hname => ?_
    refine .bind (h.gives_readListing h.gives_readInterface hn _) fun _ hinterfaces => ?_
    exact .bind (h.gives_readListing h.gives_readClass hn _) fun _ hclasses =>
      .pure ⟨hname, hinterfaces, hclasses, hplace⟩

theorem gives_readAssignment (hn : A node path) :
    (r.readAssignment node path).Gives P (Assignment.LiesIn P) := by
  have hplace := h.place hn
  unfold readAssignment
  cases he : node.entries? with
  | none => exact .bind (h.gives_noteInvalid hn _) fun _ _ => .pure ⟨hplace, hplace⟩
  | some entries =>
    refine .bind (h.gives_checkKeys hn he _) fun _ _ => ?_
    refine .bind (h.gives_required hn he _ _ _) fun _ hname => ?_
    refine .bind (h.gives_optional hn he _ _) fun _ _ => ?_
    exact .bind (h.gives_optional hn he _ _) fun _ _ => .pure ⟨hname, hplace⟩

theorem gives_readElement (hn : A node path) :
    (r.readElement node path).Gives P (Element.LiesIn P) := by
  have hplace := h.place hn
  unfold readElement
  cases he : node.entries? with
  | none => exact .bind (h.gives_noteInvalid hn _) fun _ _ => .pure ⟨hplace⟩
  | some entries =>
    refine .bind (h.gives_checkKeys hn he _) fun _ _ => ?_
    refine .bind (h.gives_optional hn he _ _) fun _ _ => ?_
    exact .bind (h.gives_optional hn he _ _) fun _ _ => .pure ⟨hplace⟩

theorem gives_readNamedInstance (hn : A node path) :
    (r.readNamedInstance node path).Gives P (NamedInstance.LiesIn P) := by
  have hplace := h.place hn
  unfold readNamedInstance
  cases he : node.entries? with
  | none =>
    exact .bind (h.gives_noteInvalid hn _) fun _ _ =>
      .pure ⟨hplace, hplace, by simp, by simp, by simp, hplace⟩
  | some entries =>
    refine .bind (h.gives_checkKeys hn he _) fun _ _ => ?_
    refine .bind (h.gives_required hn he _ _ _) fun _ hname => ?_
    refine .bind (h.gives_requiredReference hn he _ _ _) fun _ hclass => ?_
    refine .bind (h.gives_optionalReference hn he _ _) fun _ hinterface => ?_
    refine .bind (h.gives_readEntries h.gives_readAssignment hn _) fun _ hassignments => ?_
    exact .bind (h.gives_readEntries h.gives_readElement hn _) fun _ helements =>
      .pure ⟨hname, hclass, hinterface, hassignments, helements, hplace⟩

/-! ### Documents -/

theorem gives_readPackages (seen : List String) (start : Nat) (nodes : List Node)
    (hnodes : ∀ i v, nodes[i]? = some v →
      A v (LogicalPath.item path "packageReferences" (start + i))) :
    (r.readPackages path seen start nodes).Gives P fun _ => True := by
  induction nodes generalizing seen start with
  | nil => exact .pure trivial
  | cons node nodes ih =>
    have hplace := h.place (hnodes 0 node rfl)
    -- The paths of the later items count on from the next position.
    have hlater : ∀ seen, (r.readPackages path seen (start + 1) nodes).Gives P fun _ => True :=
      fun seen => ih seen (start + 1) fun i v hv => by
        rw [Nat.add_right_comm]
        exact hnodes (i + 1) v hv
    unfold readPackages
    dsimp only
    split
    · exact .bind (.note hplace) fun _ _ => hlater seen
    · split
      · exact .bind (.note hplace) fun _ _ => hlater seen
      · refine .bind (.noteIf fun _ => hplace) fun _ _ => ?_
        exact .bind (hlater _) fun _ _ => .pure trivial

omit h in
/-- A block that is absent or no mapping has no usable name. -/
theorem liesIn_absentCodeGen (node : Node) (path : String) :
    (r.absentCodeGen node path).LiesIn P := by
  constructor <;> simp [absentCodeGen, absent, Field.isValid]

theorem gives_readCodeGen {entries : List (String × Node)}
    (hn : A node LogicalPath.root) (he : node.entries? = some entries) :
    (r.readCodeGen node).Gives P (CodeGen.LiesIn P) := by
  unfold readCodeGen
  dsimp only
  cases hv : node.get? "codeGen" with
  | none =>
    exact .bind (.note (h.owner _ hn he)) fun _ _ => .pure (liesIn_absentCodeGen _ _)
  | some v =>
    have hblock := h.child hn hv (by decide)
    dsimp only
    cases hes : v.entries? with
    | none =>
      exact .bind (h.gives_noteInvalid hblock _) fun _ _ => .pure (liesIn_absentCodeGen _ _)
    | some blockEntries =>
      refine .bind (h.gives_checkKeys hblock hes _) fun _ _ => ?_
      refine .bind (h.gives_required hblock hes _ _ _) fun _ hregistry => ?_
      refine .bind (h.gives_required hblock hes _ _ _) fun _ _ => ?_
      refine .bind (h.gives_required hblock hes _ _ _) fun _ hnamespace => ?_
      refine .bind (h.gives_required hblock hes _ _ _) fun _ hinitializer => ?_
      refine .bind (h.gives_listing hblock _) fun packages hpackages => ?_
      refine .bind (h.gives_readPackages [] 0 packages.nodes fun i v hi => ?_) fun _ _ => ?_
      · rw [Nat.zero_add]
        exact hpackages.1 i v hi
      · exact .pure ⟨fun _ => hregistry, fun _ => hnamespace, fun _ => hinitializer⟩

theorem gives_readRoot {entries : List (String × Node)} (hn : A node LogicalPath.root)
    (he : node.entries? = some entries) :
    (r.readRoot node entries).Gives P (Model.LiesIn P) := by
  refine .bind (h.gives_checkKeys hn he _) fun _ _ => ?_
  refine .bind (h.gives_readCodeGen hn he) fun _ hcodeGen => ?_
  refine .bind (h.gives_readListing h.gives_readNamespace hn _) fun _ hnamespaces => ?_
  exact .bind (h.gives_readListing h.gives_readNamedInstance hn _) fun _ hinstances =>
    .pure ⟨hcodeGen, hnamespaces, hinstances⟩

end Charts

end Declared.Reading

end DependencyWiring
