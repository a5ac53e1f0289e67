import DependencyWiring.Declared.Reader
import DependencyWiring.Proofs.ComparedRuns

/-!
# Compared reading

Each key of a declaration has a role: it holds a text, a declaration, or a list of either. Two
documents are alike when nodes of one role are alike key by key and item by item, and a reader that
goes by the roles makes of nodes that are alike values that are alike. Which trees are alike is left
open here, as is the comparison, so that one walk through the readers serves every pair of runs.
-/
namespace DependencyWiring

/-! ## Roles -/

/-- What a node is read as. -/
inductive Role where
  | text
  | block (kind : Declaration)
  | list (item : Role)
  deriving DecidableEq, Repr

/-- The keys of a declaration, each with the role of its value. -/
def Declaration.fields : Declaration → List (String × Role)
  | document =>
    [("codeGen", .block .codeGen), ("namespaces", .list (.block .namespaceBlock)),
      ("namedInstances", .list (.block .namedInstance))]
  | codeGen =>
    [("registryClassName", .text), ("generatedCodePath", .text), ("namespaceName", .text),
      ("initializerName", .text), ("packageReferences", .list .text)]
  | namespaceBlock =>
    [("namespaceName", .text), ("interfaces", .list (.block .interfaceType)),
      ("classes", .list (.block .classType))]
  | interfaceType => [("interfaceName", .text)]
  | classType =>
    [("className", .text), ("qualifiedInterfaceName", .text),
      ("initializerParameters", .list (.block .parameter))]
  | parameter => [("name", .text), ("qualifiedClassName", .text), ("qualifiedInterfaceName", .text)]
  | namedInstance =>
    [("namedInstanceName", .text), ("qualifiedClassName", .text), ("qualifiedInterfaceName", .text),
      ("assignments", .list (.block .assignment)), ("elements", .list (.block .element))]
  | assignment =>
    [("parameterName", .text), ("assignmentValue", .text), ("namedInstanceName", .text)]
  | element => [("assignmentValue", .text), ("namedInstanceName", .text)]

/-- Exactly the keys that a declaration may have are read. -/
theorem Declaration.map_fst_fields (kind : Declaration) : kind.fields.map Prod.fst = kind.keys := by
  cases kind <;> rfl

/-! ## Documents that are alike -/

namespace Declared.Reading

open Report

/-- Each key that a declaration may not have is noted at the place of its value. -/
theorem notes_checkKeys (r : Reading) (entries : List (String × Node)) (kind : Declaration)
    (path : String) : (r.checkKeys entries kind path).notes =
      (entries.filter fun e => !kind.keys.contains e.1).map fun e =>
        ⟨.unknownKey e.1 kind, r.origin e.2 (LogicalPath.key path e.1)⟩ := by
  simp only [checkKeys, notes_bind, notes_pure, List.append_nil, notes_forEach]
  induction entries with
  | nil => rfl
  | cons e es ih =>
    rw [List.flatMap_cons, ih, List.filter_cons]
    cases kind.keys.contains e.1 <;> rfl

theorem isUnknownKey_of_checkKeys (r : Reading) (entries : List (String × Node))
    (kind : Declaration) (path : String) :
    ∀ n ∈ (r.checkKeys entries kind path).notes, n.isUnknownKey = true := by
  intro n hn
  rw [notes_checkKeys] at hn
  obtain ⟨e, -, rfl⟩ := List.mem_map.mp hn
  rfl

theorem filter_known_checkKeys (r : Reading) (entries : List (String × Node)) (kind : Declaration)
    (path : String) :
    (r.checkKeys entries kind path).notes.filter (fun n => !n.isUnknownKey) = [] := by
  rw [List.filter_eq_nil_iff]
  intro n hn
  simp [r.isUnknownKey_of_checkKeys entries kind path n hn]

/-- Nodes of one role that are alike are at places that compare, look the same, and hold nodes that
are alike. The keys of declarations that are alike give notes that compare. -/
structure Parallel (c : Comparison) (r r' : Reading) (A : Role → Node → Node → Prop) : Prop where
  source : r'.source = c.source r.source
  origin {role : Role} {n n' : Node} (path : String) :
    A role n n' → r'.origin n' path = c.origin (r.origin n path)
  provenance {role : Role} {n n' : Node} (path : String) :
    A role n n' → r'.provenance n' path = c.provenance (r.provenance n path)
  shape {role : Role} {n n' : Node} : A role n n' → n'.shape = n.shape
  text {role : Role} {n n' : Node} : A role n n' → n'.text? = n.text?
  keys {kind : Declaration} {n n' : Node} {entries entries' : List (String × Node)}
    (path : String) : A (.block kind) n n' → n.entries? = some entries →
      n'.entries? = some entries' →
      c.notes (r.checkKeys entries kind path).notes (r'.checkKeys entries' kind path).notes
  value {kind : Declaration} {n n' : Node} {key : String} {role : Role} :
    A (.block kind) n n' → (key, role) ∈ kind.fields →
      Option.Rel (A role) (n.get? key) (n'.get? key)
  item {role : Role} {n n' : Node} {items items' : List Node} :
    A (.list role) n n' → n.items? = some items → n'.items? = some items' →
      List.Forall₂ (A role) items items'

/-- What a key holds is alike in two documents. -/
inductive Listing.Alike (A : Role → Node → Node → Prop) (role : Role) : Listing → Listing → Prop
  | absent : Alike A role .absent .absent
  | invalid : Alike A role .invalid .invalid
  | items {nodes nodes' : List Node} {holder holder' : Node} :
      List.Forall₂ (A role) nodes nodes' → A (.list role) holder holder' →
      Alike A role (.items nodes holder) (.items nodes' holder')

namespace Parallel

variable {c : Comparison} {r r' : Reading} {A : Role → Node → Node → Prop}
  (h : Parallel c r r' A) {kind : Declaration} {n n' : Node}

/-! ### Fields -/

theorem matches_authored {value key : String} {o o' : Origin} {form : Option NameForm}
    (ho : o' = c.origin o) : (authored value o key form).Matches c
      (fun f f' => f' = f.relocate c.toRelocation) (authored value o' key form) := by
  subst ho
  cases form with
  | none => exact .pure rfl
  | some form =>
    dsimp only [authored]
    split
    · exact .pure rfl
    · exact .bind (.note rfl rfl) fun _ _ _ => .pure rfl

theorem matches_reference {text : Field} {key : String} {role : ReferenceRole} :
    (reference text key role).Matches c (fun ref ref' => ref' = ref.relocate c.toRelocation)
      (reference (text.relocate c.toRelocation) key role) := by
  have hvalid : (text.relocate c.toRelocation).isValid = text.isValid := rfl
  unfold reference
  rw [hvalid]
  split
  · dsimp only [Field.relocate]
    split
    · exact .bind (.note rfl rfl) fun _ _ _ => .pure rfl
    · split
      · exact .pure rfl
      · exact .bind (.note rfl rfl) fun _ _ _ => .pure rfl
  · exact .pure rfl

theorem matches_checkConcrete {name : Field} {classRef interfaceRef : Option Reference} :
    (checkConcrete name classRef interfaceRef).Matches c
      (fun ref ref' => ref' = ref.map (Reference.relocate c.toRelocation))
      (checkConcrete (name.relocate c.toRelocation)
        (classRef.map (Reference.relocate c.toRelocation))
        (interfaceRef.map (Reference.relocate c.toRelocation))) := by
  cases classRef with
  | none => exact .pure rfl
  | some ref =>
    cases interfaceRef with
    | none =>
      have hvalid : (ref.relocate c.toRelocation).text.isValid = ref.text.isValid := rfl
      have hparsed : (ref.relocate c.toRelocation).parsed = ref.parsed := rfl
      dsimp only [checkConcrete, Option.map]
      rw [hvalid, hparsed]
      split
      · exact .bind (.note rfl rfl) fun _ _ _ => .pure rfl
      · exact .pure rfl
    | some _ => exact .pure rfl

include h

/-- Nodes that are alike are both mappings or neither. -/
theorem entries_cases {role : Role} (hn : A role n n') :
    (n.entries? = none ∧ n'.entries? = none) ∨
      ∃ entries entries', n.entries? = some entries ∧ n'.entries? = some entries' := by
  have hshape := h.shape hn
  cases n <;> cases n' <;> simp_all [Node.shape, Node.entries?]

/-- Declarations that are alike both give a key, with values that are alike, or neither gives it. -/
theorem get_cases {key : String} {role : Role} (hn : A (.block kind) n n')
    (hkey : (key, role) ∈ kind.fields) :
    (n.get? key = none ∧ n'.get? key = none) ∨
      ∃ v v', n.get? key = some v ∧ n'.get? key = some v' ∧ A role v v' := by
  have hvalue := h.value hn hkey
  cases hv : n.get? key with
  | none =>
    cases hv' : n'.get? key with
    | none => exact .inl ⟨rfl, rfl⟩
    | some v' => simp [hv, hv'] at hvalue
  | some v =>
    cases hv' : n'.get? key with
    | none => simp [hv, hv'] at hvalue
    | some v' =>
      rw [hv, hv', Option.rel_some_some] at hvalue
      exact .inr ⟨v, v', rfl, rfl, hvalue⟩

theorem matches_noteInvalid {role : Role} (hn : A role n n') (path : String) :
    (r.noteInvalid n path kind).Matches c (fun _ _ => True) (r'.noteInvalid n' path kind) := by
  unfold noteInvalid
  rw [h.shape hn]
  exact .note rfl (h.origin path hn)

theorem absent_eq {role : Role} (hn : A role n n') (path value : String) :
    r'.absent n' path value = (r.absent n path value).relocate c.toRelocation := by
  simp only [absent, Field.relocate, h.origin path hn]

section

variable (hn : A (.block kind) n n') (path : String) {key : String}

include hn

theorem matches_checkKeys {entries entries' : List (String × Node)} (he : n.entries? = some entries)
    (he' : n'.entries? = some entries') :
    (r.checkKeys entries kind path).Matches c (fun _ _ => True)
      (r'.checkKeys entries' kind path) :=
  ⟨trivial, h.keys path hn he he'⟩

theorem matches_required (hkey : (key, .text) ∈ kind.fields) (form : Option NameForm) :
    (r.required n path key kind form).Matches c (fun f f' => f' = f.relocate c.toRelocation)
      (r'.required n' path key kind form) := by
  unfold required
  rcases h.get_cases hn hkey with ⟨hv, hv'⟩ | ⟨v, v', hv, hv', halike⟩
  · rw [hv, hv']
    refine .bind (.note rfl (h.origin _ hn)) fun _ _ _ => ?_
    exact .pure (h.absent_eq hn _ _)
  · rw [hv, hv']
    dsimp only
    rw [h.text halike, h.shape halike]
    have hplace := h.origin (LogicalPath.key path key) halike
    have habsent := h.absent_eq halike (LogicalPath.key path key) (Placeholder.missing key)
    cases v.text? with
    | none => exact .bind (.note rfl hplace) fun _ _ _ => .pure habsent
    | some text =>
      dsimp only
      split
      · exact .bind (.note rfl hplace) fun _ _ _ => .pure habsent
      · exact matches_authored hplace

theorem matches_optional (hkey : (key, .text) ∈ kind.fields) (form : Option NameForm) :
    (r.optional n path key form).Matches c
      (fun f f' => f' = f.map (Field.relocate c.toRelocation)) (r'.optional n' path key form) := by
  unfold optional
  rcases h.get_cases hn hkey with ⟨hv, hv'⟩ | ⟨v, v', hv, hv', halike⟩
  · rw [hv, hv']
    exact .pure rfl
  · rw [hv, hv']
    dsimp only
    rw [h.text halike, h.shape halike]
    have hplace := h.origin (LogicalPath.key path key) halike
    cases v.text? with
    | none => exact .bind (.note rfl hplace) fun _ _ _ => .pure rfl
    | some text =>
      dsimp only
      split
      · exact .pure rfl
      · exact .bindMap (matches_authored hplace) fun f => .pure rfl

theorem matches_requiredReference (hkey : (key, .text) ∈ kind.fields) (role : ReferenceRole) :
    (r.requiredReference n path key kind role).Matches c
      (fun ref ref' => ref' = ref.relocate c.toRelocation)
      (r'.requiredReference n' path key kind role) :=
  .bindMap (h.matches_required hn path hkey none) fun _ => matches_reference

theorem matches_optionalReference (hkey : (key, .text) ∈ kind.fields) (role : ReferenceRole) :
    (r.optionalReference n path key role).Matches c
      (fun ref ref' => ref' = ref.map (Reference.relocate c.toRelocation))
      (r'.optionalReference n' path key role) := by
  refine .bindMap (h.matches_optional hn path hkey none) fun f => ?_
  cases f with
  | none => exact .pure rfl
  | some text => exact .bindMap matches_reference fun ref => .pure rfl

/-! ### Lists -/

theorem matches_listing {role : Role} (hkey : (key, .list role) ∈ kind.fields) :
    (r.listing n path key).Matches c (Listing.Alike A role) (r'.listing n' path key) := by
  unfold listing
  rcases h.get_cases hn hkey with ⟨hv, hv'⟩ | ⟨v, v', hv, hv', halike⟩
  · rw [hv, hv']
    exact .pure .absent
  · rw [hv, hv']
    have hplace := h.origin (LogicalPath.key path key) halike
    have hshape := h.shape halike
    have htext := h.text halike
    cases v with
    | mapping =>
      cases v' with
      | mapping => exact .bind (.note rfl hplace) fun _ _ _ => .pure .invalid
      | sequence => simp [Node.shape] at hshape
      | scalar => simp [Node.shape] at hshape
    | sequence =>
      cases v' with
      | mapping => simp [Node.shape] at hshape
      | sequence => exact .pure (.items (h.item halike rfl rfl) halike)
      | scalar => simp [Node.shape] at hshape
    | scalar text =>
      cases v' with
      | mapping => simp [Node.shape] at hshape
      | sequence => simp [Node.shape] at hshape
      | scalar text' =>
        obtain rfl : text' = text := Option.some.inj htext
        dsimp only
        split
        · exact .pure .absent
        · exact .bind (.note rfl hplace) fun _ _ _ => .pure .invalid

section

variable {α : Type} {read read' : Node → String → Report α} {φ : α → α} {role : Role}
  (hread : ∀ {v v'} path, A role v v' →
    (read v path).Matches c (fun a a' => a' = φ a) (read' v' path))

include hread

omit h hn in
theorem matches_readItems {nodes nodes' : List Node} (hnodes : List.Forall₂ (A role) nodes nodes') :
    (readItems path key nodes read).Matches c (fun as as' => as' = as.map φ)
      (readItems path key nodes' read') :=
  .forEachFrom hnodes (fun i _ _ halike => hread (LogicalPath.item path key i) halike) 0

theorem matches_readListing (hkey : (key, .list role) ∈ kind.fields) :
    (r.readListing n path key read).Matches c (fun as as' => as' = as.map φ)
      (r'.readListing n' path key read') := by
  refine .bind (h.matches_listing hn path hkey) fun found found' halike => ?_
  cases halike with
  | absent => exact matches_readItems path hread .nil
  | invalid => exact matches_readItems path hread .nil
  | items hnodes _ => exact matches_readItems path hread hnodes

theorem matches_readEntries (hkey : (key, .list role) ∈ kind.fields) :
    (r.readEntries n path key read).Matches c (fun as as' => as' = as.map (List.map φ))
      (r'.readEntries n' path key read') := by
  refine .bind (h.matches_listing hn path hkey) fun found found' halike => ?_
  cases halike with
  | absent => exact .pure rfl
  | invalid => exact .pure rfl
  | @items nodes nodes' _ _ hnodes hholder =>
    have hempty : nodes'.isEmpty = nodes.isEmpty := by cases hnodes <;> rfl
    dsimp only
    rw [hempty]
    refine .bind (.noteIf rfl (h.origin _ hholder)) fun _ _ _ => ?_
    exact .bindMap (matches_readItems path hread hnodes) fun as => .pure rfl

end

end

/-! ### Declarations -/

theorem matches_readInterface (path : String) (hn : A (.block .interfaceType) n n') :
    (r.readInterface n path).Matches c (fun d d' => d' = d.relocate c.toRelocation)
      (r'.readInterface n' path) := by
  unfold readInterface
  rcases h.entries_cases hn with ⟨he, he'⟩ | ⟨entries, entries', he, he'⟩
  · rw [he, he']
    refine .bind (h.matches_noteInvalid hn path) fun _ _ _ => .pure ?_
    simp only [Interface.relocate, h.absent_eq hn, h.provenance path hn]
  · rw [he, he']
    refine .bind (h.matches_checkKeys hn path he he') fun _ _ _ => ?_
    refine .bindMap (h.matches_required hn path (by decide) _) fun name => .pure ?_
    simp only [Interface.relocate, h.provenance path hn]

theorem matches_readParameter (path : String) (hn : A (.block .parameter) n n') :
    (r.readParameter n path).Matches c (fun d d' => d' = d.relocate c.toRelocation)
      (r'.readParameter n' path) := by
  unfold readParameter
  rcases h.entries_cases hn with ⟨he, he'⟩ | ⟨entries, entries', he, he'⟩
  · rw [he, he']
    refine .bind (h.matches_noteInvalid hn path) fun _ _ _ => .pure ?_
    simp only [Parameter.relocate, Option.map_none, h.absent_eq hn, h.provenance path hn]
  · rw [he, he']
    refine .bind (h.matches_checkKeys hn path he he') fun _ _ _ => ?_
    refine .bindMap (h.matches_required hn path (by decide) _) fun name => ?_
    refine .bindMap (h.matches_optionalReference hn path (by decide) _) fun classRef => ?_
    refine .bindMap (h.matches_optionalReference hn path (by decide) _) fun interfaceRef => ?_
    refine .bindMap matches_checkConcrete fun classRef => .pure ?_
    simp only [Parameter.relocate, h.provenance path hn]

theorem matches_readParameters (path : String) (hn : A (.block .classType) n n') :
    (r.readParameters n path).Matches c
      (fun ps ps' => ps' = ps.map (List.map (Parameter.relocate c.toRelocation)))
      (r'.readParameters n' path) := by
  have hkey : ("initializerParameters", .list (.block .parameter)) ∈
      Declaration.fields .classType := by decide
  refine .bind (h.matches_listing hn path hkey) fun found found' halike => ?_
  cases halike with
  | absent => exact .bind (.note rfl (h.origin _ hn)) fun _ _ _ => .pure rfl
  | invalid => exact .pure rfl
  | items hnodes _ =>
    exact .bindMap (matches_readItems path h.matches_readParameter hnodes) fun ps => .pure rfl

theorem matches_readClass (path : String) (hn : A (.block .classType) n n') :
    (r.readClass n path).Matches c (fun d d' => d' = d.relocate c.toRelocation)
      (r'.readClass n' path) := by
  unfold readClass
  rcases h.entries_cases hn with ⟨he, he'⟩ | ⟨entries, entries', he, he'⟩
  · rw [he, he']
    refine .bind (h.matches_noteInvalid hn path) fun _ _ _ => .pure ?_
    simp only [Class.relocate, Option.map_none, Option.map_some, List.map_nil, h.absent_eq hn,
      h.provenance path hn]
  · rw [he, he']
    refine .bind (h.matches_checkKeys hn path he he') fun _ _ _ => ?_
    refine .bindMap (h.matches_required hn path (by decide) _) fun name => ?_
    refine .bindMap (h.matches_optionalReference hn path (by decide) _) fun interfaceRef => ?_
    refine .bindMap (h.matches_readParameters path hn) fun parameters => .pure ?_
    simp only [Class.relocate, h.provenance path hn]

theorem matches_readNamespace (path : String) (hn : A (.block .namespaceBlock) n n') :
    (r.readNamespace n path).Matches c (fun d d' => d' = d.relocate c.toRelocation)
      (r'.readNamespace n' path) := by
  unfold readNamespace
  rcases h.entries_cases hn with ⟨he, he'⟩ | ⟨entries, entries', he, he'⟩
  · rw [he, he']
    refine .bind (h.matches_noteInvalid hn path) fun _ _ _ => .pure ?_
    simp only [Namespace.relocate, List.map_nil, h.absent_eq hn, h.provenance path hn]
  · rw [he, he']
    refine .bind (h.matches_checkKeys hn path he he') fun _ _ _ => ?_
    refine .bindMap (h.matches_required hn path (by decide) _) fun name => ?_
    refine .bindMap (h.matches_readListing hn path h.matches_readInterface (by decide))
      fun interfaces => ?_
    refine .bindMap (h.matches_readListing hn path h.matches_readClass (by decide))
      fun classes => .pure ?_
    simp only [Namespace.relocate, h.provenance path hn]

theorem matches_readAssignment (path : String) (hn : A (.block .assignment) n n') :
    (r.readAssignment n path).Matches c (fun d d' => d' = d.relocate c.toRelocation)
      (r'.readAssignment n' path) := by
  unfold readAssignment
  rcases h.entries_cases hn with ⟨he, he'⟩ | ⟨entries, entries', he, he'⟩
  · rw [he, he']
    refine .bind (h.matches_noteInvalid hn path) fun _ _ _ => .pure ?_
    simp only [Assignment.relocate, Option.map_none, h.absent_eq hn, h.provenance path hn]
  · rw [he, he']
    refine .bind (h.matches_checkKeys hn path he he') fun _ _ _ => ?_
    refine .bindMap (h.matches_required hn path (by decide) _) fun parameterName => ?_
    refine .bindMap (h.matches_optional hn path (by decide) _) fun value => ?_
    refine .bindMap (h.matches_optional hn path (by decide) _) fun instanceRef => .pure ?_
    simp only [Assignment.relocate, h.provenance path hn]

theorem matches_readElement (path : String) (hn : A (.block .element) n n') :
    (r.readElement n path).Matches c (fun d d' => d' = d.relocate c.toRelocation)
      (r'.readElement n' path) := by
  unfold readElement
  rcases h.entries_cases hn with ⟨he, he'⟩ | ⟨entries, entries', he, he'⟩
  · rw [he, he']
    refine .bind (h.matches_noteInvalid hn path) fun _ _ _ => .pure ?_
    simp only [Element.relocate, Option.map_none, h.provenance path hn]
  · rw [he, he']
    refine .bind (h.matches_checkKeys hn path he he') fun _ _ _ => ?_
    refine .bindMap (h.matches_optional hn path (by decide) _) fun value => ?_
    refine .bindMap (h.matches_optional hn path (by decide) _) fun instanceRef => .pure ?_
    simp only [Element.relocate, h.provenance path hn]

theorem matches_readNamedInstance (path : String) (hn : A (.block .namedInstance) n n') :
    (r.readNamedInstance n path).Matches c (fun d d' => d' = d.relocate c.toRelocation)
      (r'.readNamedInstance n' path) := by
  unfold readNamedInstance
  rcases h.entries_cases hn with ⟨he, he'⟩ | ⟨entries, entries', he, he'⟩
  · rw [he, he']
    refine .bind (h.matches_noteInvalid hn path) fun _ _ _ => .pure ?_
    simp only [NamedInstance.relocate, Reference.relocate, Option.map_none, h.absent_eq hn,
      h.provenance path hn]
  · rw [he, he']
    refine .bind (h.matches_checkKeys hn path he he') fun _ _ _ => ?_
    refine .bindMap (h.matches_required hn path (by decide) _) fun name => ?_
    refine .bindMap (h.matches_requiredReference hn path (by decide) _) fun classRef => ?_
    refine .bindMap (h.matches_optionalReference hn path (by decide) _) fun interfaceRef => ?_
    refine .bindMap (h.matches_readEntries hn path h.matches_readAssignment (by decide))
      fun assignments => ?_
    refine .bindMap (h.matches_readEntries hn path h.matches_readElement (by decide))
      fun elements => .pure ?_
    simp only [NamedInstance.relocate, h.provenance path hn]

/-! ### Documents -/

/-- Which package references are noted as repeated depends on their texts alone. -/
theorem matches_readPackages (path : String) {nodes nodes' : List Node}
    (hnodes : List.Forall₂ (A .text) nodes nodes') (seen : List String) (start : Nat) :
    (r.readPackages path seen start nodes).Matches c
      (fun fs fs' => fs' = fs.map (Field.relocate c.toRelocation))
      (r'.readPackages path seen start nodes') := by
  induction hnodes generalizing seen start with
  | nil => exact .pure rfl
  | cons halike _ ih =>
    unfold readPackages
    dsimp only
    rw [h.text halike, h.shape halike]
    have hplace := h.origin (LogicalPath.item path "packageReferences" start) halike
    split
    · exact .bind (.note rfl hplace) fun _ _ _ => ih seen (start + 1)
    · split
      · exact .bind (.note rfl hplace) fun _ _ _ => ih seen (start + 1)
      · refine .bind (.noteIf rfl hplace) fun _ _ _ => ?_
        refine .bindMap (ih _ (start + 1)) fun later => .pure ?_
        rw [hplace]
        rfl

theorem absentCodeGen_eq {role : Role} (hn : A role n n') (path : String) :
    r'.absentCodeGen n' path = (r.absentCodeGen n path).relocate c.toRelocation := by
  simp only [absentCodeGen, CodeGen.relocate, List.map_nil, h.absent_eq hn, h.provenance path hn]

theorem matches_readCodeGen (hn : A (.block .document) n n') :
    (r.readCodeGen n).Matches c (fun d d' => d' = d.relocate c.toRelocation)
      (r'.readCodeGen n') := by
  unfold readCodeGen
  have hblock : ("codeGen", .block .codeGen) ∈ Declaration.fields .document := by decide
  have hpackages : ("packageReferences", .list .text) ∈ Declaration.fields .codeGen := by decide
  rcases h.get_cases hn hblock with ⟨hv, hv'⟩ | ⟨v, v', hv, hv', halike⟩
  · rw [hv, hv']
    refine .bind (.note rfl (h.origin _ hn)) fun _ _ _ => ?_
    exact .pure (h.absentCodeGen_eq hn _)
  · rw [hv, hv']
    dsimp only
    rcases h.entries_cases halike with ⟨he, he'⟩ | ⟨entries, entries', he, he'⟩
    · rw [he, he']
      refine .bind (h.matches_noteInvalid halike _) fun _ _ _ => ?_
      exact .pure (h.absentCodeGen_eq halike _)
    · rw [he, he']
      refine .bind (h.matches_checkKeys halike _ he he') fun _ _ _ => ?_
      refine .bindMap (h.matches_required halike _ (by decide) _) fun registryClassName => ?_
      refine .bindMap (h.matches_required halike _ (by decide) _) fun generatedCodePath => ?_
      refine .bindMap (h.matches_required halike _ (by decide) _) fun namespaceName => ?_
      refine .bindMap (h.matches_required halike _ (by decide) _) fun initializerName => ?_
      refine .bind (h.matches_listing halike _ hpackages) fun found found' hfound => ?_
      have hnodes : List.Forall₂ (A .text) found.nodes found'.nodes := by
        cases hfound with
        | absent => exact .nil
        | invalid => exact .nil
        | items hnodes _ => exact hnodes
      refine .bindMap (h.matches_readPackages _ hnodes [] 0) fun packages => .pure ?_
      simp only [CodeGen.relocate, h.provenance _ halike]

theorem matches_readRoot {entries entries' : List (String × Node)} (hn : A (.block .document) n n')
    (he : n.entries? = some entries) (he' : n'.entries? = some entries') :
    (r.readRoot n entries).Matches c (fun d d' => d' = d.relocate c.toRelocation)
      (r'.readRoot n' entries') := by
  refine .bind (h.matches_checkKeys hn _ he he') fun _ _ _ => ?_
  refine .bindMap (h.matches_readCodeGen hn) fun codeGen => ?_
  refine .bindMap (h.matches_readListing hn _ h.matches_readNamespace (by decide))
    fun namespaces => ?_
  refine .bindMap (h.matches_readListing hn _ h.matches_readNamedInstance (by decide))
    fun namedInstances => .pure ?_
  simp only [Model.relocate, h.source, h.provenance _ hn]

/-- A document of which nothing is read has one that is alike of which nothing is read, and all
others are read alike. -/
theorem readDocument_cases (hn : A (.block .document) n n')
    (hempty : n.entries? = some [] ↔ n'.entries? = some []) :
    (∃ cause, r.readDocument n = .error cause ∧
      r'.readDocument n' = .error ⟨cause.finding, c.origin cause.origin⟩) ∨
    ∃ p q, r.readDocument n = .ok p ∧ r'.readDocument n' = .ok q ∧
      p.Matches c (fun d d' => d' = d.relocate c.toRelocation) q := by
  unfold readDocument
  dsimp only
  rw [h.origin LogicalPath.root hn, h.shape hn]
  rcases h.entries_cases hn with ⟨he, he'⟩ | ⟨entries, entries', he, he'⟩
  · rw [he, he']
    exact .inl ⟨_, rfl, rfl⟩
  · rw [he, he', Option.some.injEq, Option.some.injEq] at hempty
    have hroot := h.matches_readRoot hn he he'
    rw [he, he']
    cases entries with
    | nil =>
      obtain rfl := hempty.mp rfl
      exact .inl ⟨_, rfl, rfl⟩
    | cons e es =>
      cases entries' with
      | nil => exact absurd (hempty.mpr rfl) (List.cons_ne_nil e es)
      | cons e' es' => exact .inr ⟨_, _, rfl, rfl, hroot⟩

end Parallel

end Declared.Reading

end DependencyWiring
