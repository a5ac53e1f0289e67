import DependencyWiring.Proofs.ListedEntities
import DependencyWiring.Proofs.Surroundings

/-!
# Names noted while reading

A reader notes that a name has not the form asked for at the place of the key that holds the name.
The keys that can hold one are known for each slot, and no two of them are at one place. A list of
places bounds the notes of a reader here: they are at places of the list, in its order, and at each
at most once. So a whole document has at most one such note at each place.
-/
namespace DependencyWiring

open Report

/-! ## Places of names -/

namespace Slot

/-- The keys of a declaration that hold a name or a type token. -/
def nameKeys : Slot → List String
  | namespaceBlock _ => ["namespaceName"]
  | interfaceType .. => ["interfaceName"]
  | classType .. => ["className", "qualifiedInterfaceName"]
  | parameter .. => ["name", "qualifiedClassName", "qualifiedInterfaceName"]
  | namedInstance _ => ["namedInstanceName", "qualifiedClassName", "qualifiedInterfaceName"]
  | assignment .. => ["parameterName", "namedInstanceName"]
  | element .. => ["namedInstanceName"]

def namePaths (s : Slot) : List String :=
  s.nameKeys.map (LogicalPath.key s.path)

theorem path_listed (s : Slot) {name : String} {index : Nat} (h : s.keys = [(name, index)]) :
    s.path = LogicalPath.item LogicalPath.root name index := by
  rw [path_eq_foldl, h]
  rfl

theorem path_owned (owner s : Slot) {name : String} {index : Nat}
    (h : s.keys = owner.keys ++ [(name, index)]) :
    s.path = LogicalPath.item owner.path name index := by
  rw [path_eq_foldl, path_eq_foldl, h, List.foldl_append]
  rfl

theorem dot_not_mem_of_mem_nameKeys (s : Slot) {key : String} (h : key ∈ s.nameKeys) :
    '.' ∉ key.toList := by
  revert h key
  cases s <;> simp [nameKeys]

/-- A key behind a slot is the last piece of its path, and the others are those of the slot. -/
theorem pieces_key_path (s : Slot) {key : String} (h : '.' ∉ key.toList) :
    Text.pieces '.' (LogicalPath.key s.path key).toList =
      s.keys.map Trail.segment ++ [key.toList] := by
  have hsplit : (LogicalPath.key s.path key).toList = s.path.toList ++ '.' :: key.toList := by
    simp [LogicalPath.key, s.path_ne_root]
  obtain ⟨e, es, hcons⟩ := s.exists_keys_eq_cons
  rw [hsplit, Text.pieces_append, Text.pieces_eq_singleton h, path, trail, hcons,
    Trail.pieces_path_ofKeys (hcons ▸ s.isPlainKey_of_mem)]

/-- A key behind a slot tells the slot. -/
theorem key_path_inj {s t : Slot} {key key' : String} (hkey : '.' ∉ key.toList)
    (hkey' : '.' ∉ key'.toList) (h : LogicalPath.key s.path key = LogicalPath.key t.path key') :
    s = t ∧ key = key' := by
  have hpieces := congrArg (fun path : String => Text.pieces '.' path.toList) h
  simp only [pieces_key_path s hkey, pieces_key_path t hkey'] at hpieces
  obtain ⟨hkeys, hlast⟩ := List.append_inj' hpieces rfl
  constructor
  · exact keys_inj (Trail.map_segment_inj s.isPlainKey_of_mem t.isPlainKey_of_mem hkeys)
  · simpa [String.toList_inj] using hlast

theorem nodup_namePaths (s : Slot) : s.namePaths.Nodup := by
  have hkeys : s.nameKeys.Nodup := by
    cases s <;> simp [nameKeys]
  apply List.Nodup.map_on _ hkeys
  intro key hkey key' hkey' h
  exact (key_path_inj (s.dot_not_mem_of_mem_nameKeys hkey)
    (s.dot_not_mem_of_mem_nameKeys hkey') h).2

theorem disjoint_namePaths {s t : Slot} (h : s ≠ t) : List.Disjoint s.namePaths t.namePaths := by
  intro path hs ht
  obtain ⟨key, hkey, rfl⟩ := List.mem_map.mp hs
  obtain ⟨key', hkey', hsame⟩ := List.mem_map.mp ht
  exact h (key_path_inj (t.dot_not_mem_of_mem_nameKeys hkey')
    (s.dot_not_mem_of_mem_nameKeys hkey) hsame).1.symm

end Slot

namespace Declared

/-! Behind the names of an owner come those of what it holds. -/

theorem Class.namePaths_entities (d : Class) (i j : Nat) :
    ((d.entities i j).flatMap fun e => e.1.namePaths) =
      LogicalPath.key (Slot.classType i j).path "className" ::
        LogicalPath.key (Slot.classType i j).path "qualifiedInterfaceName" ::
          (d.parameters.getD []).zipIdx.flatMap fun p => (Slot.parameter i j p.2).namePaths := by
  simp [entities, List.flatMap_map, Slot.namePaths, Slot.nameKeys]

theorem Namespace.namePaths_entities (d : Namespace) (i : Nat) :
    ((d.entities i).flatMap fun e => e.1.namePaths) =
      LogicalPath.key (Slot.namespaceBlock i).path "namespaceName" ::
        ((d.interfaces.zipIdx.flatMap fun p => (Slot.interfaceType i p.2).namePaths) ++
          d.classes.zipIdx.flatMap fun p =>
            (p.1.entities i p.2).flatMap fun e => e.1.namePaths) := by
  simp [entities, List.flatMap_map, List.flatMap_assoc, Slot.namePaths, Slot.nameKeys]

theorem NamedInstance.namePaths_entities (d : NamedInstance) (i : Nat) :
    ((d.entities i).flatMap fun e => e.1.namePaths) =
      LogicalPath.key (Slot.namedInstance i).path "namedInstanceName" ::
        LogicalPath.key (Slot.namedInstance i).path "qualifiedClassName" ::
          LogicalPath.key (Slot.namedInstance i).path "qualifiedInterfaceName" ::
            (((d.assignments.getD []).zipIdx.flatMap fun p => (Slot.assignment i p.2).namePaths) ++
              (d.elements.getD []).zipIdx.flatMap fun p => (Slot.element i p.2).namePaths) := by
  simp [entities, List.flatMap_map, Slot.namePaths, Slot.nameKeys]

end Declared

/-- The places of names in the block for generated code. -/
def Declared.CodeGen.namePaths : List String :=
  ["registryClassName", "namespaceName", "initializerName"].map
    (LogicalPath.key (LogicalPath.key LogicalPath.root "codeGen"))

/-- All places of names in a model. -/
def Declared.Model.namePaths (d : Declared.Model) : List String :=
  Declared.CodeGen.namePaths ++ d.entities.flatMap fun e => e.1.namePaths

theorem Declared.CodeGen.pieces_of_mem_namePaths {path : String} (h : path ∈ namePaths) :
    (Text.pieces '.' path.toList).head? = some "codeGen".toList := by
  revert path
  decide +kernel

/-- No two names are at one place. -/
theorem Declared.Model.nodup_namePaths (d : Declared.Model) : d.namePaths.Nodup := by
  have hslots : (d.entities.flatMap fun e => e.1.namePaths) =
      (d.entities.map Prod.fst).flatMap Slot.namePaths := by
    rw [List.flatMap_map]
  rw [namePaths, hslots, List.nodup_append', List.nodup_flatMap]
  refine ⟨by decide +kernel, ⟨fun s _ => s.nodup_namePaths, ?_⟩, ?_⟩
  · exact d.nodup_entities.imp fun hne => Slot.disjoint_namePaths hne
  -- A slot has a position behind its first key, and the block for generated code has none.
  · intro path hblock hslot
    have hhead := Declared.CodeGen.pieces_of_mem_namePaths hblock
    obtain ⟨s, -, hpath⟩ := List.mem_flatMap.mp hslot
    obtain ⟨key, hkey, rfl⟩ := List.mem_map.mp hpath
    rw [s.pieces_key_path (s.dot_not_mem_of_mem_nameKeys hkey)] at hhead
    cases s <;> simp [Slot.keys, Trail.segment] at hhead

/-! ## Notes at places -/

namespace Report

variable {α β : Type}

/-- The notes on the forms of names are at places of the list, in their order and at most one at
each. -/
def NamesAmong (r : Report α) (paths : List String) : Prop :=
  ((r.notes.filter fun n => n.code.isNameForm).map fun n => n.origin.path).Sublist paths

namespace NamesAmong

variable {r : Report α} {f : α → Report β} {paths paths' : List String}

theorem of_codes (h : ∀ n ∈ r.notes, n.code.isNameForm = false) : r.NamesAmong paths := by
  have hnone : (r.notes.filter fun n => n.code.isNameForm) = [] := by
    rw [List.filter_eq_nil_iff]
    intro n hn
    simp [h n hn]
  rw [NamesAmong, hnone]
  exact List.nil_sublist _

/-- A note is at most at its own place. -/
protected theorem note (finding : Finding) (origin : Origin) :
    (Report.note finding origin).NamesAmong [origin.path] :=
  List.filter_sublist.map _

theorem silent {finding : Finding} (h : finding.code.isNameForm = false) (origin : Origin) :
    (Report.note finding origin).NamesAmong paths :=
  .of_codes fun n hn => by rwa [List.mem_singleton.mp hn]

theorem noteIf {finding : Finding} (h : finding.code.isNameForm = false) (condition : Bool)
    (origin : Origin) : (Report.noteIf condition finding origin).NamesAmong paths :=
  .of_codes fun n hn => by rwa [eq_of_mem_noteIf hn]

protected theorem pure (a : α) : (pure a : Report α).NamesAmong paths :=
  List.nil_sublist _

theorem append (h : r.NamesAmong paths) (h' : (f r.value).NamesAmong paths') :
    (r >>= f).NamesAmong (paths ++ paths') := by
  rw [NamesAmong, notes_bind, List.filter_append, List.map_append]
  exact List.Sublist.append h h'

theorem cons {path : String} (h : r.NamesAmong [path]) (h' : (f r.value).NamesAmong paths') :
    (r >>= f).NamesAmong (path :: paths') :=
  h.append h'

theorem skip (h : r.NamesAmong []) (h' : (f r.value).NamesAmong paths') :
    (r >>= f).NamesAmong paths' :=
  h.append h'

theorem last (h : r.NamesAmong paths) (h' : (f r.value).NamesAmong []) :
    (r >>= f).NamesAmong paths := by
  have hboth := h.append h'
  rwa [List.append_nil] at hboth

theorem forEachFrom {read : Nat → α → Report β} (paths : β → Nat → List String) (start : Nat)
    (as : List α) (h : ∀ i a, (read i a).NamesAmong (paths (read i a).value i)) :
    (Report.forEachFrom read start as).NamesAmong
      (((Report.forEachFrom read start as).value.zipIdx start).flatMap fun p => paths p.1 p.2) := by
  induction as generalizing start with
  | nil => exact .pure _
  -- The places of the first item come before those of the others, as its notes do.
  | cons a as ih => exact .append (h start a) (.last (ih (start + 1)) (.pure _))

end NamesAmong

end Report

namespace Declared.Reading

variable (r : Reading)

/-! ### Fields -/

theorem namesAmong_checkKeys (entries : List (String × Node)) (kind : Declaration)
    (path : String) : (r.checkKeys entries kind path).NamesAmong [] := by
  apply NamesAmong.of_codes
  intro n hn
  rw [checkKeys, notes_bind, notes_pure, List.append_nil, notes_forEach, List.mem_flatMap] at hn
  obtain ⟨entry, -, hnote⟩ := hn
  rw [eq_of_mem_noteIf hnote]
  rfl

theorem namesAmong_noteInvalid (node : Node) (path : String) (kind : Declaration) :
    (r.noteInvalid node path kind).NamesAmong [] :=
  .silent rfl _

/-- Where no form is asked for, a text of any form is taken. -/
theorem namesAmong_authored (value : String) (origin : Origin) (key : String)
    (form : Option NameForm) :
    (authored value origin key form).NamesAmong (form.toList.map fun _ => origin.path) := by
  unfold authored
  cases form with
  | none => exact .pure _
  | some form =>
    dsimp only
    split
    · exact .pure _
    · exact .last (.note _ _) (.pure _)

theorem namesAmong_required (parent : Node) (path key : String) (kind : Declaration)
    (form : Option NameForm) : (r.required parent path key kind form).NamesAmong
      (form.toList.map fun _ => LogicalPath.key path key) := by
  unfold required
  cases parent.get? key with
  | none => exact .last (.silent rfl _) (.pure _)
  | some node =>
    dsimp only
    cases node.text? with
    | none => exact .last (.silent rfl _) (.pure _)
    | some text =>
      dsimp only
      split
      · exact .last (.silent rfl _) (.pure _)
      · exact namesAmong_authored text _ key form

theorem namesAmong_optional (parent : Node) (path key : String) (form : Option NameForm) :
    (r.optional parent path key form).NamesAmong
      (form.toList.map fun _ => LogicalPath.key path key) := by
  unfold optional
  cases parent.get? key with
  | none => exact .pure _
  | some node =>
    dsimp only
    cases node.text? with
    | none => exact .last (.silent rfl _) (.pure _)
    | some text =>
      dsimp only
      split
      · exact .pure _
      · exact .last (namesAmong_authored text _ key form) (.pure _)

theorem path_required (parent : Node) (path key : String) (kind : Declaration) :
    (r.required parent path key kind none).value.origin.path = LogicalPath.key path key := by
  unfold required
  cases parent.get? key with
  | none => rfl
  | some node =>
    dsimp only
    cases node.text? with
    | none => rfl
    | some text =>
      dsimp only
      split <;> rfl

theorem path_optional {parent : Node} {path key : String} {f : Field}
    (h : (r.optional parent path key none).value = some f) :
    f.origin.path = LogicalPath.key path key := by
  unfold optional at h
  cases hnode : parent.get? key with
  | none => simp [hnode] at h
  | some node =>
    cases htext : node.text? with
    | none => simp [hnode, htext] at h
    | some text =>
      by_cases hnull : isNull text = true
      · simp [hnode, htext, hnull] at h
      · simp only [hnode, htext, hnull, authored] at h
        cases h
        rfl

theorem namesAmong_reference (text : Field) (key : String) (role : ReferenceRole) :
    (reference text key role).NamesAmong [text.origin.path] := by
  unfold reference
  split
  · split
    · exact .last (.note _ _) (.pure _)
    · split
      · exact .pure _
      · exact .last (.note _ _) (.pure _)
  · exact .pure _

theorem namesAmong_requiredReference (parent : Node) (path key : String) (kind : Declaration)
    (role : ReferenceRole) :
    (r.requiredReference parent path key kind role).NamesAmong [LogicalPath.key path key] := by
  have href := namesAmong_reference (r.required parent path key kind none).value key role
  rw [r.path_required] at href
  exact .skip (r.namesAmong_required parent path key kind none) href

theorem namesAmong_optionalReference (parent : Node) (path key : String) (role : ReferenceRole) :
    (r.optionalReference parent path key role).NamesAmong [LogicalPath.key path key] := by
  refine .skip (r.namesAmong_optional parent path key none) ?_
  cases htext : (r.optional parent path key none).value with
  | none => exact .pure _
  | some text =>
    have href := namesAmong_reference text key role
    rw [r.path_optional htext] at href
    exact .last href (.pure _)

theorem namesAmong_checkConcrete (name : Field) (classRef interfaceRef : Option Reference) :
    (checkConcrete name classRef interfaceRef).NamesAmong [] := by
  unfold checkConcrete
  split
  · split
    · exact .last (.silent rfl _) (.pure _)
    · exact .pure _
  · exact .pure _

/-! ### Lists -/

theorem namesAmong_listing (parent : Node) (path key : String) :
    (r.listing parent path key).NamesAmong [] := by
  unfold listing
  split
  · exact .pure _
  · exact .pure _
  · split
    · exact .pure _
    · exact .last (.silent rfl _) (.pure _)
  · exact .last (.silent rfl _) (.pure _)

theorem namesAmong_readPackages (path : String) (seen : List String) (start : Nat)
    (nodes : List Node) : (r.readPackages path seen start nodes).NamesAmong [] := by
  induction nodes generalizing seen start with
  | nil => exact .pure _
  | cons node nodes ih =>
    unfold readPackages
    dsimp only
    split
    · exact .last (.silent rfl _) (ih _ _)
    · split
      · exact .last (.silent rfl _) (ih _ _)
      · exact .last (.noteIf rfl _ _) (.last (ih _ _) (.pure _))

section

variable {α : Type} {path key : String} {read : Node → String → Report α}
  (paths : α → Nat → List String)
  (h : ∀ n i, (read n (LogicalPath.item path key i)).NamesAmong
    (paths (read n (LogicalPath.item path key i)).value i))

include h

theorem namesAmong_readItems (items : List Node) : (readItems path key items read).NamesAmong
    ((readItems path key items read).value.zipIdx.flatMap fun p => paths p.1 p.2) :=
  NamesAmong.forEachFrom paths 0 items fun i n => h n i

theorem namesAmong_readListing (parent : Node) : (r.readListing parent path key read).NamesAmong
    ((r.readListing parent path key read).value.zipIdx.flatMap fun p => paths p.1 p.2) :=
  .skip (r.namesAmong_listing parent path key) (namesAmong_readItems paths h _)

theorem namesAmong_readEntries (node : Node) : (r.readEntries node path key read).NamesAmong
    (((r.readEntries node path key read).value.getD []).zipIdx.flatMap fun p =>
      paths p.1 p.2) := by
  rw [readEntries, value_bind]
  refine .skip (r.namesAmong_listing node path key) ?_
  cases (r.listing node path key).value with
  | items nodes holder =>
    exact .skip (.noteIf rfl _ _) (.last (namesAmong_readItems paths h nodes) (.pure _))
  | _ => exact .pure _

end

theorem namesAmong_readParameters (node : Node) (path : String)
    (paths : Parameter → Nat → List String)
    (h : ∀ n i, (r.readParameter n (LogicalPath.item path "initializerParameters" i)).NamesAmong
      (paths (r.readParameter n (LogicalPath.item path "initializerParameters" i)).value i)) :
    (r.readParameters node path).NamesAmong
      (((r.readParameters node path).value.getD []).zipIdx.flatMap fun p => paths p.1 p.2) := by
  rw [readParameters, value_bind]
  refine .skip (r.namesAmong_listing node path _) ?_
  cases (r.listing node path "initializerParameters").value with
  | items nodes holder => exact .last (namesAmong_readItems paths h nodes) (.pure _)
  | invalid => exact .pure _
  | absent => exact .last (.silent rfl _) (.pure _)

/-! ### Declarations -/

theorem namesAmong_readCodeGen (root : Node) :
    (r.readCodeGen root).NamesAmong CodeGen.namePaths := by
  unfold readCodeGen
  dsimp only
  cases root.get? "codeGen" with
  | none => exact .last (.silent rfl _) (.pure _)
  | some node =>
    dsimp only
    cases node.entries? with
    | none => exact .skip (r.namesAmong_noteInvalid node _ _) (.pure _)
    | some entries =>
      refine .skip (r.namesAmong_checkKeys entries _ _) ?_
      refine .cons (r.namesAmong_required node _ _ _ (some .simple)) ?_
      refine .skip (r.namesAmong_required node _ _ _ none) ?_
      refine .cons (r.namesAmong_required node _ _ _ (some .simpleOrQualified)) ?_
      refine .cons (r.namesAmong_required node _ _ _ (some .simple)) ?_
      refine .skip (r.namesAmong_listing node _ _) ?_
      exact .last (r.namesAmong_readPackages _ _ _ _) (.pure _)

theorem namesAmong_readInterface (node : Node) (i j : Nat) :
    (r.readInterface node (Slot.interfaceType i j).path).NamesAmong
      (Slot.interfaceType i j).namePaths := by
  unfold readInterface
  cases node.entries? with
  | none => exact .skip (r.namesAmong_noteInvalid node _ _) (.pure _)
  | some entries =>
    refine .skip (r.namesAmong_checkKeys entries _ _) ?_
    exact .last (r.namesAmong_required node _ _ _ (some .simple)) (.pure _)

theorem namesAmong_readParameter (node : Node) (i j k : Nat) :
    (r.readParameter node (Slot.parameter i j k).path).NamesAmong
      (Slot.parameter i j k).namePaths := by
  unfold readParameter
  cases node.entries? with
  | none => exact .skip (r.namesAmong_noteInvalid node _ _) (.pure _)
  | some entries =>
    refine .skip (r.namesAmong_checkKeys entries _ _) ?_
    refine .cons (r.namesAmong_required node _ _ _ (some .simple)) ?_
    refine .cons (r.namesAmong_optionalReference node _ _ _) ?_
    refine .cons (r.namesAmong_optionalReference node _ _ _) ?_
    exact .last (namesAmong_checkConcrete _ _ _) (.pure _)

theorem namesAmong_readAssignment (node : Node) (i j : Nat) :
    (r.readAssignment node (Slot.assignment i j).path).NamesAmong
      (Slot.assignment i j).namePaths := by
  unfold readAssignment
  cases node.entries? with
  | none => exact .skip (r.namesAmong_noteInvalid node _ _) (.pure _)
  | some entries =>
    refine .skip (r.namesAmong_checkKeys entries _ _) ?_
    refine .cons (r.namesAmong_required node _ _ _ (some .simple)) ?_
    refine .skip (r.namesAmong_optional node _ _ none) ?_
    exact .last (r.namesAmong_optional node _ _ (some .simple)) (.pure _)

theorem namesAmong_readElement (node : Node) (i j : Nat) :
    (r.readElement node (Slot.element i j).path).NamesAmong (Slot.element i j).namePaths := by
  unfold readElement
  cases node.entries? with
  | none => exact .skip (r.namesAmong_noteInvalid node _ _) (.pure _)
  | some entries =>
    refine .skip (r.namesAmong_checkKeys entries _ _) ?_
    refine .skip (r.namesAmong_optional node _ _ none) ?_
    exact .last (r.namesAmong_optional node _ _ (some .simple)) (.pure _)

theorem namesAmong_readClass (node : Node) (i j : Nat) :
    (r.readClass node (Slot.classType i j).path).NamesAmong
      (((r.readClass node (Slot.classType i j).path).value.entities i j).flatMap
        fun e => e.1.namePaths) := by
  have hparameters := r.namesAmong_readParameters node (Slot.classType i j).path
    (fun _ k => (Slot.parameter i j k).namePaths)
    fun n k => Slot.path_owned (.classType i j) (.parameter i j k) rfl ▸
      r.namesAmong_readParameter n i j k
  rw [Class.namePaths_entities]
  unfold readClass
  cases node.entries? with
  | none => exact .skip (r.namesAmong_noteInvalid node _ _) (.pure _)
  | some entries =>
    refine .skip (r.namesAmong_checkKeys entries _ _) ?_
    refine .cons (r.namesAmong_required node _ _ _ (some .simple)) ?_
    refine .cons (r.namesAmong_optionalReference node _ _ _) ?_
    exact .last hparameters (.pure _)

theorem namesAmong_readNamespace (node : Node) (i : Nat) :
    (r.readNamespace node (Slot.namespaceBlock i).path).NamesAmong
      (((r.readNamespace node (Slot.namespaceBlock i).path).value.entities i).flatMap
        fun e => e.1.namePaths) := by
  have hinterfaces := r.namesAmong_readListing (fun _ j => (Slot.interfaceType i j).namePaths)
    (fun n j => Slot.path_owned (.namespaceBlock i) (.interfaceType i j) rfl ▸
      r.namesAmong_readInterface n i j) node
  have hclasses := r.namesAmong_readListing
    (fun (c : Class) j => (c.entities i j).flatMap fun e => e.1.namePaths)
    (fun n j => Slot.path_owned (.namespaceBlock i) (.classType i j) rfl ▸
      r.namesAmong_readClass n i j) node
  rw [Namespace.namePaths_entities]
  unfold readNamespace
  cases node.entries? with
  | none => exact .skip (r.namesAmong_noteInvalid node _ _) (.pure _)
  | some entries =>
    refine .skip (r.namesAmong_checkKeys entries _ _) ?_
    refine .cons (r.namesAmong_required node _ _ _ (some .simpleOrQualified)) ?_
    exact .append hinterfaces (.last hclasses (.pure _))

theorem namesAmong_readNamedInstance (node : Node) (i : Nat) :
    (r.readNamedInstance node (Slot.namedInstance i).path).NamesAmong
      (((r.readNamedInstance node (Slot.namedInstance i).path).value.entities i).flatMap
        fun e => e.1.namePaths) := by
  have hassignments := r.namesAmong_readEntries (fun _ j => (Slot.assignment i j).namePaths)
    (fun n j => Slot.path_owned (.namedInstance i) (.assignment i j) rfl ▸
      r.namesAmong_readAssignment n i j) node
  have helements := r.namesAmong_readEntries (fun _ j => (Slot.element i j).namePaths)
    (fun n j => Slot.path_owned (.namedInstance i) (.element i j) rfl ▸
      r.namesAmong_readElement n i j) node
  rw [NamedInstance.namePaths_entities]
  unfold readNamedInstance
  cases node.entries? with
  | none => exact .skip (r.namesAmong_noteInvalid node _ _) (.pure _)
  | some entries =>
    refine .skip (r.namesAmong_checkKeys entries _ _) ?_
    refine .cons (r.namesAmong_required node _ _ _ (some .simple)) ?_
    refine .cons (r.namesAmong_requiredReference node _ _ _ _) ?_
    refine .cons (r.namesAmong_optionalReference node _ _ _) ?_
    exact .append hassignments (.last helements (.pure _))

/-- What is noted on names while a document is read is noted at places of its names. -/
theorem namesAmong_readRoot (root : Node) (entries : List (String × Node)) :
    (r.readRoot root entries).NamesAmong (r.readRoot root entries).value.namePaths := by
  have hnamespaces := r.namesAmong_readListing
    (fun (ns : Namespace) i => (ns.entities i).flatMap fun e => e.1.namePaths)
    (fun n i => Slot.path_listed (.namespaceBlock i) rfl ▸
      r.namesAmong_readNamespace n i) root
  have hinstances := r.namesAmong_readListing
    (fun (inst : NamedInstance) i => (inst.entities i).flatMap fun e => e.1.namePaths)
    (fun n i => Slot.path_listed (.namedInstance i) rfl ▸
      r.namesAmong_readNamedInstance n i) root
  rw [Model.namePaths, Model.entities, List.flatMap_append, List.flatMap_assoc,
    List.flatMap_assoc]
  refine .skip (r.namesAmong_checkKeys entries _ _) ?_
  refine .append (r.namesAmong_readCodeGen root) ?_
  exact .append hnamespaces (.last hinstances (.pure _))

end Declared.Reading

end DependencyWiring
