import DependencyWiring.Proofs.AcceptedDocuments
import DependencyWiring.Proofs.ChartedModel
import DependencyWiring.Proofs.ComparedReading
import DependencyWiring.Proofs.SlotEntities
import DependencyWiring.Proofs.Surroundings

/-!
# Undisturbed siblings

What stands in the place of one declaration, well formed or not, makes no difference to the
declarations beside it: they are read and built the same, with the same notes in the same order. So
of two documents that differ in this place only, the notes differ in those within the place only.
-/
namespace DependencyWiring

/-! ## Notes outside a place -/

instance Diagnostic.decidableIsWithin (d : Diagnostic) (location : String) :
    Decidable (d.IsWithin location) :=
  decidable_of_iff (d.location = location ∨ (location ++ ".").toList <+: d.location.toList) <| by
    unfold IsWithin
    refine or_congr Iff.rfl ⟨?_, ?_⟩
    · rintro ⟨rest, hrest⟩
      refine ⟨String.ofList rest, String.toList_inj.mp ?_⟩
      rw [String.toList_append, String.toList_ofList, hrest]
    · rintro ⟨rest, hrest⟩
      exact ⟨rest.toList, by rw [hrest, ← String.toList_append]⟩

/-- The diagnostics on other places than a location and those below it. -/
def Diagnostic.outside (location : String) (ds : List Diagnostic) : List Diagnostic :=
  ds.filter fun d => ¬ d.IsWithin location

/-- The same places, and the same diagnostics on those that are outside a location. -/
def Comparison.outside (location : String) : Comparison where
  toRelocation := .identity
  notes as bs := Diagnostic.outside location (bs.map Note.diagnostic) =
    Diagnostic.outside location (as.map Note.diagnostic)
  nil := rfl
  append has hbs := by
    unfold Diagnostic.outside at has hbs ⊢
    rw [List.map_append, List.map_append, List.filter_append, List.filter_append, has, hbs]
  single _ _ := rfl

namespace Comparison

variable {location : String}

theorem outside_refl (notes : List Note) : (outside location).notes notes notes :=
  rfl

/-- Notes within the location do not count. -/
theorem outside_of_allAt {source path : String} {as bs : List Note}
    (has : Note.AllAt as fun o => o.IsWithin source path)
    (hbs : Note.AllAt bs fun o => o.IsWithin source path) :
    (outside (source ++ "#" ++ path)).notes as bs := by
  have hnone : ∀ notes, Note.AllAt notes (fun o => o.IsWithin source path) →
      Diagnostic.outside (source ++ "#" ++ path) (notes.map Note.diagnostic) = [] := by
    intro notes hnotes
    unfold Diagnostic.outside
    rw [List.filter_eq_nil_iff, List.forall_mem_map]
    intro n hn
    simp [Diagnostic.isWithin_of_origin (hnotes n hn)]
  exact (hnone bs hbs).trans (hnone as has).symm

/-- Only the notes on the item that is replaced matter. -/
theorem outside_replaced {earlier later : List Node} {n n' : Node} {f : Node × Nat → List Note}
    (h : (outside location).notes (f (n, earlier.length)) (f (n', earlier.length))) :
    (outside location).notes ((earlier ++ n :: later).zipIdx.flatMap f)
      ((earlier ++ n' :: later).zipIdx.flatMap f) := by
  simp only [List.zipIdx_append, List.zipIdx_cons, List.flatMap_append, List.flatMap_cons,
    Nat.zero_add]
  exact Comparison.append _ (outside_refl _) (Comparison.append _ h (outside_refl _))

end Comparison

/-- If the item that is replaced is one under the key, what is noted on it is the same outside the
location. -/
def Node.Surroundings.Agrees (x : Surroundings) (location : String) (n n' : Node)
    (path key : String) (notes : Node → String → List Note) : Prop :=
  key = x.key → (Comparison.outside location).notes
    (notes n (LogicalPath.item path key x.earlier.length))
    (notes n' (LogicalPath.item path key x.earlier.length))

theorem Node.Surroundings.Agrees.of_gives {x : Surroundings} {n n' : Node} {path key : String}
    {source place : String} {α : Type} {read : Node → String → Report α} {Q : α → Prop}
    (hplace : LogicalPath.item path key x.earlier.length = place)
    (h : ∀ n, (read n place).Gives (fun o => o.IsWithin source place) Q) :
    x.Agrees (source ++ "#" ++ place) n n' path key fun n p => (read n p).notes := by
  intro _
  rw [hplace]
  exact Comparison.outside_of_allAt (h n).notes (h n').notes

/-! ## Reading what surrounds a node -/

namespace Declared.Reading

open Report

variable (r : Reading) (x : Node.Surroundings) (n n' : Node) (path : String) {key : String}

theorem notes_checkKeys_fill (kind : Declaration) :
    (r.checkKeys (x.entries n') kind path).notes = (r.checkKeys (x.entries n) kind path).notes := by
  rw [notes_checkKeys, notes_checkKeys]
  simp only [Node.Surroundings.entries, List.filter_append, List.filter_cons, List.map_append]
  split <;> rfl

theorem required_fill (h : key ≠ x.key) (kind : Declaration) (form : Option NameForm) :
    r.required (x.fill n') path key kind form = r.required (x.fill n) path key kind form := by
  unfold required
  rw [x.get_fill_of_ne n n' h]
  rfl

theorem listing_fill (h : key ≠ x.key) :
    r.listing (x.fill n') path key = r.listing (x.fill n) path key := by
  unfold listing
  rw [x.get_fill_of_ne n n' h]

theorem readCodeGen_fill (h : "codeGen" ≠ x.key) :
    r.readCodeGen (x.fill n') = r.readCodeGen (x.fill n) := by
  unfold readCodeGen
  rw [x.get_fill_of_ne n n' h]
  rfl

theorem name_readNamespace_fill (h : "namespaceName" ≠ x.key) :
    (r.readNamespace (x.fill n') path).value.name =
      (r.readNamespace (x.fill n) path).value.name := by
  unfold readNamespace
  rw [x.entries_fill, x.entries_fill]
  simp only [value_bind, value_pure]
  rw [r.required_fill x n n' path h]

/-- A mapping that holds a list is never empty. -/
theorem readDocument_fill :
    r.readDocument (x.fill n) = .ok (r.readRoot (x.fill n) (x.entries n)) := by
  obtain ⟨e, es, he⟩ : ∃ e es, x.entries n = e :: es :=
    List.exists_cons_of_ne_nil (by simp [Node.Surroundings.entries])
  unfold readDocument
  dsimp only
  rw [x.entries_fill, he]

/-- A list is read the same but for the item that is replaced. -/
theorem notes_readListing_fill {location : String} {α : Type} {read : Node → String → Report α}
    (h : x.Agrees location n n' path key fun n p => (read n p).notes) :
    (Comparison.outside location).notes (r.readListing (x.fill n) path key read).notes
      (r.readListing (x.fill n') path key read).notes := by
  by_cases hkey : key = x.key
  · have hitems : ∀ n, (r.readListing (x.fill n) path key read).notes =
        (x.earlier ++ n :: x.later).zipIdx.flatMap fun p =>
          (read p.1 (LogicalPath.item path key p.2)).notes := by
      intro n
      rw [readListing, listing, hkey, x.get_fill]
      exact notes_forEachFrom _ _ _
    rw [hitems, hitems]
    apply Comparison.outside_replaced
    exact h hkey
  · rw [readListing, readListing, r.listing_fill x n n' path hkey]
    exact Comparison.outside_refl _

/-- What is noted on the values of a list is the same but for the item that is replaced. -/
theorem notes_values_fill {location : String} {α : Type} {read : Node → String → Report α}
    {f : α → List Note} (h : x.Agrees location n n' path key fun n p => f (read n p).value) :
    (Comparison.outside location).notes ((r.readListing (x.fill n) path key read).value.flatMap f)
      ((r.readListing (x.fill n') path key read).value.flatMap f) := by
  rw [value_readListing, value_readListing]
  by_cases hkey : key = x.key
  · subst hkey
    rw [x.listed_fill, x.listed_fill, List.mapIdx_eq_zipIdx_map, List.mapIdx_eq_zipIdx_map,
      List.flatMap_map, List.flatMap_map]
    apply Comparison.outside_replaced
    exact h rfl
  · rw [x.listed_fill_of_ne n n' hkey]
    exact Comparison.outside_refl _

theorem isEmpty_readListing_fill {α : Type} {read : Node → String → Report α} :
    (r.readListing (x.fill n') path key read).value.isEmpty =
      (r.readListing (x.fill n) path key read).value.isEmpty := by
  rw [Bool.eq_iff_iff, List.isEmpty_iff_length_eq_zero, List.isEmpty_iff_length_eq_zero,
    value_readListing, value_readListing, List.length_mapIdx, List.length_mapIdx,
    x.length_listed_fill n n']

theorem notes_readNamespace_fill {location : String} (hname : "namespaceName" ≠ x.key)
    (hinterfaces : x.Agrees location n n' path "interfaces" fun n p => (r.readInterface n p).notes)
    (hclasses : x.Agrees location n n' path "classes" fun n p => (r.readClass n p).notes) :
    (Comparison.outside location).notes (r.readNamespace (x.fill n) path).notes
      (r.readNamespace (x.fill n') path).notes := by
  simp only [readNamespace, x.entries_fill, notes_bind, notes_pure, List.append_nil]
  rw [r.required_fill x n n' path hname, r.notes_checkKeys_fill x n n' path]
  refine Comparison.append _ (Comparison.outside_refl _) ?_
  refine Comparison.append _ (Comparison.outside_refl _) ?_
  exact Comparison.append _ (r.notes_readListing_fill x n n' path hinterfaces)
    (r.notes_readListing_fill x n n' path hclasses)

theorem notes_readRoot_fill {location : String} (hcodeGen : "codeGen" ≠ x.key)
    (hnamespaces : x.Agrees location n n' LogicalPath.root "namespaces" fun n p =>
      (r.readNamespace n p).notes)
    (hinstances : x.Agrees location n n' LogicalPath.root "namedInstances" fun n p =>
      (r.readNamedInstance n p).notes) :
    (Comparison.outside location).notes (r.readRoot (x.fill n) (x.entries n)).notes
      (r.readRoot (x.fill n') (x.entries n')).notes := by
  simp only [readRoot, notes_bind, notes_pure, List.append_nil]
  rw [r.readCodeGen_fill x n n' hcodeGen, r.notes_checkKeys_fill x n n']
  refine Comparison.append _ (Comparison.outside_refl _) ?_
  refine Comparison.append _ (Comparison.outside_refl _) ?_
  exact Comparison.append _ (r.notes_readListing_fill x n n' _ hnamespaces)
    (r.notes_readListing_fill x n n' _ hinstances)

end Declared.Reading

/-! ## Building what surrounds a node -/

namespace Model

open Report

variable (stamp : Stamp) (r : Declared.Reading) (x : Node.Surroundings) (n n' : Node)
  {location : String}

theorem notes_buildNamespace_fill {path : String} (hname : "namespaceName" ≠ x.key)
    (hinterfaces : ∀ name, x.Agrees location n n' path "interfaces" fun n p =>
      (buildInterface stamp name (r.readInterface n p).value).notes)
    (hclasses : ∀ name, x.Agrees location n n' path "classes" fun n p =>
      (buildClass stamp name (r.readClass n p).value).notes) :
    (Comparison.outside location).notes
      (buildNamespace stamp (r.readNamespace (x.fill n) path).value).notes
      (buildNamespace stamp (r.readNamespace (x.fill n') path).value).notes := by
  have hvalue : ∀ n, (r.readNamespace (x.fill n) path).value =
      { name := (r.required (x.fill n) path "namespaceName" .namespaceBlock
          (some .simpleOrQualified)).value
        interfaces := (r.readListing (x.fill n) path "interfaces" r.readInterface).value
        classes := (r.readListing (x.fill n) path "classes" r.readClass).value
        placeholder := false
        provenance := r.provenance (x.fill n) path } := fun _ => rfl
  rw [hvalue, hvalue, r.required_fill x n n' path hname]
  simp only [buildNamespace, notes_bind, notes_pure, notes_forEach, List.append_nil]
  rw [r.isEmpty_readListing_fill x n n', r.isEmpty_readListing_fill x n n']
  refine Comparison.append _ (Comparison.outside_refl _) ?_
  refine Comparison.append _ (Comparison.outside_refl _) ?_
  exact Comparison.append _ (r.notes_values_fill x n n' path (hinterfaces _))
    (r.notes_values_fill x n n' path (hclasses _))

theorem notes_build_fill (hcodeGen : "codeGen" ≠ x.key)
    (hnamespaces : x.Agrees location n n' LogicalPath.root "namespaces" fun n p =>
      (buildNamespace stamp (r.readNamespace n p).value).notes)
    (hinstances : x.Agrees location n n' LogicalPath.root "namedInstances" fun n p =>
      (buildNamedInstance stamp (r.readNamedInstance n p).value).notes) :
    (Comparison.outside location).notes
      (build stamp (r.readRoot (x.fill n) (x.entries n)).value).notes
      (build stamp (r.readRoot (x.fill n') (x.entries n')).value).notes := by
  simp only [build, Declared.Reading.readRoot, value_bind, value_pure, notes_bind, notes_pure,
    notes_forEach, List.append_nil]
  rw [r.readCodeGen_fill x n n' hcodeGen]
  refine Comparison.append _ (Comparison.outside_refl _) ?_
  exact Comparison.append _ (r.notes_values_fill x n n' _ hnamespaces)
    (r.notes_values_fill x n n' _ hinstances)

/-! ## One declaration replaced -/

/-- The two documents are read, and their declarations built, with the same notes outside the
location. -/
structure NotesAgree (location : String) : Prop where
  read : (Comparison.outside location).notes (r.readRoot (x.fill n) (x.entries n)).notes
    (r.readRoot (x.fill n') (x.entries n')).notes
  built : (Comparison.outside location).notes
    (build stamp (r.readRoot (x.fill n) (x.entries n)).value).notes
    (build stamp (r.readRoot (x.fill n') (x.entries n')).value).notes

theorem notesAgree_namespaces (hkey : x.key = "namespaces")
    (hread : x.Agrees location n n' LogicalPath.root "namespaces" fun n p =>
      (r.readNamespace n p).notes)
    (hbuilt : x.Agrees location n n' LogicalPath.root "namespaces" fun n p =>
      (buildNamespace stamp (r.readNamespace n p).value).notes) :
    NotesAgree stamp r x n n' location := by
  have hcodeGen : "codeGen" ≠ x.key := by simp [hkey]
  have hother : "namedInstances" ≠ x.key := by simp [hkey]
  exact ⟨r.notes_readRoot_fill x n n' hcodeGen hread fun h => absurd h hother,
    notes_build_fill stamp r x n n' hcodeGen hbuilt fun h => absurd h hother⟩

theorem notesAgree_namedInstances (hkey : x.key = "namedInstances")
    (hread : x.Agrees location n n' LogicalPath.root "namedInstances" fun n p =>
      (r.readNamedInstance n p).notes)
    (hbuilt : x.Agrees location n n' LogicalPath.root "namedInstances" fun n p =>
      (buildNamedInstance stamp (r.readNamedInstance n p).value).notes) :
    NotesAgree stamp r x n n' location := by
  have hcodeGen : "codeGen" ≠ x.key := by simp [hkey]
  have hother : "namespaces" ≠ x.key := by simp [hkey]
  exact ⟨r.notes_readRoot_fill x n n' hcodeGen (fun h => absurd h hother) hread,
    notes_build_fill stamp r x n n' hcodeGen (fun h => absurd h hother) hbuilt⟩

/-- A list of a namespace is one level further down. -/
theorem notesAgree_types {y : Node.Surroundings} (hkey : x.key = "namespaces")
    (hname : "namespaceName" ≠ y.key) {path : String}
    (hpath : LogicalPath.item LogicalPath.root "namespaces" x.earlier.length = path)
    (hinterfaces : y.Agrees location n n' path "interfaces" fun n p => (r.readInterface n p).notes)
    (hclasses : y.Agrees location n n' path "classes" fun n p => (r.readClass n p).notes)
    (hinterfaces' : ∀ name, y.Agrees location n n' path "interfaces" fun n p =>
      (buildInterface stamp name (r.readInterface n p).value).notes)
    (hclasses' : ∀ name, y.Agrees location n n' path "classes" fun n p =>
      (buildClass stamp name (r.readClass n p).value).notes) :
    NotesAgree stamp r x (y.fill n) (y.fill n') location := by
  subst hpath
  apply notesAgree_namespaces stamp r x _ _ hkey
  · intro _
    exact r.notes_readNamespace_fill y n n' _ hname hinterfaces hclasses
  · intro _
    exact notes_buildNamespace_fill stamp r y n n' hname hinterfaces' hclasses'

/-- Replacing one declaration changes no notes outside its place. -/
theorem notesAgree_of_differsAt {s : Slot} (hs : s.isPart = false) {root root' : Node}
    (h : root.DiffersAt s.keys root') :
    ∃ x : Node.Surroundings, ∃ n n', root = x.fill n ∧ root' = x.fill n' ∧
      NotesAgree stamp r x n n' (r.source ++ "#" ++ s.path) := by
  have hchart := r.charts_within s.path
  have hplace : s.path ≠ LogicalPath.root ∧ LogicalPath.IsWithin s.path s.path :=
    ⟨s.path_ne_root, .refl s.path⟩
  cases s with
  | namespaceBlock i =>
    obtain ⟨x, n, n', hx, rfl, rfl, -⟩ := h.exists_surroundings
    obtain ⟨hkey, rfl⟩ := Prod.mk.inj hx
    have hpath := (Slot.namespaceBlock x.earlier.length).path_eq_foldl.symm
    have hread : ∀ n, (r.readNamespace n _).Gives _ _ := fun n => hchart.gives_readNamespace hplace
    exact ⟨x, n, n', rfl, rfl, notesAgree_namespaces stamp r x n n' hkey (.of_gives hpath hread)
      (.of_gives hpath fun n => gives_buildNamespace (hread n).value)⟩
  | namedInstance i =>
    obtain ⟨x, n, n', hx, rfl, rfl, -⟩ := h.exists_surroundings
    obtain ⟨hkey, rfl⟩ := Prod.mk.inj hx
    have hpath := (Slot.namedInstance x.earlier.length).path_eq_foldl.symm
    have hread : ∀ n, (r.readNamedInstance n _).Gives _ _ :=
      fun n => hchart.gives_readNamedInstance hplace
    exact ⟨x, n, n', rfl, rfl, notesAgree_namedInstances stamp r x n n' hkey
      (.of_gives hpath hread) (.of_gives hpath fun n => gives_buildNamedInstance (hread n).value)⟩
  | interfaceType i j =>
    obtain ⟨x, _, _, hx, rfl, rfl, hrest⟩ := h.exists_surroundings
    obtain ⟨y, n, n', hy, rfl, rfl, -⟩ := hrest.exists_surroundings
    obtain ⟨hkey, rfl⟩ := Prod.mk.inj hx
    obtain ⟨hkey', rfl⟩ := Prod.mk.inj hy
    have hname : "namespaceName" ≠ y.key := by simp [hkey']
    have hother : "classes" ≠ y.key := by simp [hkey']
    have hpath := (Slot.interfaceType x.earlier.length y.earlier.length).path_eq_foldl.symm
    have hread : ∀ n, (r.readInterface n _).Gives _ _ := fun n => hchart.gives_readInterface hplace
    exact ⟨x, _, _, rfl, rfl, notesAgree_types stamp r x n n' hkey hname rfl
      (.of_gives hpath hread) (fun h => absurd h hother)
      (fun _ => .of_gives hpath fun n => gives_buildInterface (hread n).value)
      (fun _ h => absurd h hother)⟩
  | classType i j =>
    obtain ⟨x, _, _, hx, rfl, rfl, hrest⟩ := h.exists_surroundings
    obtain ⟨y, n, n', hy, rfl, rfl, -⟩ := hrest.exists_surroundings
    obtain ⟨hkey, rfl⟩ := Prod.mk.inj hx
    obtain ⟨hkey', rfl⟩ := Prod.mk.inj hy
    have hname : "namespaceName" ≠ y.key := by simp [hkey']
    have hother : "interfaces" ≠ y.key := by simp [hkey']
    have hpath := (Slot.classType x.earlier.length y.earlier.length).path_eq_foldl.symm
    have hread : ∀ n, (r.readClass n _).Gives _ _ := fun n => hchart.gives_readClass hplace
    exact ⟨x, _, _, rfl, rfl, notesAgree_types stamp r x n n' hkey hname rfl
      (fun h => absurd h hother) (.of_gives hpath hread) (fun _ h => absurd h hother)
      (fun _ => .of_gives hpath fun n => gives_buildClass (hread n).value)⟩
  | parameter i j k => simp [Slot.isPart] at hs
  | assignment i j => simp [Slot.isPart] at hs
  | element i j => simp [Slot.isPart] at hs

/-! ## Entities beside the place -/

section

variable {s t : Slot} {root root' : Node} {entries entries' : List (String × Node)}
  (h : root.DiffersAt s.keys root')

include h

theorem declared_of_differsAt (ht : t.IsApartFrom s) :
    (r.readRoot root' entries').value.entity? t = (r.readRoot root entries).value.entity? t := by
  obtain ⟨hs, ht⟩ := ht.not_keys
  rw [r.entity_readRoot, r.entity_readRoot]
  exact congrArg _ (h.follow_eq hs ht)

theorem codeGen_of_differsAt :
    (r.readRoot root' entries').value.codeGen = (r.readRoot root entries).value.codeGen := by
  have hkeys : ∀ e ∈ s.keys, "codeGen" ≠ e.1 := by cases s <;> simp [Slot.keys]
  obtain ⟨e, keys, hs⟩ := s.exists_keys_eq_cons
  rw [hs] at h hkeys
  obtain ⟨x, n, n', rfl, rfl, rfl, -⟩ := h.exists_surroundings
  have hcodeGen : "codeGen" ≠ x.key := hkeys (x.key, x.earlier.length) List.mem_cons_self
  exact congrArg Report.value (r.readCodeGen_fill x n n' hcodeGen)

/-- The name of a namespace stays the same when something in the namespace is replaced. -/
theorem name_of_differsAt {i : Nat} (hi : ¬ s.keys <+: [("namespaces", i)]) :
    (r.readRoot root' entries').value.namespaces[i]?.map Declared.Namespace.name =
      (r.readRoot root entries).value.namespaces[i]?.map Declared.Namespace.name := by
  have hkeys : ∀ e ∈ s.keys, "namespaceName" ≠ e.1 := by cases s <;> simp [Slot.keys]
  obtain ⟨e, keys, hs⟩ := s.exists_keys_eq_cons
  rw [hs] at h hi hkeys
  obtain ⟨x, n, n', rfl, rfl, rfl, hrest⟩ := h.exists_surroundings
  simp only [Declared.Reading.readRoot, value_bind, value_pure,
    Declared.Reading.value_readListing, List.getElem?_mapIdx, Option.map_map]
  by_cases hplace : ("namespaces", i) = (x.key, x.earlier.length)
  · obtain ⟨hkey, rfl⟩ := Prod.mk.inj hplace
    rw [hkey, x.getElem_fill, x.getElem_fill]
    cases keys with
    | nil => exact absurd (hkey ▸ List.prefix_refl _) hi
    | cons e keys =>
      obtain ⟨y, m, m', rfl, rfl, rfl, -⟩ := hrest.exists_surroundings
      have hname : "namespaceName" ≠ y.key := hkeys (y.key, y.earlier.length) (by simp)
      exact congrArg some (r.name_readNamespace_fill y m m' _ hname)
  · rw [x.getElem_fill_of_ne n n' hplace]

theorem namespaceName_of_differsAt (ht : t.IsApartFrom s) :
    (r.readRoot root' entries').value.namespaceName t =
      (r.readRoot root entries).value.namespaceName t := by
  have hs := ht.not_keys.1
  have hname : ∀ i, [("namespaces", i)] <+: t.keys →
      (r.readRoot root' entries').value.namespaces[i]?.map Declared.Namespace.name =
        (r.readRoot root entries).value.namespaces[i]?.map Declared.Namespace.name :=
    fun i hi => name_of_differsAt r h fun howner => hs (howner.trans hi)
  have hvalue : ∀ names : Option Declared.Namespace, names.map (fun ns => ns.name.value) =
      (names.map Declared.Namespace.name).map Declared.Field.value := by
    intro names
    rw [Option.map_map]
    rfl
  cases t with
  | interfaceType i j =>
    have hi := hname i ⟨[("interfaces", j)], rfl⟩
    simp only [Declared.Model.namespaceName, hvalue, hi]
  | classType i j =>
    have hi := hname i ⟨[("classes", j)], rfl⟩
    simp only [Declared.Model.namespaceName, hvalue, hi]
  | _ => rfl

theorem isHidden_of_differsAt (hs : s.isPart = false) (ht : t.IsApartFrom s) :
    (r.readRoot root' entries').value.isHidden t = (r.readRoot root entries).value.isHidden t := by
  obtain ⟨hst, hts⟩ := ht.not_keys
  cases t with
  | element i j =>
    -- The first assignment of the instance is beside the place as well.
    have hfirst : ¬ s.keys <+: (Slot.assignment i 0).keys ∧
        ¬ (Slot.assignment i 0).keys <+: s.keys := by
      cases s <;> simp_all [Slot.keys, Slot.isPart, List.cons_prefix_cons]
    simp only [Declared.Model.isHidden, r.entity_readRoot, Option.isSome_map]
    exact congrArg _ (h.follow_eq hfirst.1 hfirst.2)
  | _ => rfl

theorem built_of_differsAt (hs : s.isPart = false) (ht : t.IsApartFrom s) :
    (build stamp (r.readRoot root' entries').value).value.entity? t =
      (build stamp (r.readRoot root entries).value).value.entity? t := by
  rw [entity_build, entity_build, isHidden_of_differsAt r h hs ht,
    declared_of_differsAt r h ht, namespaceName_of_differsAt r h ht]

end

/-! ## Siblings -/

/-- Beside the place of a slot two documents declare the same entities, of which the same entities
are built, with the same diagnostics in the same order. -/
structure AgreeBeside (options : Options) (source : String) (s : Slot)
    (d d' : Report Declared.Model) : Prop where
  codeGen : d'.value.codeGen = d.value.codeGen
  declared {t : Slot} : t.IsApartFrom s → d'.value.entity? t = d.value.entity? t
  builtCodeGen : (judge options d'.value).model.codeGen = (judge options d.value).model.codeGen
  built {t : Slot} : t.IsApartFrom s →
    (judge options d'.value).model.entity? t = (judge options d.value).model.entity? t
  diagnostics : Diagnostic.outside (source ++ "#" ++ s.path)
      ((d'.notes ++ (judge options d'.value).built).map Note.diagnostic) =
    Diagnostic.outside (source ++ "#" ++ s.path)
      ((d.notes ++ (judge options d.value).built).map Note.diagnostic)

/-- A bad declaration does not disturb its siblings. Whatever stands in the place of a namespace, a
type or an instance, the document is read, what stands beside this place is read and built the same,
and of the diagnostics of reading and building only those on the place and on what is below it
change. -/
theorem readDocument_agreeBeside (options : Options) (source : String) {s : Slot}
    (hs : s.isPart = false) {root root' : Node} (h : root.DiffersAt s.keys root') :
    ∃ d d', (options.reading source).readDocument root = .ok d ∧
      (options.reading source).readDocument root' = .ok d' ∧
        AgreeBeside options source s d d' := by
  obtain ⟨x, n, n', rfl, rfl, hnotes⟩ :=
    notesAgree_of_differsAt (options.stamp .transform) (options.reading source) hs h
  refine ⟨_, _, Declared.Reading.readDocument_fill _ x n, Declared.Reading.readDocument_fill _ x n',
    ?_⟩
  have hcodeGen : ∀ d, (judge options d).model.codeGen =
      (buildCodeGen (options.stamp .transform) d.codeGen).value := fun _ => rfl
  exact
    { codeGen := codeGen_of_differsAt _ h
      declared := fun ht => declared_of_differsAt _ h ht
      builtCodeGen := by rw [hcodeGen, hcodeGen, codeGen_of_differsAt _ h]
      built := fun ht => built_of_differsAt _ _ h hs ht
      diagnostics := Comparison.append _ hnotes.read hnotes.built }

end Model

namespace Sample

/-- A document that lacks its second namespace. -/
def beside : Node.Surroundings where
  before := [("codeGen", codeGen)]
  key := "namespaces"
  earlier := [types]
  later := [mapping [("namespaceName", text "Other")]]
  after := [("namedInstances", sequence [firstNode])]
  place := ⟨0, none⟩
  position := ⟨0, none⟩
  isFirst := by decide

def malformed : Node :=
  beside.fill (text "namespace")

def wellFormed : Node :=
  beside.fill (mapping [("namespaceName", text "Third")])

theorem differsAt_beside : malformed.DiffersAt (Slot.namespaceBlock 1).keys wellFormed :=
  .item beside (.here _ _)

end Sample

namespace Model

/-- The namespaces around the malformed one are read and built as they are around another. -/
theorem malformed_agreeBeside :
    Sample.malformed.DiffersAt (Slot.namespaceBlock 1).keys Sample.wellFormed ∧
    ∃ d d', (Sample.options.reading "beside").readDocument Sample.malformed = .ok d ∧
      (Sample.options.reading "beside").readDocument Sample.wellFormed = .ok d' ∧
        AgreeBeside Sample.options "beside" (.namespaceBlock 1) d d' :=
  ⟨Sample.differsAt_beside,
    readDocument_agreeBeside Sample.options "beside" (by decide) Sample.differsAt_beside⟩

end Model

end DependencyWiring
