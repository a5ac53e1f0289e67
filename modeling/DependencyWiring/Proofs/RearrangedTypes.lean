import DependencyWiring.Proofs.CleanBuilding
import DependencyWiring.Proofs.IndexLookup
import DependencyWiring.Proofs.PathlessReading

/-!
# Types in another order

Two documents that differ in the order of their namespaces, and of the interfaces and the classes
in each, declare the same in another order. They are read and built with the same findings.
-/
namespace DependencyWiring

/-! ## Documents -/

namespace Node

/-- The entry is the same, or it holds a list under one of the keys and the list is rearranged. -/
inductive RearrangesEntry (keys : List String) (R : Node → Node → Prop) :
    String × Node → String × Node → Prop
  | same (entry : String × Node) : RearrangesEntry keys R entry entry
  | list {key : String} {items items' : List Node} {position : Position} :
      key ∈ keys → Rearranged R items items' →
      RearrangesEntry keys R (key, .sequence items position) (key, .sequence items' position)

/-- The node is the same, or it is a mapping and lists under some of its keys are rearranged. -/
inductive Rearranges (keys : List String) (R : Node → Node → Prop) : Node → Node → Prop
  | same (n : Node) : Rearranges keys R n n
  | mapping {entries entries' : List (String × Node)} {position : Position} :
      List.Forall₂ (RearrangesEntry keys R) entries entries' →
      Rearranges keys R (.mapping entries position) (.mapping entries' position)

/-- One namespace with its interfaces and its classes in another order. -/
def RearrangesTypes : Node → Node → Prop :=
  Rearranges ["interfaces", "classes"] Eq

/-- One document with its namespaces in another order, and the interfaces and the classes of each
in another order too. -/
def RearrangesNamespaces : Node → Node → Prop :=
  Rearranges ["namespaces"] RearrangesTypes

section

variable {keys : List String} {R : Node → Node → Prop} {n n' : Node}

theorem RearrangesEntry.key_eq {e e' : String × Node} (h : RearrangesEntry keys R e e') :
    e'.1 = e.1 := by
  cases h <;> rfl

theorem RearrangesEntry.position_eq {e e' : String × Node} (h : RearrangesEntry keys R e e') :
    e'.2.position = e.2.position := by
  cases h <;> rfl

theorem Rearranges.symm (hR : ∀ a b, R a b → R b a) (h : n.Rearranges keys R n') :
    n'.Rearranges keys R n := by
  cases h with
  | same => exact .same n
  | mapping hentries =>
    refine .mapping (hentries.flip.imp fun e e' h => ?_)
    cases h with
    | same => exact .same _
    | list hkey hitems => exact .list hkey (hitems.symm hR)

theorem RearrangesTypes.symm (h : n.RearrangesTypes n') : n'.RearrangesTypes n :=
  Rearranges.symm (fun _ _ => Eq.symm) h

theorem RearrangesNamespaces.symm (h : n.RearrangesNamespaces n') : n'.RearrangesNamespaces n :=
  Rearranges.symm (fun _ _ => RearrangesTypes.symm) h

namespace Rearranges

variable (h : n.Rearranges keys R n')

include h

theorem position_eq : n'.position = n.position := by
  cases h <;> rfl

theorem shape_eq : n'.shape = n.shape := by
  cases h <;> rfl

theorem entries_cases : (n.entries? = none ∧ n' = n) ∨
    ∃ entries entries', n.entries? = some entries ∧ n'.entries? = some entries' ∧
      List.Forall₂ (RearrangesEntry keys R) entries entries' := by
  cases h with
  | same =>
    cases he : n.entries? with
    | none => exact .inl ⟨rfl, rfl⟩
    | some entries =>
      exact .inr ⟨entries, entries, rfl, rfl, List.forall₂_same.mpr fun e _ => .same e⟩
  | mapping hentries => exact .inr ⟨_, _, rfl, rfl, hentries⟩

/-- What a key holds is the same, or the list under the key is rearranged. -/
theorem get_cases (key : String) : n'.get? key = n.get? key ∨
    ∃ items items' position, key ∈ keys ∧ n.get? key = some (.sequence items position) ∧
      n'.get? key = some (.sequence items' position) ∧ Rearranged R items items' := by
  rcases h.entries_cases with ⟨-, rfl⟩ | ⟨entries, entries', he, he', hentries⟩
  · exact .inl rfl
  rw [get?, get?, he, he']
  change lookup key entries' = lookup key entries ∨ ∃ items items' position, key ∈ keys ∧
    lookup key entries = some (.sequence items position) ∧
    lookup key entries' = some (.sequence items' position) ∧ Rearranged R items items'
  clear he he' h
  induction hentries with
  | nil => exact .inl rfl
  | @cons e _ _ _ hhead _ ih =>
    cases hhead with
    | same =>
      by_cases hkey : e.1 = key
      · simp [lookup, hkey]
      · simpa [lookup, hkey] using ih
    | @list key' items items' position hmem hitems =>
      by_cases hkey : key' = key
      · subst hkey
        simp [lookup, hmem, hitems]
      · simpa [lookup, hkey] using ih

theorem get_of_not_mem {key : String} (hkey : key ∉ keys) : n'.get? key = n.get? key := by
  rcases h.get_cases key with hget | ⟨_, _, _, hmem, -⟩
  · exact hget
  · exact absurd hmem hkey

end Rearranges

end

end Node

/-! ## Declarations -/

namespace Declared

/-- One namespace with its types in another order. -/
structure Namespace.Rearranges (d d' : Namespace) : Prop where
  name : d'.name = d.name
  interfaces : d.interfaces.Perm d'.interfaces
  classes : d.classes.Perm d'.classes
  placeholder : d'.placeholder = d.placeholder
  provenance : d'.provenance = d.provenance

theorem Namespace.Rearranges.refl (d : Namespace) : d.Rearranges d :=
  ⟨rfl, .refl _, .refl _, rfl, rfl⟩

/-- The same declarations with namespaces, and types in them, in another order. -/
structure Model.Rearranges (d d' : Model) : Prop where
  codeGen : d'.codeGen = d.codeGen
  namespaces : Rearranged Namespace.Rearranges d.namespaces d'.namespaces
  namedInstances : d'.namedInstances = d.namedInstances

/-! ## Reading -/

namespace Reading

open Report

variable (r : Reading)

section

variable {keys : List String} {R : Node → Node → Prop} {n n' : Node}
  (h : n.Rearranges keys R n') (path : String)

include h

theorem origin_rearranged : r.origin n' path = r.origin n path := by
  rw [origin, origin, h.position_eq]

theorem provenance_rearranged : r.provenance n' path = r.provenance n path := by
  rw [provenance, provenance, r.origin_rearranged h]

omit h in
theorem checkKeys_rearranged (kind : Declaration) {entries entries' : List (String × Node)}
    (h : List.Forall₂ (Node.RearrangesEntry keys R) entries entries') :
    r.checkKeys entries' kind path = r.checkKeys entries kind path := by
  have hnotes : (r.checkKeys entries' kind path).notes = (r.checkKeys entries kind path).notes := by
    rw [notes_checkKeys, notes_checkKeys]
    induction h with
    | nil => rfl
    | @cons e e' _ _ hhead _ ih =>
      have hplace (path : String) : r.origin e'.2 path = r.origin e.2 path := by
        rw [origin, origin, hhead.position_eq]
      rw [List.filter_cons, List.filter_cons, hhead.key_eq]
      split
      · rw [List.map_cons, List.map_cons, ih, hhead.key_eq, hplace]
      · exact ih
  exact congrArg (Report.mk ()) hnotes

theorem required_rearranged {key : String} (hkey : key ∉ keys) (kind : Declaration)
    (form : Option NameForm) :
    r.required n' path key kind form = r.required n path key kind form := by
  unfold required absent
  dsimp only
  rw [h.get_of_not_mem hkey, r.origin_rearranged h]

theorem readListing_eq {α : Type} {key : String} (hkey : key ∉ keys)
    (read : Node → String → Report α) :
    r.readListing n' path key read = r.readListing n path key read := by
  unfold readListing listing
  rw [h.get_of_not_mem hkey]

/-- Of a list that is rearranged the same is read in another order. -/
theorem matches_readListing_rearranged (hR : ∀ n, R n n) {α β : Type} {φ : α → β}
    {S : β → β → Prop} {read : Node → String → Report α}
    (hplace : ∀ n path path', (read n path).Alike φ (read n path'))
    (hstep : ∀ n n' path, R n n' →
      (read n path).Matches .pathless (fun x y => S (φ x) (φ y)) (read n' path)) (key : String) :
    (r.readListing n path key read).Matches .pathless
      (fun xs ys => Rearranged S (xs.map φ) (ys.map φ)) (r.readListing n' path key read) := by
  have hitems {items items' : List Node} (hitems : Rearranged R items items') :=
    matches_forEachFrom_rearranged
      (f := fun i item => read item (LogicalPath.item path key i))
      (fun i j item => hplace item _ _) (fun i item item' hitem => hstep item item' _ hitem)
      hitems 0
  have hsame (items : List Node) : Rearranged R items items :=
    ⟨items, .refl _, List.forall₂_same.mpr fun n _ => hR n⟩
  have hlisting : (r.listing n path key).Matches .pathless
      (fun found found' => Rearranged R found.nodes found'.nodes) (r.listing n' path key) := by
    unfold listing
    rcases h.get_cases key with hget | ⟨items, items', position, -, hget, hget', hrel⟩
    · rw [hget]
      exact ⟨hsame _, .refl _⟩
    · rw [hget, hget']
      exact .pure hrel
  exact .bind hlisting fun found found' hfound => hitems hfound

end

theorem matches_readNamespace_rearranged {n n' : Node} (h : n.RearrangesTypes n') (path : String) :
    (r.readNamespace n path).Matches .pathless
      (fun d d' => (d.relocate .pathless).Rearranges (d'.relocate .pathless))
      (r.readNamespace n' path) := by
  unfold Node.RearrangesTypes at h
  unfold readNamespace
  rcases h.entries_cases with ⟨-, rfl⟩ | ⟨entries, entries', he, he', hentries⟩
  · exact ⟨.refl _, .refl _⟩
  have hinterfaces := r.matches_readListing_rearranged h path (fun _ => rfl) (S := Eq)
    r.alike_readInterface (by rintro n _ path rfl; exact ⟨rfl, .refl _⟩) "interfaces"
  have hclasses := r.matches_readListing_rearranged h path (fun _ => rfl) (S := Eq)
    r.alike_readClass (by rintro n _ path rfl; exact ⟨rfl, .refl _⟩) "classes"
  rw [he, he']
  dsimp only
  rw [r.checkKeys_rearranged path .namespaceBlock hentries,
    r.required_rearranged h path (by decide), r.provenance_rearranged h]
  refine .bind (.same _) fun _ _ _ => ?_
  refine .bind (.same _) ?_
  rintro name _ rfl
  refine .bind hinterfaces fun interfaces interfaces' hinterfaces => ?_
  refine .bind hclasses fun classes classes' hclasses => .pure ?_
  exact ⟨rfl, Rearranged.eq_iff.mp hinterfaces, Rearranged.eq_iff.mp hclasses, rfl, rfl⟩

theorem readCodeGen_rearranged {root root' : Node} (h : root.RearrangesNamespaces root') :
    r.readCodeGen root' = r.readCodeGen root := by
  unfold Node.RearrangesNamespaces at h
  unfold readCodeGen absentCodeGen absent
  rw [h.get_of_not_mem (by decide)]
  dsimp only
  simp only [r.origin_rearranged h, r.provenance_rearranged h]

theorem matches_readRoot_rearranged {root root' : Node} (h : root.RearrangesNamespaces root')
    {entries entries' : List (String × Node)}
    (hentries : List.Forall₂ (Node.RearrangesEntry ["namespaces"] Node.RearrangesTypes)
      entries entries') :
    (r.readRoot root entries).Matches .pathless
      (fun d d' => (d.relocate .pathless).Rearranges (d'.relocate .pathless))
      (r.readRoot root' entries') := by
  have hcodeGen := r.readCodeGen_rearranged h
  unfold Node.RearrangesNamespaces at h
  have hnamespaces := r.matches_readListing_rearranged h LogicalPath.root
    (fun n => .same n) r.alike_readNamespace
    (fun _ _ path h => r.matches_readNamespace_rearranged h path) "namespaces"
  unfold readRoot
  rw [r.checkKeys_rearranged _ .document hentries, hcodeGen, r.provenance_rearranged h,
    r.readListing_eq h _ (by decide) r.readNamedInstance]
  refine .bind (.same _) fun _ _ _ => ?_
  refine .bind (.same _) ?_
  rintro codeGen _ rfl
  refine .bind hnamespaces fun namespaces namespaces' hnamespaces => ?_
  refine .bind (.same _) ?_
  rintro namedInstances _ rfl
  exact .pure ⟨rfl, hnamespaces, rfl⟩

/-- Both documents are refused as a whole for the same reason, or the same is read of them in
another order. -/
theorem readDocument_rearranged {root root' : Node} (h : root.RearrangesNamespaces root') :
    (∃ cause, r.readDocument root = .error cause ∧ r.readDocument root' = .error cause) ∨
    ∃ p q, r.readDocument root = .ok p ∧ r.readDocument root' = .ok q ∧
      p.Matches .pathless
        (fun d d' => (d.relocate .pathless).Rearranges (d'.relocate .pathless)) q := by
  have hroot {entries entries' : List (String × Node)} :=
    @matches_readRoot_rearranged r root root' h entries entries'
  unfold Node.RearrangesNamespaces at h
  unfold readDocument
  dsimp only
  rw [r.origin_rearranged h, h.shape_eq]
  rcases h.entries_cases with ⟨he, rfl⟩ | ⟨entries, entries', he, he', hentries⟩
  · rw [he]
    exact .inl ⟨_, rfl, rfl⟩
  · rw [he, he']
    cases hentries with
    | nil => exact .inl ⟨_, rfl, rfl⟩
    | cons hhead htail => exact .inr ⟨_, _, rfl, rfl, hroot (.cons hhead htail)⟩

end Reading

end Declared

/-! ## Building -/

namespace Model

open Report

variable (stamp : Stamp)

theorem notes_buildNamespace_rearranged {d d' : Declared.Namespace} (h : d.Rearranges d') :
    (buildNamespace stamp d).notes.Perm (buildNamespace stamp d').notes := by
  simp only [buildNamespace, notes_bind, notes_pure, notes_forEach, List.append_nil]
  rw [h.name, h.placeholder, h.provenance, h.interfaces.isEmpty_eq, h.classes.isEmpty_eq]
  refine .append_left _ (.append_left _ ?_)
  exact (h.interfaces.flatMap_right _).append (h.classes.flatMap_right _)

variable {d d' : Declared.Model} (h : d.Rearranges d')

include h

/-- Declarations in another order are built with the same notes in another order. -/
theorem notes_build_rearranged : (build stamp d).notes.Perm (build stamp d').notes := by
  simp only [build, notes_bind, notes_pure, notes_forEach, List.append_nil]
  rw [h.codeGen, h.namedInstances]
  refine .append_left _ (.append_right _ ?_)
  exact h.namespaces.flatMap_perm fun _ _ => notes_buildNamespace_rearranged stamp

theorem classes_build_rearranged :
    (build stamp d).value.classes.Perm (build stamp d').value.classes := by
  simp only [classes, namespaces_build, List.flatMap_map, classes_buildNamespace]
  refine h.namespaces.flatMap_perm fun ns ns' hns => ?_
  rw [hns.name]
  exact hns.classes.map _

theorem interfaces_build_rearranged :
    (build stamp d).value.interfaces.Perm (build stamp d').value.interfaces := by
  simp only [interfaces, namespaces_build, List.flatMap_map, interfaces_buildNamespace]
  refine h.namespaces.flatMap_perm fun ns ns' hns => ?_
  rw [hns.name]
  exact hns.interfaces.map _

theorem namedInstances_build_rearranged :
    (build stamp d').value.namedInstances = (build stamp d).value.namedInstances := by
  rw [namedInstances_build, namedInstances_build, h.namedInstances]

end Model

end DependencyWiring
