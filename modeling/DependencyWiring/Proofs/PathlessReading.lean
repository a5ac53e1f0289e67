import DependencyWiring.Proofs.ComparedModel
import DependencyWiring.Proofs.ComparedReading
import Mathlib.Data.List.Perm.Basic

/-!
# Reading at any path

The path at which a declaration is read is written into its places, and nothing else depends on it.
So a declaration is read the same wherever in its list it stands, and of a list in another order the
same declarations are read with the same findings, both in another order.
-/
namespace DependencyWiring

/-! ## Lists in another order -/

/-- The lists have related items, up to the order of the items. -/
def Rearranged {α β : Type} (R : α → β → Prop) (as : List α) (bs : List β) : Prop :=
  ∃ between, as.Perm between ∧ List.Forall₂ R between bs

namespace Rearranged

variable {α β γ : Type} {R : α → β → Prop} {as : List α} {bs : List β}

@[simp] theorem eq_iff {as bs : List α} : Rearranged Eq as bs ↔ as.Perm bs := by
  simp only [Rearranged, List.forall₂_eq_eq_eq, exists_eq_right]

theorem symm {R : α → α → Prop} (hR : ∀ a b, R a b → R b a) {as bs : List α}
    (h : Rearranged R as bs) : Rearranged R bs as := by
  obtain ⟨between, hperm, hrel⟩ := h
  obtain ⟨between', hrel', hperm'⟩ := List.perm_comp_forall₂ hperm hrel
  refine ⟨between', hperm'.symm, ?_⟩
  exact hrel'.flip.imp fun a b => hR b a

/-- What is made of related items in any order is made of the lists in any order. -/
theorem flatMap_perm (h : Rearranged R as bs) {f : α → List γ} {g : β → List γ}
    (hfg : ∀ a b, R a b → (f a).Perm (g b)) : (as.flatMap f).Perm (bs.flatMap g) := by
  obtain ⟨between, hperm, hrel⟩ := h
  refine (hperm.flatMap_right f).trans (List.Perm.flatten_congr ?_)
  rw [List.forall₂_map_left_iff, List.forall₂_map_right_iff]
  exact hrel.imp hfg

end Rearranged

/-! ## What is left without places -/

/-- Nothing is left of a place. -/
def Origin.pathless (_ : Origin) : Origin := ⟨"", 0, none, ""⟩

/-- Only the stamp is left of an entry. -/
def ProvenanceEntry.pathless (e : ProvenanceEntry) : ProvenanceEntry :=
  ⟨e.origin.pathless, e.stamp⟩

def Provenance.pathless (p : Provenance) : Provenance :=
  ⟨p.first.pathless, p.later.map ProvenanceEntry.pathless⟩

/-- All places are one. -/
def Relocation.pathless : Relocation where
  source s := s
  origin := Origin.pathless
  provenance := Provenance.pathless
  origin_provenance p := by
    obtain ⟨first, later⟩ := p
    simp only [Provenance.pathless, Provenance.origin, Provenance.latest, List.getLast?_map]
    cases later.getLast? <;> rfl

theorem Relocation.pathless_carries (stamp : Stamp) : Relocation.pathless.Carries stamp stamp := by
  intro p
  have horigin := Relocation.pathless.origin_provenance p
  simp only [Stamp.extend, Provenance.append, Relocation.pathless] at horigin ⊢
  rw [horigin]
  simp [Provenance.pathless, ProvenanceEntry.pathless]

/-- The same findings, at any places and in any order. -/
def Comparison.pathless : Comparison where
  toRelocation := .pathless
  notes as bs := (as.map Note.finding).Perm (bs.map Note.finding)
  nil := .refl _
  append has hbs := by
    rw [List.map_append, List.map_append]
    exact has.append hbs
  single _ _ := .refl _

/-! ## Reports that are alike -/

namespace Report

variable {α β γ δ : Type} {φ : α → β} {ψ : γ → δ}

/-- The values are the same but for what `φ` takes away, and the same was found. -/
def Alike (φ : α → β) (p q : Report α) : Prop :=
  p.Matches .pathless (fun a b => φ a = φ b) q

namespace Alike

theorem pure {a b : α} (h : φ a = φ b) : (Pure.pure a : Report α).Alike φ (Pure.pure b) :=
  Matches.pure h

theorem bind {p q : Report α} {f g : α → Report γ} (h : p.Alike φ q)
    (hfg : ∀ a b, φ a = φ b → (f a).Alike ψ (g b)) : (p >>= f).Alike ψ (q >>= g) :=
  Matches.bind h hfg

/-- The rule for a step whose value does not count. -/
theorem andThen {p q : Report α} {f g : α → Report γ} (h : p.Alike φ q)
    (hfg : ∀ a b, (f a).Alike ψ (g b)) : (p >>= f).Alike ψ (q >>= g) :=
  h.bind fun a b _ => hfg a b

theorem note (finding : Finding) (o o' : Origin) :
    (Report.note finding o).Alike id (Report.note finding o') :=
  ⟨rfl, .refl _⟩

/-- Two reports that both compare with a third are alike. -/
theorem of_matches {p q : Report α} {t : Report β} (hp : p.Matches .pathless (fun a b => b = φ a) t)
    (hq : q.Matches .pathless (fun a b => b = φ a) t) : p.Alike φ q :=
  ⟨hp.value.symm.trans hq.value, hp.notes.trans hq.notes.symm⟩

/-- A list is read the same from any position on. -/
theorem forEachFrom {f g : Nat → α → Report γ} (h : ∀ i j a, (f i a).Alike ψ (g j a))
    (as : List α) (start start' : Nat) :
    (Report.forEachFrom f start as).Alike (List.map ψ) (Report.forEachFrom g start' as) := by
  induction as generalizing start start' with
  | nil => exact .pure rfl
  | cons a as ih =>
    refine .bind (h start start' a) fun x y hxy => ?_
    refine .bind (ih (start + 1) (start' + 1)) fun xs ys hxys => .pure ?_
    rw [List.map_cons, List.map_cons, hxy, hxys]

end Alike

theorem Matches.same (p : Report α) : p.Matches .pathless Eq p :=
  ⟨rfl, .refl _⟩

theorem matches_forEachFrom_perm {f : Nat → α → Report γ} (h : ∀ i j a, (f i a).Alike ψ (f j a))
    {as bs : List α} (hperm : as.Perm bs) (start start' : Nat) :
    (forEachFrom f start as).Matches .pathless (fun xs ys => (xs.map ψ).Perm (ys.map ψ))
      (forEachFrom f start' bs) := by
  induction hperm generalizing start start' with
  | nil => exact .pure .nil
  | cons a _ ih =>
    refine .bind (h start start' a) fun x y hxy => ?_
    refine .bind (ih (start + 1) (start' + 1)) fun xs ys hxys => .pure ?_
    rw [List.map_cons, List.map_cons, hxy]
    exact hxys.cons _
  | swap a b as =>
    have ha := h (start + 1) start' a
    have hb := h start (start' + 1) b
    have hrest := Alike.forEachFrom h as (start + 1 + 1) (start' + 1 + 1)
    constructor
    · simp only [forEachFrom, value_bind, value_pure, List.map_cons]
      rw [ha.value, hb.value, hrest.value]
      exact .swap _ _ _
    · have hnotes := Comparison.append _ hb.notes (Comparison.append _ ha.notes hrest.notes)
      change (List.map Note.finding _).Perm (List.map Note.finding _) at hnotes ⊢
      simp only [forEachFrom, notes_bind, notes_pure, List.append_nil, List.map_append] at hnotes ⊢
      exact hnotes.trans (List.perm_append_comm_assoc _ _ _)
  | trans _ _ ih ih' =>
    have hfirst := ih start start'
    have hsecond := ih' start' start'
    exact ⟨hfirst.value.trans hsecond.value, hfirst.notes.trans hsecond.notes⟩

/-- Of a list in another order the same is made in another order. -/
theorem matches_forEachFrom_rearranged {R : α → α → Prop} {S : δ → δ → Prop}
    {f : Nat → α → Report γ} (hplace : ∀ i j a, (f i a).Alike ψ (f j a))
    (hstep : ∀ i a b, R a b → (f i a).Matches .pathless (fun x y => S (ψ x) (ψ y)) (f i b))
    {as bs : List α} (h : Rearranged R as bs) (start : Nat) :
    (forEachFrom f start as).Matches .pathless
      (fun xs ys => Rearranged S (xs.map ψ) (ys.map ψ)) (forEachFrom f start bs) := by
  obtain ⟨between, hperm, hrel⟩ := h
  have hitems : (forEachFrom f start between).Matches .pathless
      (fun xs ys => List.Forall₂ S (xs.map ψ) (ys.map ψ)) (forEachFrom f start bs) := by
    clear hperm
    induction hrel generalizing start with
    | nil => exact .pure .nil
    | cons hhead _ ih =>
      refine .bind (hstep start _ _ hhead) fun x y hxy => ?_
      exact .bind (ih (start + 1)) fun xs ys hxys => .pure (.cons hxy hxys)
  have horder := matches_forEachFrom_perm hplace hperm start start
  exact ⟨⟨_, horder.value, hitems.value⟩, horder.notes.trans hitems.notes⟩

end Report

/-! ## Reading at two paths -/

namespace Declared.Reading

open Report

variable (r : Reading) (n : Node) (path path' : String)

theorem alike_noteInvalid (kind : Declaration) :
    (r.noteInvalid n path kind).Alike id (r.noteInvalid n path' kind) :=
  .note _ _ _

theorem alike_checkKeys (entries : List (String × Node)) (kind : Declaration) :
    (r.checkKeys entries kind path).Alike id (r.checkKeys entries kind path') := by
  refine ⟨rfl, ?_⟩
  change List.Perm _ _
  rw [notes_checkKeys, notes_checkKeys, List.map_map, List.map_map]
  exact .refl _

/-! ### Fields -/

theorem alike_authored (value key : String) (form : Option NameForm) (o o' : Origin) :
    (authored value o key form).Alike (Field.relocate .pathless) (authored value o' key form) :=
  .of_matches (Parallel.matches_authored rfl) (Parallel.matches_authored rfl)

theorem alike_required (key : String) (kind : Declaration) (form : Option NameForm) :
    (r.required n path key kind form).Alike (Field.relocate .pathless)
      (r.required n path' key kind form) := by
  unfold required
  dsimp only
  cases n.get? key with
  | none => exact .andThen (.note _ _ _) fun _ _ => .pure rfl
  | some value =>
    dsimp only
    cases value.text? with
    | none => exact .andThen (.note _ _ _) fun _ _ => .pure rfl
    | some text =>
      dsimp only
      split
      · exact .andThen (.note _ _ _) fun _ _ => .pure rfl
      · exact alike_authored _ _ _ _ _

theorem alike_optional (key : String) (form : Option NameForm) :
    (r.optional n path key form).Alike (Option.map (Field.relocate .pathless))
      (r.optional n path' key form) := by
  unfold optional
  cases n.get? key with
  | none => exact .pure rfl
  | some value =>
    dsimp only
    cases value.text? with
    | none => exact .andThen (.note _ _ _) fun _ _ => .pure rfl
    | some text =>
      dsimp only
      split
      · exact .pure rfl
      · exact .bind (alike_authored _ _ _ _ _) fun _ _ h => .pure (congrArg some h)

theorem alike_reference {text text' : Field} (h : text.relocate .pathless = text'.relocate .pathless)
    (key : String) (role : ReferenceRole) :
    (reference text key role).Alike (Reference.relocate .pathless) (reference text' key role) := by
  have hmatches : (reference text' key role).Matches .pathless
      (fun ref ref' => ref' = ref.relocate .pathless)
      (reference (text'.relocate .pathless) key role) := Parallel.matches_reference
  rw [← h] at hmatches
  exact .of_matches Parallel.matches_reference hmatches

theorem alike_optionalReference (key : String) (role : ReferenceRole) :
    (r.optionalReference n path key role).Alike (Option.map (Reference.relocate .pathless))
      (r.optionalReference n path' key role) := by
  refine .bind (r.alike_optional n path path' key none) fun text text' h => ?_
  cases text with
  | none =>
    cases text' with
    | none => exact .pure rfl
    | some text' => simp at h
  | some text =>
    cases text' with
    | none => simp at h
    | some text' =>
      refine .bind (alike_reference (Option.some.inj h) key role) fun _ _ h => .pure ?_
      exact congrArg some h

theorem alike_checkConcrete {name name' : Field} {classRef classRef' : Option Reference}
    {interfaceRef interfaceRef' : Option Reference}
    (hname : name.relocate .pathless = name'.relocate .pathless)
    (hclass : classRef.map (Reference.relocate .pathless) =
      classRef'.map (Reference.relocate .pathless))
    (hinterface : interfaceRef.map (Reference.relocate .pathless) =
      interfaceRef'.map (Reference.relocate .pathless)) :
    (checkConcrete name classRef interfaceRef).Alike (Option.map (Reference.relocate .pathless))
      (checkConcrete name' classRef' interfaceRef') := by
  have hmatches : (checkConcrete name' classRef' interfaceRef').Matches .pathless
      (fun ref ref' => ref' = ref.map (Reference.relocate .pathless))
      (checkConcrete (name'.relocate .pathless) (classRef'.map (Reference.relocate .pathless))
        (interfaceRef'.map (Reference.relocate .pathless))) := Parallel.matches_checkConcrete
  rw [← hname, ← hclass, ← hinterface] at hmatches
  exact .of_matches Parallel.matches_checkConcrete hmatches

/-! ### Lists -/

theorem alike_listing (key : String) :
    (r.listing n path key).Alike id (r.listing n path' key) := by
  unfold listing
  cases n.get? key with
  | none => exact .pure rfl
  | some value =>
    cases value with
    | mapping => exact .andThen (.note _ _ _) fun _ _ => .pure rfl
    | sequence => exact .pure rfl
    | scalar text =>
      dsimp only
      split
      · exact .pure rfl
      · exact .andThen (.note _ _ _) fun _ _ => .pure rfl

section

variable {α β : Type} {φ : α → β} {read : Node → String → Report α}
  (hread : ∀ n path path', (read n path).Alike φ (read n path'))

include hread

theorem alike_readItems (key : String) (items : List Node) :
    (readItems path key items read).Alike (List.map φ) (readItems path' key items read) :=
  .forEachFrom (fun _ _ item => hread item _ _) items 0 0

theorem alike_readListing (key : String) :
    (r.readListing n path key read).Alike (List.map φ) (r.readListing n path' key read) := by
  refine .bind (r.alike_listing n path path' key) fun found found' h => ?_
  obtain rfl : found = found' := h
  exact alike_readItems path path' hread key found.nodes

end

/-! ### Types -/

theorem alike_readInterface :
    (r.readInterface n path).Alike (Interface.relocate .pathless) (r.readInterface n path') := by
  unfold readInterface
  cases n.entries? with
  | none => exact .andThen (r.alike_noteInvalid n path path' _) fun _ _ => .pure rfl
  | some entries =>
    refine .andThen (r.alike_checkKeys path path' entries _) fun _ _ => ?_
    refine .bind (r.alike_required n path path' _ _ _) fun name name' hname => .pure ?_
    simp only [Interface.relocate, hname]
    rfl

theorem alike_readParameter :
    (r.readParameter n path).Alike (Parameter.relocate .pathless) (r.readParameter n path') := by
  unfold readParameter
  cases n.entries? with
  | none => exact .andThen (r.alike_noteInvalid n path path' _) fun _ _ => .pure rfl
  | some entries =>
    refine .andThen (r.alike_checkKeys path path' entries _) fun _ _ => ?_
    refine .bind (r.alike_required n path path' _ _ _) fun name name' hname => ?_
    refine .bind (r.alike_optionalReference n path path' _ _) fun classRef classRef' hclass => ?_
    refine .bind (r.alike_optionalReference n path path' _ _) fun ref ref' hinterface => ?_
    refine .bind (alike_checkConcrete hname hclass hinterface) fun _ _ hconcrete => .pure ?_
    simp only [Parameter.relocate, hname, hconcrete, hinterface]
    rfl

theorem alike_readParameters :
    (r.readParameters n path).Alike (Option.map (List.map (Parameter.relocate .pathless)))
      (r.readParameters n path') := by
  refine .bind (r.alike_listing n path path' _) fun found found' h => ?_
  obtain rfl : found = found' := h
  cases found with
  | absent => exact .andThen (.note _ _ _) fun _ _ => .pure rfl
  | invalid => exact .pure rfl
  | items nodes holder =>
    refine .bind (alike_readItems path path' r.alike_readParameter _ nodes) fun _ _ h => .pure ?_
    exact congrArg some h

theorem alike_readClass :
    (r.readClass n path).Alike (Class.relocate .pathless) (r.readClass n path') := by
  unfold readClass
  cases n.entries? with
  | none => exact .andThen (r.alike_noteInvalid n path path' _) fun _ _ => .pure rfl
  | some entries =>
    refine .andThen (r.alike_checkKeys path path' entries _) fun _ _ => ?_
    refine .bind (r.alike_required n path path' _ _ _) fun name name' hname => ?_
    refine .bind (r.alike_optionalReference n path path' _ _) fun ref ref' hinterface => ?_
    refine .bind (r.alike_readParameters n path path') fun _ _ hparameters => .pure ?_
    simp only [Class.relocate, hname, hinterface, hparameters]
    rfl

theorem alike_readNamespace :
    (r.readNamespace n path).Alike (Namespace.relocate .pathless) (r.readNamespace n path') := by
  unfold readNamespace
  cases n.entries? with
  | none => exact .andThen (r.alike_noteInvalid n path path' _) fun _ _ => .pure rfl
  | some entries =>
    refine .andThen (r.alike_checkKeys path path' entries _) fun _ _ => ?_
    refine .bind (r.alike_required n path path' _ _ _) fun name name' hname => ?_
    refine .bind (r.alike_readListing n path path' r.alike_readInterface _)
      fun interfaces interfaces' hinterfaces => ?_
    refine .bind (r.alike_readListing n path path' r.alike_readClass _)
      fun classes classes' hclasses => .pure ?_
    simp only [Namespace.relocate, hname, hinterfaces, hclasses]
    rfl

end Declared.Reading

end DependencyWiring
