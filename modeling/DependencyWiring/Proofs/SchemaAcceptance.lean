import DependencyWiring.Schema
import Mathlib.Data.List.Forall2
import Mathlib.Data.List.Nodup

/-!
# Acceptance by a schema

A schema accepts a value when checking finds no violation in it. What each schema accepts is said
here without the check. An object whose members stand in the order of the declared properties is
accepted when each member is, and of several alternatives those are left out that do not accept.
-/
namespace DependencyWiring

/-! ## Members -/

namespace Json

variable {members : List (String × Json)} {name : String} {v : Json}

theorem mem_of_member (h : member? name members = some v) : (name, v) ∈ members := by
  induction members with
  | nil => simp [member?] at h
  | cons m ms ih =>
    obtain ⟨k, w⟩ := m
    rw [member?] at h
    split at h
    · rename_i hk
      obtain rfl := Option.some.inj h
      exact hk ▸ List.mem_cons_self
    · exact List.mem_cons_of_mem _ (ih h)

theorem member_eq_none_iff : member? name members = none ↔ name ∉ members.map Prod.fst := by
  induction members with
  | nil => simp [member?]
  | cons m ms ih =>
    obtain ⟨k, w⟩ := m
    by_cases hk : k = name
    · simp [member?, hk]
    · simp [member?, hk, ih, Ne.symm hk]

theorem isSome_member_iff : (member? name members).isSome = true ↔ name ∈ members.map Prod.fst := by
  rw [Option.isSome_iff_ne_none, ne_eq, member_eq_none_iff, not_not]

/-- Names that occur once tell their members. -/
theorem member_eq_some_iff (hnodup : (members.map Prod.fst).Nodup) :
    member? name members = some v ↔ (name, v) ∈ members := by
  refine ⟨mem_of_member, fun hmem => ?_⟩
  have hsome := isSome_member_iff.mpr (List.mem_map_of_mem hmem)
  obtain ⟨w, hw⟩ := Option.isSome_iff_exists.mp hsome
  have heq := List.inj_on_of_nodup_map hnodup (mem_of_member hw) hmem rfl
  rw [hw, (Prod.mk.inj heq).2]

end Json

namespace Schema

/-- Nothing in the value breaks the schema. -/
def Accepts (s : Schema) (v : Json) : Prop :=
  s.violations v = []

/-! ## Values without parts -/

theorem accepts_const_iff {text : String} {v : Json} :
    (const text).Accepts v ↔ v = .string text := by
  rw [Accepts, violations_const]
  cases v <;> simp

theorem accepts_oneOfTexts_iff {texts : List String} {v : Json} :
    (oneOfTexts texts).Accepts v ↔ ∃ s ∈ texts, v = .string s := by
  rw [Accepts, violations_oneOfTexts]
  cases v <;> simp

theorem accepts_typed_iff {kinds : List Kind} {limits : List Limit} {v : Json} :
    (typed kinds limits).Accepts v ↔
      (∃ k ∈ kinds, k.has v = true) ∧ ∀ l ∈ limits, l.violations v = [] := by
  rw [Accepts, violations_typed]
  simp

/-! ## Arrays and objects -/

theorem accepts_array_iff {minItems : Nat} {items : Schema} {vs : List Json} :
    (array minItems items).Accepts (.array vs) ↔
      minItems ≤ vs.length ∧ ∀ v ∈ vs, items.Accepts v := by
  rw [Accepts, violations_array]
  simp [Accepts]

theorem propertyViolations_eq_nil_iff {properties : List (String × Schema)}
    {members : List (String × Json)} :
    propertyViolations properties members = [] ↔
      ∀ p ∈ properties, ∀ v, Json.member? p.1 members = some v → p.2.Accepts v := by
  induction properties with
  | nil => exact iff_of_true rfl fun _ hp => absurd hp List.not_mem_nil
  | cons p ps ih =>
    obtain ⟨name, s⟩ := p
    rw [propertyViolations_cons]
    cases hv : Json.member? name members <;> simp [Accepts, hv, ih]

/-- An object has all required members and only declared ones, each as it is declared. -/
theorem accepts_object_iff {required : List String} {properties : List (String × Schema)}
    {members : List (String × Json)} :
    (object required properties).Accepts (.object members) ↔
      (∀ name ∈ required, name ∈ members.map Prod.fst) ∧
      (∀ p ∈ properties, ∀ v, Json.member? p.1 members = some v → p.2.Accepts v) ∧
      ∀ name ∈ members.map Prod.fst, name ∈ properties.map Prod.fst := by
  have hrequired : (required.filter fun name => (Json.member? name members).isNone).map
      Violation.missing = [] ↔ ∀ name ∈ required, name ∈ members.map Prod.fst := by
    simp only [List.map_eq_nil_iff, List.filter_eq_nil_iff, Option.isNone_iff_eq_none,
      Json.member_eq_none_iff, not_not]
  have hundeclared : undeclared properties members = [] ↔
      ∀ name ∈ members.map Prod.fst, name ∈ properties.map Prod.fst := by
    simp [undeclared]
  rw [Accepts, violations_object, List.append_eq_nil_iff, List.append_eq_nil_iff, hrequired,
    propertyViolations_eq_nil_iff, ← hundeclared, and_assoc]
  cases undeclared properties members <;> simp

theorem exists_members_of_accepts {required : List String} {properties : List (String × Schema)}
    {v : Json} (h : (object required properties).Accepts v) : ∃ members, v = .object members := by
  cases v with
  | object members => exact ⟨members, rfl⟩
  | _ => exact absurd h (List.cons_ne_nil _ _)

/-- Members in the order of the properties are judged one by one. -/
theorem forall_member_iff {properties : List (String × Schema)} {members : List (String × Json)}
    (hnames : members.map Prod.fst = properties.map Prod.fst)
    (hnodup : (properties.map Prod.fst).Nodup) :
    (∀ p ∈ properties, ∀ v, (p.1, v) ∈ members → p.2.Accepts v) ↔
      List.Forall₂ (fun p m => p.2.Accepts m.2) properties members := by
  induction properties generalizing members with
  | nil =>
    obtain rfl : members = [] := by simpa using hnames
    simp
  | cons p ps ih =>
    cases members with
    | nil => simp at hnames
    | cons m ms =>
      obtain ⟨hname, hrest⟩ := List.cons.inj hnames
      obtain ⟨hfresh, hps⟩ := List.nodup_cons.mp hnodup
      rw [List.forall₂_cons, ← ih hrest hps]
      constructor
      · intro h
        refine ⟨h p List.mem_cons_self m.2 (hname ▸ List.mem_cons_self), fun q hq v hv => ?_⟩
        exact h q (List.mem_cons_of_mem p hq) v (List.mem_cons_of_mem m hv)
      · -- A name occurs once, so a property and its member are both at the head or both behind it.
        rintro ⟨hhead, htail⟩ q hq v hv
        rcases List.mem_cons.mp hq with rfl | hq
        · rcases List.mem_cons.mp hv with rfl | hv
          · exact hhead
          · exact absurd (hrest ▸ List.mem_map_of_mem hv) hfresh
        · rcases List.mem_cons.mp hv with rfl | hv
          · exact absurd (hname ▸ List.mem_map_of_mem hq) hfresh
          · exact htail q hq v hv

/-- Where all declared members are there in their order, what is required does not matter. -/
theorem accepts_object_iff_forall₂ {required : List String} {properties : List (String × Schema)}
    {members : List (String × Json)} (hnames : members.map Prod.fst = properties.map Prod.fst)
    (hnodup : (properties.map Prod.fst).Nodup)
    (hrequired : ∀ name ∈ required, name ∈ properties.map Prod.fst) :
    (object required properties).Accepts (.object members) ↔
      List.Forall₂ (fun p m => p.2.Accepts m.2) properties members := by
  rw [accepts_object_iff, ← forall_member_iff hnames hnodup, hnames]
  simp only [Json.member_eq_some_iff (hnames ▸ hnodup)]
  exact ⟨fun h => h.2.1, fun h => ⟨hrequired, h, fun _ hname => hname⟩⟩

/-! ## Alternatives -/

variable {s : Schema} {alternatives : List Schema} {v : Json}

theorem countMatches_eq_zero (h : ∀ t ∈ alternatives, ¬t.Accepts v) :
    countMatches alternatives v = 0 := by
  induction alternatives with
  | nil => rfl
  | cons t ts ih =>
    have ht : (violations t v).isEmpty = false := by
      simpa [Accepts] using h t List.mem_cons_self
    simp [countMatches_cons, ht, ih fun u hu => h u (List.mem_cons_of_mem t hu)]

theorem accepts_oneOf_iff : (oneOf alternatives).Accepts v ↔ countMatches alternatives v = 1 := by
  rw [Accepts, violations_oneOf]
  split <;> simp_all

/-- An alternative that does not accept may be left out. -/
theorem accepts_oneOf_cons_iff (h : ¬s.Accepts v) :
    (oneOf (s :: alternatives)).Accepts v ↔ (oneOf alternatives).Accepts v := by
  have hs : (violations s v).isEmpty = false := by simpa [Accepts] using h
  simp [accepts_oneOf_iff, countMatches_cons, hs]

theorem accepts_oneOf_head_iff (h : ∀ t ∈ alternatives, ¬t.Accepts v) :
    (oneOf (s :: alternatives)).Accepts v ↔ s.Accepts v := by
  rw [accepts_oneOf_iff, countMatches_cons, countMatches_eq_zero h, Accepts]
  by_cases hs : violations s v = [] <;> simp [hs]

end Schema

end DependencyWiring
