import DependencyWiring.Proofs.AcceptedDocuments
import DependencyWiring.Proofs.ComparedChecks
import DependencyWiring.Proofs.ComparedReading
import DependencyWiring.Proofs.KeptDeclarations

/-!
# Unknown keys

A key that a declaration may not have is reported, and what stands under it is not looked at. So a
document is compared here with the one in which such keys are left out of every declaration that is
read.
-/
namespace DependencyWiring

/-! ## Documents without unknown keys -/

/-- The role of the value of a key, if a declaration may have the key. -/
def Declaration.role? (kind : Declaration) (key : String) : Option Role :=
  kind.fields.lookup key

theorem Declaration.role_eq_some {kind : Declaration} {key : String} {role : Role}
    (h : (key, role) ∈ kind.fields) : kind.role? key = some role := by
  have hfields : ∀ e ∈ kind.fields, kind.role? e.1 = some e.2 := by cases kind <;> decide
  exact hfields (key, role) h

/-- Exactly the keys that a declaration may have have a role. -/
theorem Declaration.exists_role_iff {kind : Declaration} {key : String} :
    (∃ role, kind.role? key = some role) ↔ key ∈ kind.keys := by
  rw [← kind.map_fst_fields]
  constructor
  · rintro ⟨role, hrole⟩
    obtain ⟨before, after, hfields, -⟩ := List.lookup_eq_some_iff.mp hrole
    rw [hfields]
    simp
  · intro hkey
    obtain ⟨⟨k, role⟩, hmem, rfl⟩ := List.mem_map.mp hkey
    exact ⟨role, role_eq_some hmem⟩

namespace Node

mutual

/-- The node without the unknown keys of the declarations that are read in it. -/
def restrict : Role → Node → Node
  | .block kind, mapping entries position => .mapping (restrictEntries kind [] entries) position
  | .list role, sequence items position => .sequence (restrictItems role items) position
  | _, n => n

def restrictItems (role : Role) : List Node → List Node
  | [] => []
  | n :: items => n.restrict role :: restrictItems role items

/-- The entries with known keys. Only the first value of a key is read. -/
def restrictEntries (kind : Declaration) (seen : List String) :
    List (String × Node) → List (String × Node)
  | [] => []
  | (key, n) :: entries =>
    match kind.role? key with
    | none => restrictEntries kind seen entries
    | some role =>
      (key, if seen.contains key then n else n.restrict role) ::
        restrictEntries kind (key :: seen) entries

end

theorem restrictItems_eq_map (role : Role) (items : List Node) :
    restrictItems role items = items.map (restrict role) := by
  induction items with
  | nil => rfl
  | cons n items ih => rw [restrictItems, ih, List.map_cons]

@[simp] theorem position_restrict (role : Role) (n : Node) :
    (n.restrict role).position = n.position := by
  cases n <;> cases role <;> rfl

@[simp] theorem shape_restrict (role : Role) (n : Node) : (n.restrict role).shape = n.shape := by
  cases n <;> cases role <;> rfl

@[simp] theorem text_restrict (role : Role) (n : Node) : (n.restrict role).text? = n.text? := by
  cases n <;> cases role <;> rfl

theorem entries_restrict (kind : Declaration) (n : Node) :
    (n.restrict (.block kind)).entries? = n.entries?.map (restrictEntries kind []) := by
  cases n <;> rfl

theorem items_restrict (role : Role) (n : Node) :
    (n.restrict (.list role)).items? = n.items?.map (List.map (restrict role)) := by
  cases n with
  | mapping => rfl
  | sequence items => exact congrArg some (restrictItems_eq_map role items)
  | scalar => rfl

/-- All keys that are left are known. -/
theorem mem_keys_of_restrictEntries {kind : Declaration} {seen : List String}
    {entries : List (String × Node)} :
    ∀ e ∈ restrictEntries kind seen entries, e.1 ∈ kind.keys := by
  induction entries generalizing seen with
  | nil => simp [restrictEntries]
  | cons e entries ih =>
    obtain ⟨key, n⟩ := e
    unfold restrictEntries
    split
    · exact ih
    · exact List.forall_mem_cons.mpr ⟨Declaration.exists_role_iff.mp ⟨_, ‹_›⟩, ih⟩

/-- The first value of a known key stays the first. -/
theorem lookup_restrictEntries {kind : Declaration} {key : String} {role : Role}
    (hrole : kind.role? key = some role) {seen : List String} (hseen : key ∉ seen)
    (entries : List (String × Node)) :
    lookup key (restrictEntries kind seen entries) = (lookup key entries).map (restrict role) := by
  induction entries generalizing seen with
  | nil => rfl
  | cons e entries ih =>
    obtain ⟨k, n⟩ := e
    unfold restrictEntries
    by_cases hk : k = key
    · subst hk
      rw [hrole]
      simp [lookup, hseen]
    · cases kind.role? k with
      | none => simp only [lookup, hk, if_false, ih hseen]
      | some _ =>
        have hseen' : key ∉ k :: seen := by
          intro hmem
          rcases List.mem_cons.mp hmem with heq | hmem
          · exact hk heq.symm
          · exact hseen hmem
        simp only [lookup, hk, if_false, ih hseen']

theorem get_restrict {kind : Declaration} {key : String} {role : Role}
    (hrole : kind.role? key = some role) (n : Node) :
    (n.restrict (.block kind)).get? key = (n.get? key).map (restrict role) := by
  rw [get?, get?, entries_restrict]
  cases n.entries? with
  | none => rfl
  | some entries => exact lookup_restrictEntries hrole (List.not_mem_nil) entries

end Node

/-! ## Runs without unknown keys -/

/-- The same places and the same notes, without those on unknown keys. -/
def Comparison.known : Comparison where
  toRelocation := .identity
  notes as bs := bs = as.filter fun n => !n.isUnknownKey
  nil := List.filter_nil.symm
  append has hbs := by rw [has, hbs, List.filter_append]
  single o hf := by
    refine (List.filter_eq_self.mpr ?_).symm
    intro n hn
    rw [List.mem_singleton.mp hn]
    exact congrArg not hf

namespace Declared.Reading

variable (r : Reading)

theorem parallel_known : Parallel .known r r fun role n n' => n' = n.restrict role where
  source := rfl
  origin := by
    rintro role n _ path rfl
    rw [origin, Node.position_restrict]
    rfl
  provenance := by
    rintro role n _ path rfl
    rw [provenance, origin, Node.position_restrict]
    rfl
  shape := by
    rintro role n _ rfl
    exact n.shape_restrict role
  text := by
    rintro role n _ rfl
    exact n.text_restrict role
  keys := by
    rintro kind n _ entries entries' path rfl he he'
    rw [Node.entries_restrict, he] at he'
    obtain rfl := Option.some.inj he'
    change _ = List.filter _ _
    rw [filter_known_checkKeys, notes_checkKeys, List.map_eq_nil_iff, List.filter_eq_nil_iff]
    intro e hmem
    simp [Node.mem_keys_of_restrictEntries e hmem]
  value := by
    rintro kind n _ key role rfl hkey
    rw [Node.get_restrict (Declaration.role_eq_some hkey)]
    cases n.get? key with
    | none => exact .none
    | some v => exact .some rfl
  item := by
    rintro role n _ items items' rfl hi hi'
    rw [Node.items_restrict, hi] at hi'
    obtain rfl := Option.some.inj hi'
    rw [List.forall₂_map_right_iff, List.forall₂_same]
    exact fun _ _ => rfl

end Declared.Reading

namespace Model

/-- Unknown keys are reported and otherwise ignored: a document that gives some key of a document
has the same model without its unknown keys, and the same diagnostics but for those on unknown
keys. -/
theorem ofNode_restrict (options : Options) (source : String) {root : Node} {key : String}
    (hkey : key ∈ Declaration.document.keys) (hroot : (root.get? key).isSome) :
    ofNode options source (root.restrict (.block .document)) =
      { ofNode options source root with
        diagnostics :=
          (ofNode options source root).diagnostics.filter fun d => !d.isUnknownKey } := by
  obtain ⟨role, hrole⟩ := Declaration.exists_role_iff.mpr hkey
  have hroot' : ((root.restrict (.block .document)).get? key).isSome := by
    rw [Node.get_restrict hrole, Option.isSome_map]
    exact hroot
  have hempty : root.entries? = some [] ↔
      (root.restrict (.block .document)).entries? = some [] := by
    constructor
    · intro hnil
      simp [Node.get?, hnil, Node.lookup] at hroot
    · intro hnil
      simp [Node.get?, hnil, Node.lookup] at hroot'
  rcases ((options.reading source).parallel_known).readDocument_cases rfl hempty with
    ⟨cause, hread, -⟩ | ⟨p, q, hread, hread', hmatches⟩
  · have hnone := (Declared.Reading.cause_of_readDocument _ hread).2.2 key
    simp [hnone] at hroot
  · have hsame : p.value.relocate Comparison.known.toRelocation = p.value :=
      p.value.relocate_identity
    have hcarries : Comparison.known.Carries (options.stamp .transform)
        (options.stamp .transform) := fun _ => rfl
    obtain ⟨-, hbuilt, hchecked⟩ := judge_relocate .known hcarries p.value
    have hvalue : q.value = p.value := hmatches.value.trans hsame
    rw [hsame] at hbuilt hchecked
    have hnotes := Comparison.append _ (Comparison.append _ hmatches.notes hbuilt) hchecked
    rw [ofNode_of_ok hread, ofNode_of_ok hread', hvalue]
    dsimp only [ofDeclared]
    rw [Note.filter_known_diagnostics]
    exact congrArg (fun notes => { (judge options p.value).model with
      diagnostics := notes.map Note.diagnostic }) hnotes

end Model

namespace Sample

/-- A document with unknown keys in it and in the block for generated code, which is given twice. -/
def overfull : Node :=
  mapping [("author", text "A"),
    ("codeGen", mapping [("registryClassName", text "Registry"), ("license", mapping [])]),
    ("codeGen", mapping [("license", text "B")])]

end Sample

namespace Model

/-- The two unknown keys that are read are reported, and leaving them out leaves out their reports
and nothing else. -/
theorem overfull_restrict :
    ((ofNode Sample.options "overfull" Sample.overfull).diagnostics.filter
      Diagnostic.isUnknownKey).length = 2 ∧
    ofNode Sample.options "overfull" (Sample.overfull.restrict (.block .document)) =
      { ofNode Sample.options "overfull" Sample.overfull with
        diagnostics := (ofNode Sample.options "overfull" Sample.overfull).diagnostics.filter
          fun d => !d.isUnknownKey } := by
  have hkey : "codeGen" ∈ Declaration.document.keys := by decide
  have hroot : (Sample.overfull.get? "codeGen").isSome := by decide
  exact ⟨by decide +kernel, ofNode_restrict Sample.options "overfull" hkey hroot⟩

end Model

end DependencyWiring
