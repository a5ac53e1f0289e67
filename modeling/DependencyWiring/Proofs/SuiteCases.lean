import DependencyWiring.Proofs.CommandAgreement
import DependencyWiring.Proofs.QualifiedNames
import Mathlib.Tactic.SplitIfs

/-!
# Cases of suites

A case of a suite is a document in one of its two parts, known by the stem and the ending of its
name. It is said here, without a runner of suites, what a case asks for: of a positive case that its
model has no errors, of a negative case that its model has errors and that the codes on it are those
listed in the file beside it.
-/
namespace DependencyWiring

namespace Conformance

inductive Part where
  | positive
  | negative
  deriving DecidableEq, Repr, Inhabited

def Part.name : Part → String
  | positive => "positive"
  | negative => "negative"

/-- The ending of the name of a document. -/
inductive Ending where
  | yaml
  | yml
  | json
  deriving DecidableEq, Repr, Inhabited

def Ending.text : Ending → String
  | yaml => "yaml"
  | yml => "yml"
  | json => "json"

/-- A document in a part of a suite. -/
structure Case where
  part : Part
  stem : String
  ending : Ending
  deriving DecidableEq, Repr, Inhabited

namespace Case

variable (c : Case)

def name : String := c.stem ++ "." ++ c.ending.text

/-- How reports call the case. -/
def label : String := c.part.name ++ "/" ++ c.name

/-- The directory of the case in a suite. -/
def directory (suite : String) : String := Path.child suite c.part.name

def path (suite : String) : String := Path.child (c.directory suite) c.name

/-- The file beside the case that lists codes. -/
def listing (suite : String) : String := Path.child (c.directory suite) (c.stem ++ ".expected")

/-- Positive cases come before negative ones, and the cases of a part are in the order of their
names. -/
def Before (c d : Case) : Prop :=
  c.part = .positive ∧ d.part = .negative ∨ c.part = d.part ∧ c.name < d.name

/-- A negative case of the stem `.`. The file beside it is looked for at the directory above, since
its name without what stands behind the last dot is `..`. -/
def IsMisread : Prop := c.part = .negative ∧ c.stem = "."

instance : Decidable c.IsMisread := inferInstanceAs (Decidable (_ ∧ _))

end Case

/-- The codes that a text lists: its lines without the blanks around them, except those of which
nothing is left and those that start with a number sign. -/
def listedCodes (text : String) : List String :=
  ((Text.pieces '\n' text.toList).map fun line => Text.trim (String.ofList line)).filter
    fun line => line ≠ "" ∧ line.toList.head? ≠ some '#'

end Conformance

/-- A diagnostic on the model is an error. -/
def Model.HasError (m : Model) : Prop :=
  ∃ d ∈ m.diagnostics, d.severity = .error

namespace Workspace

open Conformance

variable (w : Workspace) (options : Options) (suite : String) (c : Case)

/-- The path leads to a file that is the text. -/
def HasText (path text : String) : Prop :=
  ∃ bytes, w.readBytes path = .ok bytes ∧ String.fromUTF8? bytes = some text

/-- The case is in the suite. A name that is an ending alone names no document. -/
def HasCase : Prop :=
  c.stem ≠ "" ∧ c.name ∈ w.entryNames (c.directory suite)

/-- The document gives what its part of the suite asks for. -/
def Passes : Prop :=
  match c.part with
  | .positive => ∃ model, w.HasModel options (c.path suite) model ∧ ¬ model.HasError
  | .negative => ∃ text model, w.HasText (c.listing suite) text ∧
      w.HasModel options (c.path suite) model ∧ model.HasError ∧
      (model.diagnostics.map fun d => d.code.name) = listedCodes text

end Workspace

/-! ## Names of documents -/

namespace Path

/-- A path without slashes is one piece, which is the name of the file unless it is a step. -/
theorem fileName_eq_some_iff {path : String} (h : '/' ∉ path.toList) {text : List Char} :
    fileName? path = some text ↔
      text = path.toList ∧ text ≠ [] ∧ text ≠ ['.'] ∧ text ≠ ['.', '.'] := by
  have hhead : path.toList.head? ≠ some '/' := fun hhead => h (List.mem_of_mem_head? hhead)
  have hcomponents : components path = (componentOf path.toList).toList := by
    rw [components, if_neg hhead, Text.pieces_eq_singleton h, List.nil_append]
    rfl
  rw [fileName?, hcomponents]
  unfold componentOf
  split_ifs with hblank hup
  · grind
  · grind
  · grind

end Path

namespace Conformance

theorem Ending.dot_not_mem (e : Ending) : '.' ∉ e.text.toList := by
  cases e <;> decide

theorem Ending.exists_text_iff {ending : String} :
    ["yaml", "yml", "json"].contains ending = true ↔ ∃ e : Ending, e.text = ending := by
  constructor
  · intro h
    simp only [List.contains_iff_mem, List.mem_cons, List.not_mem_nil, or_false] at h
    rcases h with rfl | rfl | rfl
    · exact ⟨.yaml, rfl⟩
    · exact ⟨.yml, rfl⟩
    · exact ⟨.json, rfl⟩
  · rintro ⟨e, rfl⟩
    cases e <;> decide

theorem Ending.text_injective : Function.Injective Ending.text := by
  intro e f h
  cases e <;> cases f <;> first | rfl | exact absurd h (by decide)

namespace Case

theorem toList_name (c : Case) : c.name.toList = c.stem.toList ++ '.' :: c.ending.text.toList := by
  simp [name]

/-- A name of a document is cut at the dot in front of its ending. -/
theorem splitExtension_name {c : Case} (h : c.stem ≠ "") :
    Path.splitExtension c.name.toList = some (c.stem.toList, c.ending.text.toList) := by
  rw [Path.splitExtension, toList_name, Text.splitLast_append c.ending.dot_not_mem]
  simpa using h

theorem fileName_name {c : Case} (hslash : '/' ∉ c.name.toList) :
    Path.fileName? c.name = some c.name.toList := by
  have hlength : 2 < c.name.toList.length := by
    have hending : 2 < c.ending.text.toList.length := by cases c.ending <;> decide
    rw [toList_name, List.length_append, List.length_cons]
    omega
  apply (Path.fileName_eq_some_iff hslash).2
  refine ⟨rfl, ?_, ?_, ?_⟩ <;> intro hname <;> simp [hname] at hlength

/-- The name of a case tells its stem and its ending. -/
theorem eq_of_name {c d : Case} (hpart : c.part = d.part) (hc : c.stem ≠ "") (hd : d.stem ≠ "")
    (h : c.name = d.name) : c = d := by
  obtain ⟨part, stem, ending⟩ := c
  obtain ⟨part', stem', ending'⟩ := d
  have hsplit := splitExtension_name hc
  rw [h, splitExtension_name hd] at hsplit
  simp only [Option.some.injEq, Prod.mk.injEq, String.toList_inj] at hsplit
  obtain ⟨rfl, hending⟩ := hsplit
  obtain rfl : part = part' := hpart
  rw [Ending.text_injective hending]

/-- A name without slashes is a document's name if it is a stem, a dot and an ending. -/
theorem isDocumentName_iff {name : String} (h : '/' ∉ name.toList) (part : Part) :
    isDocumentName name = true ↔ ∃ c : Case, c.part = part ∧ c.stem ≠ "" ∧ c.name = name := by
  constructor
  · intro hname
    unfold isDocumentName at hname
    split at hname
    · rename_i ending hending
      obtain ⟨text, htext, hafter⟩ := Option.bind_eq_some_iff.1 hending
      obtain ⟨⟨before, after⟩, hsplit, hending⟩ := Option.bind_eq_some_iff.1 hafter
      obtain ⟨hsplit, hbefore⟩ := Option.filter_eq_some_iff.1 hsplit
      obtain ⟨e, he⟩ := Ending.exists_text_iff.1 hname
      obtain rfl := ((Path.fileName_eq_some_iff h).1 htext).1
      have hname := Text.eq_append_of_splitLast hsplit
      refine ⟨⟨part, String.ofList before, e⟩, rfl, ?_, ?_⟩
      · intro hstem
        have hempty : before = [] := by simpa using hstem
        exact of_decide_eq_true hbefore hempty
      · have hafter : e.text.toList = after := by
          rw [he, ← Option.some.inj hending, String.toList_ofList]
        rw [← String.toList_inj, toList_name, hname, String.toList_ofList, hafter]
    · cases hname
  · rintro ⟨c, -, hstem, rfl⟩
    have hextension : Path.extension? c.name = some c.ending.text := by
      rw [Path.extension?, fileName_name h]
      simp [splitExtension_name hstem]
    rw [isDocumentName, hextension]
    exact Ending.exists_text_iff.2 ⟨c.ending, rfl⟩

theorem break_not_mem_label {c : Case} (h : '\n' ∉ c.name.toList) : '\n' ∉ c.label.toList := by
  have hpart : '\n' ∉ c.part.name.toList := by cases c.part <;> decide
  simp [label, hpart, h]

/-- The name under which the file of codes is looked for. What is left of a name of the stem `.` is
no name of a file, so that it takes no ending. -/
theorem expectedName_name {c : Case} (h : c.stem ≠ "") :
    expectedName c.name = if c.stem = "." then ".." else c.stem ++ ".expected" := by
  have hdot : c.stem.toList = ['.'] ↔ c.stem = "." := by
    rw [← String.toList_inj]
    rfl
  simp [expectedName, splitExtension_name h, hdot]

end Case

theorem expectedCodes_eq (text : String) : expectedCodes text = listedCodes text := by
  unfold expectedCodes listedCodes Text.trimmedLines
  rw [List.filter_map, List.filter_map, List.map_map]
  congr 1
  · funext line
    simp [Text.trim]
  · congr 1
    funext line
    simp [Text.trim]

end Conformance

/-! ## Paths that end in a step up -/

namespace Path

/-- The name of an entry stands behind a slash. -/
theorem exists_toList_child (directory name : String) :
    ∃ front, (child directory name).toList = front ++ '/' :: name.toList := by
  unfold child
  split
  · rename_i hlast
    obtain ⟨front, hfront⟩ := List.getLast?_eq_some_iff.1 hlast
    exact ⟨front, by simp [hfront]⟩
  · exact ⟨directory.toList, by simp⟩

end Path

namespace Workspace

open FileTree

variable {w : Workspace}

theorem exists_steps_child_up (directory : String) :
    ∃ ss, steps (Path.child directory "..") = ss ++ [.up] := by
  obtain ⟨front, hfront⟩ := Path.exists_toList_child directory ".."
  refine ⟨((Text.pieces '/' front).filter (· ≠ [])).map Step.ofPiece, ?_⟩
  rw [steps, hfront, Text.pieces_append, List.filter_append, List.map_append]
  rfl

/-- What is above a directory is a directory. -/
theorem get_tail_of_takeStep_up {here here' : List String}
    (h : takeStep w.root here .up = .ok here') :
    ∃ es, w.root.get? here'.reverse = some (.directory es) := by
  obtain ⟨es, hes, rfl⟩ := takeStep_eq_ok.1 h
  cases here with
  | nil => exact ⟨es, hes⟩
  | cons n ns =>
    rw [List.reverse_cons, get_append] at hes
    obtain ⟨above, habove, hbelow⟩ := Option.bind_eq_some_iff.1 hes
    obtain ⟨held, -, rfl, -⟩ := eq_directory_of_get_cons hbelow
    exact ⟨held, habove⟩

theorem get_of_follow_up {start names : List String} {ss : List Step}
    (h : w.follow start (ss ++ [.up]) = .ok names) :
    ∃ es, w.root.get? names = some (.directory es) := by
  rw [follow, List.foldlM_append] at h
  cases hfront : ss.foldlM (takeStep w.root) start.reverse with
  | error e =>
    rw [hfront] at h
    cases h
  | ok here =>
    rw [hfront] at h
    cases hup : takeStep w.root here .up with
    | error e => simp [bind, Except.bind, Except.map, hup] at h
    | ok here' =>
      have hnames : here'.reverse = names := by
        simpa [bind, Except.bind, Except.map, hup, pure, Except.pure] using h
      rw [← hnames]
      exact get_tail_of_takeStep_up hup

/-- A path that ends in a step up leads to no file. -/
theorem readBytes_child_up (directory : String) (bytes : ByteArray) :
    w.readBytes (Path.child directory "..") ≠ .ok bytes := by
  intro hread
  obtain ⟨t, hfind, hfile⟩ := Except.bind_eq_ok.1 hread
  obtain ⟨-, -, hfind⟩ := Except.bind_eq_ok.1 hfind
  obtain ⟨names, hfollow, hget⟩ := Except.bind_eq_ok.1 hfind
  obtain ⟨ss, hss⟩ := exists_steps_child_up directory
  rw [hss] at hfollow
  obtain ⟨es, hes⟩ := get_of_follow_up hfollow
  rw [hes] at hget
  dsimp only at hget
  split at hget
  · cases hget
  · cases hget
    cases hfile

end Workspace

end DependencyWiring
