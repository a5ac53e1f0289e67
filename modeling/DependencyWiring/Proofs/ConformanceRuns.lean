import DependencyWiring.Proofs.SuiteCases
import DependencyWiring.Proofs.TestReports

/-!
# Runs of suites

A run of a suite tests every case of it once, leaves all files as they were, and ends with 0 if all
cases pass. Its report gives the cases in order under the numbers from 1 on. A case whose file of
codes is looked for at the directory above fails whatever the files hold.
-/
namespace DependencyWiring

theorem Model.isGeneratable_iff_not_hasError {m : Model} :
    m.isGeneratable = true ↔ ¬ m.HasError := by
  simp [Model.isGeneratable, Model.HasError, Diagnostic.hasErrors, Diagnostic.isError]

/-! ## Why a case fails -/

namespace Conformance

theorem positiveFailure_eq_none_iff {x : Except SourceError Model} :
    positiveFailure x = none ↔ ∃ model, x = .ok model ∧ ¬ model.HasError := by
  cases x with
  | error e => simp [positiveFailure]
  | ok model => simp [positiveFailure, ← Model.isGeneratable_iff_not_hasError]

theorem negativeFailure_eq_none_iff {codes : List String} {x : Except SourceError Model} :
    negativeFailure codes x = none ↔
      ∃ model, x = .ok model ∧ model.HasError ∧ codesOf model = codes := by
  cases x with
  | error e => simp [negativeFailure]
  | ok model =>
    have herror : model.HasError ↔ model.isGeneratable = false := by
      rw [← Bool.not_eq_true, Model.isGeneratable_iff_not_hasError, Classical.not_not]
    by_cases hcodes : codesOf model = codes
    · simp [negativeFailure, herror, hcodes]
    · cases hgeneratable : model.isGeneratable <;> simp [negativeFailure, hcodes, hgeneratable]

end Conformance

namespace Workspace

open Conformance

variable (w : Workspace) (options : Options)

/-- Why a document does not give the errors that a file lists. What is wrong with that file is said
first. -/
def listingFailure (path listing : String) : Option String :=
  match w.find listing with
  | .error _ => some ("missing expected file: " ++ listing)
  | .ok _ =>
    match (w.readBytes listing >>= FileSystem.decode).mapError FileError.message with
    | .error reason => some s!"failed to read expected file: cannot read {listing}: {reason}"
    | .ok text => negativeFailure (expectedCodes text) (w.compiled options path)

/-- Why a case fails, if it does. -/
def failure (suite : String) (c : Case) : Option String :=
  match c.part with
  | .positive => positiveFailure (w.compiled options (c.path suite))
  | .negative =>
    w.listingFailure options (c.path suite) (Path.child (c.directory suite) (expectedName c.name))

variable {w options}

theorem readText_eq_ok_iff {path text : String} :
    (w.readBytes path >>= FileSystem.decode).mapError FileError.message = .ok text ↔
      w.HasText path text := by
  unfold HasText
  cases w.readBytes path with
  | error e => simp [bind, Except.bind, Except.mapError]
  | ok bytes =>
    cases htext : String.fromUTF8? bytes <;>
      simp [bind, Except.bind, Except.mapError, FileSystem.decode, htext]

theorem exists_find_of_hasText {path text : String} (h : w.HasText path text) :
    ∃ t, w.find path = .ok t := by
  obtain ⟨bytes, hbytes, -⟩ := h
  obtain ⟨t, hfind, -⟩ := Except.bind_eq_ok.1 hbytes
  exact ⟨t, hfind⟩

theorem listingFailure_eq_none_iff {path listing : String} :
    w.listingFailure options path listing = none ↔
      ∃ text model, w.HasText listing text ∧ w.HasModel options path model ∧ model.HasError ∧
        codesOf model = listedCodes text := by
  unfold listingFailure
  constructor
  · intro h
    split at h
    · cases h
    · split at h
      · cases h
      · rename_i text htext
        obtain ⟨model, hmodel, herror, hcodes⟩ := negativeFailure_eq_none_iff.1 h
        exact ⟨text, model, readText_eq_ok_iff.1 htext, compiled_eq_ok.1 hmodel, herror,
          hcodes.trans (expectedCodes_eq text)⟩
  · rintro ⟨text, model, htext, hmodel, herror, hcodes⟩
    obtain ⟨t, hfind⟩ := exists_find_of_hasText htext
    simp only [hfind, readText_eq_ok_iff.2 htext]
    exact negativeFailure_eq_none_iff.2
      ⟨model, compiled_eq_ok.2 hmodel, herror, hcodes.trans (expectedCodes_eq text).symm⟩

/-- A run finds no failure of exactly those cases that pass and are not misread. -/
theorem failure_eq_none_iff {suite : String} {c : Case} (h : c.stem ≠ "") :
    w.failure options suite c = none ↔ w.Passes options suite c ∧ ¬ c.IsMisread := by
  unfold failure Passes Case.IsMisread
  cases c.part with
  | positive => simp [positiveFailure_eq_none_iff, compiled_eq_ok]
  | negative =>
    simp only [Case.expectedName_name h, true_and]
    split_ifs with hstem
    · have hnone : w.listingFailure options (c.path suite)
          (Path.child (c.directory suite) "..") ≠ none := by
        rw [Ne, listingFailure_eq_none_iff]
        rintro ⟨text, model, ⟨bytes, hbytes, -⟩, -⟩
        exact readBytes_child_up _ bytes hbytes
      simp [hnone, hstem]
    · simp only [hstem, not_false_eq_true, and_true]
      exact listingFailure_eq_none_iff

end Workspace

/-! ## Runs -/

namespace Command

open Conformance

variable {w : Workspace} {options : Options}

/-- Steps that leave the state alone do so one after another. -/
theorem run_mapM {σ α β : Type} {f : α → StateM σ β} {g : α → β} {s : σ} {as : List α}
    (h : ∀ a ∈ as, (f a).run s = (g a, s)) : (as.mapM f).run s = (as.map g, s) := by
  induction as with
  | nil => rfl
  | cons a as ih =>
    rw [List.mapM_cons, StateT.run_bind, h a List.mem_cons_self]
    change (as.mapM f >>= fun bs => pure (g a :: bs) : StateM σ (List β)).run s = _
    rw [StateT.run_bind, ih fun b hb => h b (List.mem_cons_of_mem _ hb)]
    rfl

theorem run_isPresent (path : String) :
    (FileSystem.isPresent path : StateM Workspace _).run w =
      match w.find path with
      | .ok _ => (true, w)
      | .error _ => (false, w) := by
  change (match w.find path with
    | .ok _ => pure true
    | .error _ => pure false : StateM Workspace Bool).run w = _
  cases w.find path <;> rfl

theorem run_negativeOutcome (path listing : String) :
    (negativeOutcome options path listing : StateM Workspace _).run w =
      (w.listingFailure options path listing, w) := by
  unfold negativeOutcome Workspace.listingFailure
  rw [StateT.run_bind, run_isPresent]
  cases w.find listing with
  | error e => rfl
  | ok t =>
    change (FileSystem.readText listing >>= _ : StateM Workspace (Option String)).run w = _
    rw [StateT.run_bind, run_readText]
    cases (w.readBytes listing >>= FileSystem.decode).mapError FileError.message with
    | error reason => rfl
    | ok text =>
      change (Conformance.compile options path >>= _ : StateM Workspace (Option String)).run w = _
      rw [Conformance.compile, StateT.run_bind, run_ofSource]
      rfl

/-- The test of a case. -/
def testOf (w : Workspace) (options : Options) (suite : String) (c : Case) : Tap.Test :=
  ⟨c.label, w.failure options suite c⟩

/-- The test of a document of either part. -/
def partTest (options : Options) : Part → String → String → StateM Workspace Tap.Test
  | .positive => positiveTest options
  | .negative => negativeTest options

/-- Testing a case says why it fails and leaves the files alone. -/
theorem run_partTest (suite : String) (c : Case) :
    (partTest options c.part (c.directory suite) c.name).run w =
      (testOf w options suite c, w) := by
  unfold testOf Workspace.failure Case.label Case.path
  cases c.part with
  | positive =>
    rw [partTest, positiveTest, StateT.run_bind, Conformance.compile, run_ofSource]
    rfl
  | negative =>
    rw [partTest, negativeTest, StateT.run_bind, run_negativeOutcome]
    rfl

/-- The names of the documents in a directory, each of them once. -/
theorem run_documentNames (directory : String) :
    (documentNames directory : StateM Workspace _).run w =
      (Text.sortedDistinct ((w.entryNames directory).filter isDocumentName), w) := rfl

/-! ## The order of cases -/

/-- Names of documents are names of cases of either part. -/
theorem exists_cases_of_names (part : Part) {names : List String}
    (h : ∀ name ∈ names, isDocumentName name = true ∧ '/' ∉ name.toList) :
    ∃ cs : List Case, cs.map Case.name = names ∧ ∀ c ∈ cs, c.part = part ∧ c.stem ≠ "" := by
  induction names with
  | nil => exact ⟨[], rfl, by simp⟩
  | cons name names ih =>
    obtain ⟨cs, hcs, hparts⟩ := ih fun other hother => h other (List.mem_cons_of_mem _ hother)
    obtain ⟨hname, hslash⟩ := h name List.mem_cons_self
    obtain ⟨c, hpart, hstem, rfl⟩ := (Case.isDocumentName_iff hslash part).1 hname
    refine ⟨c :: cs, by rw [List.map_cons, hcs], ?_⟩
    intro d hd
    rcases List.mem_cons.1 hd with rfl | hd
    · exact ⟨hpart, hstem⟩
    · exact hparts d hd

/-- The cases are those of a part in the order in which a run comes to their names. -/
structure ListsPart (w : Workspace) (suite : String) (part : Part) (cs : List Case) : Prop where
  names : cs.map Case.name =
    Text.sortedDistinct ((w.entryNames (Path.child suite part.name)).filter isDocumentName)
  ofPart : ∀ c ∈ cs, c.part = part ∧ c.stem ≠ ""
  slash_not_mem : ∀ name ∈ w.entryNames (Path.child suite part.name), '/' ∉ name.toList

theorem exists_listsPart {suite : String} {part : Part}
    (hslash : ∀ name ∈ w.entryNames (Path.child suite part.name), '/' ∉ name.toList) :
    ∃ cs, ListsPart w suite part cs := by
  have hdocuments : ∀ name ∈ Text.sortedDistinct
      ((w.entryNames (Path.child suite part.name)).filter isDocumentName),
      isDocumentName name = true ∧ '/' ∉ name.toList := by
    intro name hname
    obtain ⟨hentry, hdocument⟩ := List.mem_filter.1 (Text.mem_sortedDistinct.1 hname)
    exact ⟨hdocument, hslash name hentry⟩
  obtain ⟨cs, hcs, hparts⟩ := exists_cases_of_names part hdocuments
  exact ⟨cs, hcs, hparts, hslash⟩

namespace ListsPart

variable {suite : String} {part : Part} {cs : List Case} (h : ListsPart w suite part cs)

include h

theorem mem_names_iff {name : String} : name ∈ cs.map Case.name ↔
    name ∈ w.entryNames (Path.child suite part.name) ∧ isDocumentName name = true := by
  rw [h.names, Text.mem_sortedDistinct, List.mem_filter]

/-- Names tell the cases of a part from each other. -/
theorem mem_iff (c : Case) : c ∈ cs ↔ c.part = part ∧ w.HasCase suite c := by
  constructor
  · intro hc
    obtain ⟨rfl, hstem⟩ := h.ofPart c hc
    exact ⟨rfl, hstem, (h.mem_names_iff.1 (List.mem_map_of_mem hc)).1⟩
  · rintro ⟨rfl, hstem, hentry⟩
    have hdocument : isDocumentName c.name = true :=
      (Case.isDocumentName_iff (h.slash_not_mem _ hentry) c.part).2 ⟨c, rfl, hstem, rfl⟩
    obtain ⟨d, hd, hname⟩ := List.mem_map.1 (h.mem_names_iff.2 ⟨hentry, hdocument⟩)
    obtain ⟨hpart, hd'⟩ := h.ofPart d hd
    rwa [← Case.eq_of_name hpart hd' hstem hname]

theorem pairwise_before : cs.Pairwise Case.Before := by
  have hsorted : (cs.map Case.name).Pairwise (· < ·) := by
    rw [h.names]
    exact Text.pairwise_sortedDistinct _
  apply (List.pairwise_map.1 hsorted).imp_of_mem
  intro c d hc hd hlt
  exact .inr ⟨(h.ofPart c hc).1.trans (h.ofPart d hd).1.symm, hlt⟩

theorem run_partTests :
    (partTests (partTest options part) (Path.child suite part.name)).run w =
      (cs.map (testOf w options suite), w) := by
  rw [partTests, StateT.run_bind, run_documentNames, ← h.names]
  change ((cs.map Case.name).mapM
    (partTest options part (Path.child suite part.name))).run w = _
  rw [List.mapM_map]
  apply run_mapM
  intro c hc
  obtain ⟨rfl, -⟩ := h.ofPart c hc
  exact run_partTest suite c

end ListsPart

/-- The cases of a suite are tested part after part. -/
theorem run_tests {suite : String} {ps ns : List Case} (hp : ListsPart w suite .positive ps)
    (hn : ListsPart w suite .negative ns) :
    (tests options suite : StateM Workspace _).run w =
      ((ps ++ ns).map (testOf w options suite), w) := by
  have hpositive : (partTests (positiveTest options) (Path.child suite "positive") :
      StateM Workspace _).run w = (ps.map (testOf w options suite), w) := hp.run_partTests
  have hnegative : (partTests (negativeTest options) (Path.child suite "negative") :
      StateM Workspace _).run w = (ns.map (testOf w options suite), w) := hn.run_partTests
  rw [tests, StateT.run_bind, hpositive]
  change (partTests (negativeTest options) (Path.child suite "negative") >>= fun ts =>
    pure (ps.map (testOf w options suite) ++ ts) : StateM Workspace (List Tap.Test)).run w = _
  rw [StateT.run_bind, hnegative, List.map_append]
  rfl

theorem exists_casesOfSuite (options : Options) {suite : String}
    (hslash : ∀ part : Part, ∀ name ∈ w.entryNames (Path.child suite part.name),
      '/' ∉ name.toList) :
    ∃ cs : List Case, cs.Pairwise Case.Before ∧ (∀ c, c ∈ cs ↔ w.HasCase suite c) ∧
      (tests options suite : StateM Workspace _).run w =
        (cs.map (testOf w options suite), w) := by
  obtain ⟨ps, hp⟩ := exists_listsPart (hslash .positive)
  obtain ⟨ns, hn⟩ := exists_listsPart (hslash .negative)
  refine ⟨ps ++ ns, ?_, ?_, run_tests hp hn⟩
  · apply List.pairwise_append.2 ⟨hp.pairwise_before, hn.pairwise_before, _⟩
    intro c hc d hd
    exact .inl ⟨(hp.ofPart c hc).1, (hn.ofPart d hd).1⟩
  · intro c
    rw [List.mem_append, hp.mem_iff, hn.mem_iff]
    cases c.part <;> simp

/-! ## Verdicts and reports -/

/-- The cases of a suite in order, which of them pass, and the comments on those that do not. -/
structure Assessment where
  cases : List Case
  passed : Case → Bool
  comments : Case → List String

namespace Assessment

variable (a : Assessment)

/-- The lines on the case of a number. Quiet reports are silent on a case that passed. -/
def caseLines (quiet : Bool) (number : Nat) (c : Case) : List String :=
  if a.passed c then if quiet then [] else [s!"ok {number} - {c.label}"]
  else s!"not ok {number} - {c.label}" :: a.comments c

def failures : Nat := a.cases.countP fun c => !a.passed c

/-- The lines on all cases, the number of cases, and the number of failures if there are any. -/
def report (quiet : Bool) : List String :=
  (a.cases.zipIdx 1).flatMap (fun (c, number) => a.caseLines quiet number c) ++
    s!"1..{a.cases.length}" ::
      if a.failures = 0 then [] else [s!"# {a.failures} of {a.cases.length} failed"]

end Assessment

/-- The assessment is that of a suite: it lists each case once, positive cases before negative ones
and each part in order, it holds that a case passes if it does and is not misread, and comments
start with two blanks and a number sign. -/
structure Assesses (w : Workspace) (options : Options) (suite : String) (a : Assessment) : Prop where
  inOrder : a.cases.Pairwise Case.Before
  mem_cases : ∀ c, c ∈ a.cases ↔ w.HasCase suite c
  passed_iff : ∀ c ∈ a.cases, a.passed c = true ↔ w.Passes options suite c ∧ ¬ c.IsMisread
  comments : ∀ c, ∀ line ∈ a.comments c, "  # ".toList <+: line.toList

variable (w options)

/-- What a run finds out about cases. -/
def assess (suite : String) (cs : List Case) : Assessment where
  cases := cs
  passed c := (w.failure options suite c).isNone
  comments c := (w.failure options suite c).elim [] Tap.reasonLines

variable {w options} {suite : String} {cs : List Case}

theorem passed_assess (c : Case) :
    (assess w options suite cs).passed c = (w.failure options suite c).isNone := rfl

theorem comments_assess (c : Case) : (assess w options suite cs).comments c =
    (w.failure options suite c).elim [] Tap.reasonLines := rfl

theorem assesses_assess (horder : cs.Pairwise Case.Before)
    (hmem : ∀ c, c ∈ cs ↔ w.HasCase suite c) :
    Assesses w options suite (assess w options suite cs) where
  inOrder := horder
  mem_cases := hmem
  passed_iff c hc := by
    rw [passed_assess, Option.isNone_iff_eq_none]
    exact Workspace.failure_eq_none_iff ((hmem c).1 hc).1
  comments c line hline := by
    rw [comments_assess] at hline
    cases hfailure : w.failure options suite c with
    | none =>
      rw [hfailure] at hline
      cases hline
    | some reason =>
      rw [hfailure] at hline
      exact (Tap.comment_of_mem_reasonLines hline).1

/-- The lines of a test are those on its case. -/
theorem testLines_testOf (quiet : Bool) (number : Nat) (c : Case) :
    Tap.testLines quiet number (testOf w options suite c) =
      (assess w options suite cs).caseLines quiet number c := by
  rw [Assessment.caseLines, passed_assess, comments_assess, testOf]
  cases w.failure options suite c <;> rfl

theorem failures_map_testOf : Tap.failures (cs.map (testOf w options suite)) =
    (assess w options suite cs).failures := by
  unfold Tap.failures Assessment.failures
  rw [List.countP_map]
  apply List.countP_congr
  intro c _
  simp [testOf, passed_assess, Tap.Test.failed]

theorem report_map_testOf (quiet : Bool) :
    Tap.report quiet (cs.map (testOf w options suite)) =
      (assess w options suite cs).report quiet := by
  have hcase : (fun p : Case × Nat => Tap.testLines quiet p.2 (testOf w options suite p.1)) =
      fun p => (assess w options suite cs).caseLines quiet p.2 p.1 :=
    funext fun p => testLines_testOf quiet p.2 p.1
  have hlines : Tap.linesFrom quiet 1 (cs.map (testOf w options suite)) =
      (cs.zipIdx 1).flatMap fun (c, number) =>
        (assess w options suite cs).caseLines quiet number c := by
    rw [Tap.linesFrom_eq_flatMap, List.zipIdx_map, List.flatMap_map]
    exact congrArg (cs.zipIdx 1).flatMap hcase
  have hplan : Tap.planLines (cs.map (testOf w options suite)) =
      s!"1..{cs.length}" :: if (assess w options suite cs).failures = 0 then []
        else [s!"# {(assess w options suite cs).failures} of {cs.length} failed"] := by
    rw [Tap.planLines, failures_map_testOf, List.length_map]
    simp only [Nat.pos_iff_ne_zero, ite_not]
  rw [Tap.report, hlines, hplan]
  rfl

/-- A run on a suite that is there gives the assessment of its cases. -/
theorem exec_test {there : FileTree} (hsuite : w.find suite = .ok there)
    (moment : Moment) (form : OutputForm) (quiet : Bool) (sourceId : Option String)
    (hrun : (tests (runOptions moment none) suite : StateM Workspace _).run w =
      (cs.map (testOf w (runOptions moment none) suite), w)) :
    exec moment ⟨.test suite, form, quiet, sourceId⟩ w =
      (⟨if (assess w (runOptions moment none) suite cs).failures = 0 then 0 else 1,
        (assess w (runOptions moment none) suite cs).report quiet, []⟩, w) := by
  have htest : exec moment ⟨.test suite, form, quiet, sourceId⟩ w =
      (test (runOptions moment none) quiet suite : StateM Workspace Outcome).run w := rfl
  rw [htest, test, StateT.run_bind, run_isPresent, hsuite]
  change (tests (runOptions moment none) suite >>= fun ts =>
    pure ⟨if 0 < Tap.failures ts then 1 else 0, Tap.report quiet ts, []⟩ :
      StateM Workspace Outcome).run w = _
  rw [StateT.run_bind, hrun]
  change ((⟨_, _, _⟩, w) : Outcome × Workspace) = _
  rw [failures_map_testOf, report_map_testOf]
  simp only [Nat.pos_iff_ne_zero, ite_not]

theorem Assesses.failures_eq_zero_iff {a : Assessment} (h : Assesses w options suite a) :
    a.failures = 0 ↔ ∀ c, w.HasCase suite c → w.Passes options suite c ∧ ¬ c.IsMisread := by
  rw [Assessment.failures, List.countP_eq_zero]
  constructor
  · intro hpassed c hc
    have hmem := (h.mem_cases c).2 hc
    exact (h.passed_iff c hmem).1 (by simpa using hpassed c hmem)
  · intro hpasses c hmem
    simpa using (h.passed_iff c hmem).2 (hpasses c ((h.mem_cases c).1 hmem))

/-- A run on a suite tests all its cases in order under the numbers from 1 on, and leaves the files
as they are. It ends with 0 if every case passes and none is misread, and with 1 if not. A quiet
report is the full one without the lines on cases that passed. A slash cannot stand in the name of a
file, and without line feeds in names each line of a report is printed as one line. -/
theorem test_assesses {there : FileTree} (hsuite : w.find suite = .ok there)
    (hnames : ∀ part : Part, ∀ name ∈ w.entryNames (Path.child suite part.name),
      '/' ∉ name.toList ∧ '\n' ∉ name.toList)
    (moment : Moment) (form : OutputForm) (sourceId : Option String) :
    ∃ a, Assesses w (runOptions moment none) suite a ∧
      (∀ quiet,
        (exec moment ⟨.test suite, form, quiet, sourceId⟩ w).2 = w ∧
        (exec moment ⟨.test suite, form, quiet, sourceId⟩ w).1.err = [] ∧
        (exec moment ⟨.test suite, form, quiet, sourceId⟩ w).1.out = a.report quiet ∧
        ((exec moment ⟨.test suite, form, quiet, sourceId⟩ w).1.status = 0 ∨
          (exec moment ⟨.test suite, form, quiet, sourceId⟩ w).1.status = 1) ∧
        ((exec moment ⟨.test suite, form, quiet, sourceId⟩ w).1.status = 0 ↔
          ∀ c, w.HasCase suite c →
            w.Passes (runOptions moment none) suite c ∧ ¬ c.IsMisread)) ∧
      (∀ quiet, ∀ line ∈ a.report quiet, '\n' ∉ line.toList) ∧
      a.report true = (a.report false).filter fun line => ¬ "ok ".toList <+: line.toList := by
  obtain ⟨cs, horder, hmem, hrun⟩ :=
    exists_casesOfSuite (runOptions moment none) fun part name hname => (hnames part name hname).1
  have hassesses : Assesses w (runOptions moment none) suite _ := assesses_assess horder hmem
  have hexec := fun quiet => exec_test hsuite moment form quiet sourceId hrun
  refine ⟨assess w (runOptions moment none) suite cs, hassesses, ?_, ?_, ?_⟩
  · intro quiet
    rw [hexec quiet, ← hassesses.failures_eq_zero_iff]
    refine ⟨rfl, rfl, rfl, ?_, ?_⟩
    · dsimp only
      split_ifs <;> simp
    · simp
  · intro quiet line hline
    rw [← report_map_testOf] at hline
    apply Tap.break_not_mem_report _ _ hline
    intro t ht
    obtain ⟨c, hc, rfl⟩ := List.mem_map.1 ht
    have hentry := ((hmem c).1 hc).2
    exact Case.break_not_mem_label (hnames c.part c.name hentry).2
  · rw [← report_map_testOf, ← report_map_testOf]
    exact Tap.report_quiet _

namespace Sample

/-- A suite of one negative document without declarations, and the file that lists its code. -/
def suiteOf (stem : String) : Workspace where
  root := .directory [("s", .directory [("negative", .directory
    [(stem ++ ".yaml", .file "# no declarations\n".toUTF8),
      (stem ++ ".expected", .file "EmptyDocument\n".toUTF8)])])]
  directory := []

theorem find_suiteOf (stem : String) : ∃ there, (suiteOf stem).find "s" = .ok there :=
  ⟨_, rfl⟩

theorem hasNames_suiteOf {stem : String} (h : stem ∈ [".", "blank"]) (part : Part) :
    ∀ name ∈ (suiteOf stem).entryNames (Path.child "s" part.name),
      '/' ∉ name.toList ∧ '\n' ∉ name.toList := by
  simp only [List.mem_cons, List.not_mem_nil, or_false] at h
  rcases h with rfl | rfl <;> cases part <;> decide +kernel

theorem eq_of_hasCase_suiteOf {stem : String} (h : stem ∈ [".", "blank"]) {c : Case}
    (hcase : (suiteOf stem).HasCase "s" c) : c = ⟨.negative, stem, .yaml⟩ := by
  have hpositive : (suiteOf stem).entryNames (Path.child "s" "positive") = [] := rfl
  have hnegative : (suiteOf stem).entryNames (Path.child "s" "negative") =
      [stem ++ ".yaml", stem ++ ".expected"] := rfl
  have hstem : stem ≠ "" := by
    rintro rfl
    exact absurd h (by decide)
  have hlisting : isDocumentName (stem ++ ".expected") = false := by
    simp only [List.mem_cons, List.not_mem_nil, or_false] at h
    rcases h with rfl | rfl <;> decide +kernel
  obtain ⟨part, stem', ending⟩ := c
  obtain ⟨hstem', hentry⟩ := hcase
  cases part with
  | positive => exact absurd (hpositive ▸ hentry) List.not_mem_nil
  | negative =>
    have hslash := (hasNames_suiteOf h .negative _ hentry).1
    have hdocument := (Case.isDocumentName_iff hslash .negative).2 ⟨_, rfl, hstem', rfl⟩
    rcases List.mem_cons.1 (hnegative ▸ hentry) with hname | hname
    · have hyaml : stem ++ ".yaml" = Case.name ⟨.negative, stem, .yaml⟩ := by
        simp [← String.toList_inj, Case.toList_name, Ending.text]
      exact Case.eq_of_name rfl hstem' hstem (hname.trans hyaml)
    · rw [List.mem_singleton.1 hname, hlisting] at hdocument
      cases hdocument

/-- The document gives the code that the file beside it lists. -/
theorem passes_suiteOf {stem : String} (h : stem ∈ [".", "blank"]) :
    (suiteOf stem).Passes (runOptions moment none) "s" ⟨.negative, stem, .yaml⟩ := by
  have hblank : isBlankText "# no declarations\n" = true := by decide +kernel
  have hcodes (source : String) : (Model.ofText (runOptions moment none) source .yaml
      "# no declarations\n").diagnostics.map (fun d => d.code.name) = ["EmptyDocument"] := by
    rw [Model.ofText, if_pos hblank]
    rfl
  have herror (source : String) : (Model.ofText (runOptions moment none) source .yaml
      "# no declarations\n").HasError := by
    rw [Model.ofText, if_pos hblank]
    exact ⟨_, List.mem_cons_self, rfl⟩
  have hlisted : listedCodes "EmptyDocument\n" = ["EmptyDocument"] := by decide +kernel
  simp only [List.mem_cons, List.not_mem_nil, or_false] at h
  rcases h with rfl | rfl
  · exact ⟨_, _, ⟨_, rfl, fromUTF8_toUTF8 "EmptyDocument\n"⟩,
      ⟨.yaml, _, _, by decide +kernel, rfl, fromUTF8_toUTF8 "# no declarations\n", rfl⟩,
      herror _, (hcodes _).trans hlisted.symm⟩
  · exact ⟨_, _, ⟨_, rfl, fromUTF8_toUTF8 "EmptyDocument\n"⟩,
      ⟨.yaml, _, _, by decide +kernel, rfl, fromUTF8_toUTF8 "# no declarations\n", rfl⟩,
      herror _, (hcodes _).trans hlisted.symm⟩

end Sample

/-- A suite whose document gives the code listed for it passes. -/
theorem blank_passes :
    (∃ there, (Sample.suiteOf "blank").find "s" = .ok there) ∧
    (∀ part : Part, ∀ name ∈ (Sample.suiteOf "blank").entryNames (Path.child "s" part.name),
      '/' ∉ name.toList ∧ '\n' ∉ name.toList) ∧
    ∀ quiet, (exec Sample.moment ⟨.test "s", .text, quiet, none⟩
      (Sample.suiteOf "blank")).1.status = 0 := by
  have hblank : "blank" ∈ [".", "blank"] := by decide
  have hnames := Sample.hasNames_suiteOf hblank
  obtain ⟨there, hsuite⟩ := Sample.find_suiteOf "blank"
  obtain ⟨a, -, hrun, -⟩ := test_assesses hsuite hnames Sample.moment .text none
  refine ⟨⟨there, hsuite⟩, hnames, ?_⟩
  intro quiet
  apply (hrun quiet).2.2.2.2.2
  intro c hc
  obtain rfl := Sample.eq_of_hasCase_suiteOf hblank hc
  exact ⟨Sample.passes_suiteOf hblank, by decide⟩

/-- The same document under the name `..yaml` fails, although the file `..expected` beside it lists
its code. -/
theorem misread_fails :
    ¬ ∀ (w : Workspace) (suite : String) (there : FileTree), w.find suite = .ok there →
      (∀ part : Part, ∀ name ∈ w.entryNames (Path.child suite part.name),
        '/' ∉ name.toList ∧ '\n' ∉ name.toList) →
      ∀ moment form quiet sourceId,
        (exec moment ⟨.test suite, form, quiet, sourceId⟩ w).1.status = 0 ↔
          ∀ c, w.HasCase suite c → w.Passes (runOptions moment none) suite c := by
  intro hall
  have hdot : "." ∈ [".", "blank"] := by decide
  have hstatus : (exec Sample.moment ⟨.test "s", .text, false, none⟩
      (Sample.suiteOf ".")).1.status = 1 := by
    decide +kernel
  obtain ⟨there, hsuite⟩ := Sample.find_suiteOf "."
  have hverdict := hall _ "s" there hsuite (Sample.hasNames_suiteOf hdot) Sample.moment .text false
    none
  have hpasses : ∀ c, (Sample.suiteOf ".").HasCase "s" c →
      (Sample.suiteOf ".").Passes (runOptions Sample.moment none) "s" c := by
    intro c hc
    obtain rfl := Sample.eq_of_hasCase_suiteOf hdot hc
    exact Sample.passes_suiteOf hdot
  rw [hverdict.2 hpasses] at hstatus
  cases hstatus

end Command

end DependencyWiring
