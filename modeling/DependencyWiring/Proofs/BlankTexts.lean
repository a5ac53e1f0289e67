import DependencyWiring.Proofs.AcceptedDocuments
import DependencyWiring.Proofs.InterfaceLiterals
import DependencyWiring.Proofs.KeptDeclarations
import Mathlib

/-!
# Blank texts

A text of blank lines and comments is refused before it is parsed. What a line is, and what a blank
is, is decided there by the rules of plain texts, which are not those of the formats. JSON finds
nothing in such a text. YAML finds nothing in it either as long as the text has no lines and blanks
but those that both rules know; a carriage return on its own, though, ends a comment of YAML, and
what follows it may declare a whole document.
-/
namespace DependencyWiring

/-! ## Lines of blank texts -/

namespace Text

/-- Every line is blank or a comment. -/
def DeclaresNothing (cs : List Char) : Prop :=
  ∀ line ∈ trimmedLines cs, line = [] ∨ line.head? = some '#'

/-- The blanks of the text are spaces, tabs, line feeds, and carriage returns before line feeds. -/
def HasPlainBlanks : List Char → Prop
  | [] => True
  | c :: cs =>
    (isBlank c = true → c = ' ' ∨ c = '\t' ∨ c = '\n' ∨ (c = '\r' ∧ cs.head? = some '\n')) ∧
      HasPlainBlanks cs

instance decidableHasPlainBlanks : DecidablePred HasPlainBlanks
  | [] => inferInstanceAs (Decidable True)
  | _ :: cs =>
    have := decidableHasPlainBlanks cs
    inferInstanceAs (Decidable (_ ∧ _))

theorem HasPlainBlanks.tail {c : Char} {cs : List Char} (h : HasPlainBlanks (c :: cs)) :
    HasPlainBlanks cs := h.2

theorem HasPlainBlanks.append_right {as bs : List Char} (h : HasPlainBlanks (as ++ bs)) :
    HasPlainBlanks bs := by
  induction as with
  | nil => exact h
  | cons a as ih => exact ih h.2

theorem isBlankText_iff {text : String} :
    isBlankText text = true ↔ DeclaresNothing text.toList := by
  simp only [isBlankText, DeclaresNothing, List.all_eq_true]
  refine forall₂_congr fun line _ => ?_
  cases line <;> simp

theorem trimmedLines_append_cons (line rest : List Char) :
    trimmedLines (line ++ '\n' :: rest) = trimmedLines line ++ trimmedLines rest := by
  rw [trimmedLines, pieces_append, List.map_append]
  rfl

/-- What follows a line declares nothing if the text does. -/
theorem DeclaresNothing.append_right (line : List Char) {rest : List Char}
    (h : DeclaresNothing (line ++ '\n' :: rest)) : DeclaresNothing rest := by
  intro l hl
  rw [DeclaresNothing, trimmedLines_append_cons] at h
  exact h l (List.mem_append_right _ hl)

theorem trimChars_cons_of_isBlank {c : Char} (hc : isBlank c = true) (cs : List Char) :
    trimChars (c :: cs) = trimChars cs := by
  rw [trimChars, List.dropWhile_cons_of_pos hc, trimChars]

/-- A line is trimmed up to its first visible character. -/
theorem head_trimChars_cons {c : Char} (hc : isBlank c = false) (cs : List Char) :
    (trimChars (c :: cs)).head? = some c := by
  obtain ⟨ds, hds⟩ := exists_dropBlankEnd_cons hc cs
  rw [trimChars, List.dropWhile_cons_of_neg (by simp [hc]), hds, List.head?_cons]

/-- A blank in front of a text declares nothing. -/
theorem declaresNothing_cons_of_isBlank {c : Char} {cs : List Char} (hc : isBlank c = true) :
    DeclaresNothing (c :: cs) ↔ DeclaresNothing cs := by
  by_cases hbreak : c = '\n'
  · subst hbreak
    have hlines : trimmedLines ('\n' :: cs) = [] :: trimmedLines cs := by
      rw [trimmedLines, pieces_sep_cons, List.map_cons]
      rfl
    simp [DeclaresNothing, hlines]
  · obtain ⟨piece, rest, hcs, hccs⟩ := pieces_cons_of_ne hbreak cs
    simp only [DeclaresNothing, trimmedLines, hcs, hccs, List.map_cons,
      trimChars_cons_of_isBlank hc]

/-- The first visible character of a line starts a comment. -/
theorem DeclaresNothing.eq_of_not_isBlank {c : Char} {cs : List Char}
    (h : DeclaresNothing (c :: cs)) (hc : isBlank c = false) : c = '#' := by
  have hbreak : c ≠ '\n' := fun h => by simp [h, isBlank] at hc
  obtain ⟨piece, rest, -, hccs⟩ := pieces_cons_of_ne hbreak cs
  have hhead := head_trimChars_cons hc piece
  rcases h (trimChars (c :: piece)) (by simp [trimmedLines, hccs]) with hnil | hcomment
  · simp [hnil] at hhead
  · exact Option.some.inj (hhead.symm.trans hcomment)

end Text

/-! ## YAML -/

namespace Yaml

open Text (DeclaresNothing HasPlainBlanks)

/-- Nothing but blanks and comments is left of the text, up to its end mark. -/
def IsIdle (cs : List Char) : Prop :=
  isEnd (cs.headD endMark) = true ∨ DeclaresNothing cs ∧ HasPlainBlanks cs

/-- What follows a comment is idle if the text with the comment is. -/
theorem isIdle_dropWhile {cs : List Char} (h : DeclaresNothing cs) (hp : HasPlainBlanks cs) :
    IsIdle (cs.dropWhile fun x => !isBreakOrEnd x) := by
  have hsplit := List.takeWhile_append_dropWhile (p := fun x => !isBreakOrEnd x) (l := cs)
  match hrest : cs.dropWhile fun x => !isBreakOrEnd x with
  | [] => exact .inl rfl
  | c :: rest =>
    have hc : isBreakOrEnd c = true := by
      have := List.head?_dropWhile_not (fun x => !isBreakOrEnd x) cs
      simpa [hrest] using this
    rw [hrest] at hsplit
    rw [← hsplit] at h hp
    have hplain := hp.append_right
    simp only [isBreakOrEnd, isBreak, isEnd, Bool.or_eq_true, decide_eq_true_eq] at hc
    obtain (rfl | rfl) | rfl := hc
    · refine .inr ⟨?_, hplain⟩
      exact (Text.declaresNothing_cons_of_isBlank rfl).2 (.append_right _ h)
    · obtain ⟨rest, rfl⟩ : ∃ after, rest = '\n' :: after := by
        simpa [HasPlainBlanks, Text.isBlank, List.head?_eq_some_iff] using hplain.1
      refine .inr ⟨?_, hplain⟩
      rw [Text.declaresNothing_cons_of_isBlank rfl, Text.declaresNothing_cons_of_isBlank rfl]
      refine .append_right ((cs.takeWhile fun x => !isBreakOrEnd x) ++ ['\r']) ?_
      simpa using h
    · exact .inl rfl

theorem Cursor.rest_takeComment (c : Cursor) :
    c.takeComment.rest = c.rest.dropWhile fun x => !isBreakOrEnd x := by
  let isContent (x : Char) := !isBreakOrEnd x
  calc c.takeComment.rest
      = (c.rest.takeWhile isContent ++ c.rest.dropWhile isContent).drop
          (c.rest.takeWhile isContent).length := by
        rw [List.takeWhile_append_dropWhile]
        rfl
    _ = c.rest.dropWhile isContent := List.drop_left

namespace Lex

theorem run_moveTo (c : Cursor) (s : Lexer) :
    (moveTo c).run s = .ok ((), { s with cursor := c }) := rfl

theorem run_takeBetween_end {steps : Nat} {s : Lexer} (h : isEnd s.cursor.char = true) :
    (takeBetween steps).run s = .ok ((), s) := by
  have hchar : s.cursor.char = endMark := by simpa [isEnd] using h
  cases steps with
  | zero => rfl
  | succ steps =>
    simp only [takeBetween, StateT.run_bind, StateT.run_get, pure_bind, hchar, endMark,
      Yaml.isBlank, isBreak]
    rfl

variable (steps : Nat) {s : Lexer}

theorem run_takeBetween_blank (hi : s.indents = []) (h : Yaml.isBlank s.cursor.char = true) :
    (takeBetween (steps + 1)).run s =
      (takeBetween steps).run { s with cursor := s.cursor.advance 1 } := by
  have hblock : (s.indents ≠ []) = False := by simp [hi]
  simp only [takeBetween, StateT.run_bind, StateT.run_get, pure_bind, hblock, h, run_moveTo,
    decide_false, Bool.and_false, Bool.false_and, Bool.false_eq_true, ↓reduceIte]
  rfl

theorem run_takeBetween_break (hi : s.indents = []) (h : isBreak s.cursor.char = true) :
    ∃ allowed, (takeBetween (steps + 1)).run s = (takeBetween steps).run
      { s with cursor := s.cursor.takeBreak, keyAllowed := allowed } := by
  have hblock : (s.indents ≠ []) = False := by simp [hi]
  have hblank : Yaml.isBlank s.cursor.char = false := by
    simp only [isBreak, Yaml.isBlank, Bool.or_eq_true, decide_eq_true_eq] at h ⊢
    rcases h with h | h <;> simp [h]
  refine ⟨if !s.inFlow then true else s.keyAllowed, ?_⟩
  simp only [takeBetween, StateT.run_bind, StateT.run_get, pure_bind, hblock, h, hblank, run_moveTo,
    decide_false, Bool.and_false, Bool.false_and, Bool.false_eq_true, ↓reduceIte]
  cases s.inFlow <;> rfl

theorem run_takeBetween_comment (h : s.cursor.char = '#') :
    (takeBetween (steps + 1)).run s =
      (takeBetween steps).run { s with cursor := s.cursor.takeComment } := by
  simp only [takeBetween, StateT.run_bind, StateT.run_get, pure_bind, h, Yaml.isBlank, isBreak]
  rfl

/-- One step over an idle text leaves a shorter idle text, and changes nothing else that matters. -/
theorem run_takeBetween_step (hi : s.indents = []) (h : IsIdle s.cursor.rest)
    (hend : isEnd s.cursor.char = false) :
    ∃ c allowed, c.rest.length < s.cursor.rest.length ∧ IsIdle c.rest ∧
      (takeBetween (steps + 1)).run s =
        (takeBetween steps).run { s with cursor := c, keyAllowed := allowed } := by
  obtain hend' | ⟨hd, hp⟩ := h
  · simp [Cursor.char, -List.headD_eq_head?_getD, hend'] at hend
  match hrest : s.cursor.rest with
  | [] => simp [Cursor.char, hrest, isEnd] at hend
  | x :: rest =>
    have hx : s.cursor.char = x := by simp [Cursor.char, hrest]
    rw [hrest] at hd hp
    cases hblank : Text.isBlank x with
    | true =>
      rw [Text.declaresNothing_cons_of_isBlank hblank] at hd
      obtain hinline | rfl | ⟨rfl, hfeed⟩ :
          Yaml.isBlank x = true ∨ x = '\n' ∨ x = '\r' ∧ rest.head? = some '\n' := by
        simpa [Yaml.isBlank, or_assoc] using hp.1 hblank
      · have hnext : (s.cursor.advance 1).rest = rest := by simp [Cursor.advance, hrest]
        refine ⟨_, s.keyAllowed, by simp [hnext], ?_, run_takeBetween_blank _ hi (hx ▸ hinline)⟩
        exact hnext ▸ .inr ⟨hd, hp.tail⟩
      · obtain ⟨allowed, hrun⟩ := run_takeBetween_break steps hi (hx ▸ rfl)
        have hnext : s.cursor.takeBreak.rest = rest := by
          simp [Cursor.takeBreak, hx, isBreak, Cursor.look, Cursor.advance, hrest]
        exact ⟨_, allowed, by simp [hnext], hnext ▸ .inr ⟨hd, hp.tail⟩, hrun⟩
      · obtain ⟨after, rfl⟩ := List.head?_eq_some_iff.1 hfeed
        obtain ⟨allowed, hrun⟩ := run_takeBetween_break steps hi (hx ▸ rfl)
        have hnext : s.cursor.takeBreak.rest = after := by
          simp [Cursor.takeBreak, hx, isBreak, Cursor.look, Cursor.advance, Cursor.ahead, hrest]
        rw [Text.declaresNothing_cons_of_isBlank rfl] at hd
        have hlt : after.length < ('\r' :: '\n' :: after).length := by
          simp only [List.length_cons]
          omega
        exact ⟨_, allowed, by rwa [hnext], hnext ▸ .inr ⟨hd, hp.tail.tail⟩, hrun⟩
    | false =>
      obtain rfl := hd.eq_of_not_isBlank hblank
      have hnext : s.cursor.takeComment.rest = s.cursor.rest.dropWhile fun y => !isBreakOrEnd y :=
        s.cursor.rest_takeComment
      refine ⟨_, s.keyAllowed, ?_, ?_, run_takeBetween_comment _ hx⟩
      · have hlt : (rest.dropWhile fun y => !isBreakOrEnd y).length ≤ rest.length :=
          (List.dropWhile_suffix _).length_le
        rw [hnext, hrest, List.dropWhile_cons_of_pos (by decide)]
        exact Nat.lt_succ_of_le hlt
      · rw [hnext, hrest]
        exact isIdle_dropWhile hd hp

/-- The lexer passes over an idle text up to its end. -/
theorem run_takeBetween (hi : s.indents = []) (h : IsIdle s.cursor.rest)
    (hsteps : s.cursor.rest.length < steps) :
    ∃ c allowed, isEnd c.char = true ∧
      (takeBetween steps).run s = .ok ((), { s with cursor := c, keyAllowed := allowed }) := by
  induction steps generalizing s with
  | zero => omega
  | succ steps ih =>
    cases hend : isEnd s.cursor.char with
    | true => exact ⟨s.cursor, s.keyAllowed, hend, run_takeBetween_end hend⟩
    | false =>
      obtain ⟨c, allowed, hlt, hidle, hrun⟩ := run_takeBetween_step steps hi h hend
      obtain ⟨c', allowed', hend', hrun'⟩ :=
        ih (s := { s with cursor := c, keyAllowed := allowed }) hi hidle (by simp; omega)
      exact ⟨c', allowed', hend', hrun.trans hrun'⟩

/-- The lexer behind the mark of the start of a text, before any other token. -/
def opened (c : Cursor) (allowed : Bool) : Lexer :=
  { Lexer.start [] with
    cursor := c, handedOut := 1, started := true, keyAllowed := allowed, candidates := [.none] }

theorem run_streamEnd (c : Cursor) (allowed : Bool) :
    ∃ mark s, streamEnd.run (opened c allowed) = .ok ((), s) ∧
      s.pending = [⟨mark, .streamEnd⟩] ∧ s.candidates = [.none] := by
  obtain ⟨rest, ⟨index, line, column⟩, fresh, left, window⟩ := c
  cases column <;> exact ⟨_, _, rfl, rfl, rfl⟩

/-- The only token that is left in an idle text is the mark of its end. -/
theorem run_step_end {c : Cursor} (hleft : c.left = c.rest.length) (h : IsIdle c.rest) :
    ∃ mark s, step.run (opened c true) = .ok ((), s) ∧
      s.pending = [⟨mark, .streamEnd⟩] ∧ s.candidates = [.none] := by
  obtain ⟨next, allowed, hend, hrun⟩ :=
    run_takeBetween (s := opened c true) c.bound rfl h
      (by simp [opened, Cursor.bound, hleft])
  have hskip : skipToToken.run (opened c true) = .ok ((), opened next allowed) := hrun
  obtain ⟨mark, s, hs, hpending, hcandidates⟩ := run_streamEnd (next.look 4) allowed
  refine ⟨mark, s, ?_, hpending, hcandidates⟩
  have hopened : (opened c true).started = true := rfl
  have hlook : isEnd (opened (next.look 4) allowed).cursor.char = true := hend
  simp only [step, StateT.run_bind, StateT.run_get, pure_bind, hopened, Bool.not_true,
    Bool.false_eq_true, ↓reduceIte, hskip]
  show StateT.run (if isEnd (opened (next.look 4) allowed).cursor.char = true then streamEnd else _)
    (opened (next.look 4) allowed) = _
  rw [if_pos hlook, hs]

/-- The lexer at the start of a text, when its mark has not been handed out. -/
def opening (c : Cursor) : Lexer :=
  { opened c true with pending := [⟨⟨0, 0, 0⟩, .streamStart⟩], handedOut := 0 }

theorem run_step_start (cs : List Char) :
    step.run (.start cs) = .ok ((), opening (.start cs)) := rfl

end Lex

/-- An idle text has no tokens but the marks of its start and of its end. -/
theorem TokenStream.ofText_of_isIdle {cs : List Char} (h : IsIdle cs) :
    ∃ first last, ofText cs = ⟨[⟨first, .streamStart⟩, ⟨last, .streamEnd⟩], none⟩ := by
  obtain ⟨mark, s, hstep, hpending, hcandidates⟩ := Lex.run_step_end (c := .start cs) rfl h
  have hlast (steps : Nat) : run (steps + 1) s = ⟨[⟨mark, .streamEnd⟩], none⟩ := by
    obtain ⟨s', hstale, hgivenUp⟩ : ∃ s', s.dropStale = .ok s' ∧ s'.candidates = [.none] := by
      simp [Lexer.dropStale, hcandidates, KeyCandidate.none, Lexer.isStale]
    have hawaits : s'.awaitsColon = false := by
      simp [Lexer.awaitsColon, hgivenUp, KeyCandidate.none]
    simp [run, hpending, hstale, hawaits]
  have hsecond (steps : Nat) :
      run (steps + 2) (Lex.opened (.start cs) true) = ⟨[⟨mark, .streamEnd⟩], none⟩ := by
    rw [run, show (Lex.opened (.start cs) true).pending = [] from rfl, run.readOn, hstep]
    exact hlast steps
  have hopening (steps : Nat) : run (steps + 1) (Lex.opening (.start cs)) =
      let later := run steps (Lex.opened (.start cs) true)
      ⟨⟨⟨0, 0, 0⟩, .streamStart⟩ :: later.tokens, later.refusal⟩ := by
    rw [run]
    rfl
  refine ⟨⟨0, 0, 0⟩, mark, ?_⟩
  rw [ofText, run, show (Lexer.start cs).pending = [] from rfl, run.readOn, Lex.run_step_start]
  simp only [hopening, hsecond]

/-- YAML finds no declarations in an idle text. -/
theorem read_of_isIdle {cs : List Char} (h : IsIdle cs) :
    ∃ position, read cs = .ok (.mapping [] position) := by
  obtain ⟨first, last, htokens⟩ := TokenStream.ofText_of_isIdle h
  exact ⟨last.position, by rw [read, htokens]; rfl⟩

end Yaml

/-! ## JSON -/

namespace Json

open Text (DeclaresNothing)

theorem isBlank_of_isSpace {c : Char} (h : isSpace c = true) : Text.isBlank c = true := by
  simp only [isSpace, Bool.or_eq_true, decide_eq_true_eq] at h
  rcases h with ((rfl | rfl) | rfl) | rfl <;> rfl

theorem declaresNothing_skipSpace {cs : List Char} (h : DeclaresNothing cs) :
    DeclaresNothing (skipSpace cs) := by
  induction cs with
  | nil => exact h
  | cons c cs ih =>
    rw [skipSpace]
    by_cases hc : isSpace c = true
    · rw [List.dropWhile_cons_of_pos hc]
      exact ih ((Text.declaresNothing_cons_of_isBlank (isBlank_of_isSpace hc)).1 h)
    · rwa [List.dropWhile_cons_of_neg hc]

/-- The characters that a value may start with. -/
theorem readValue_error {steps depth : Nat} {c : Char} {cs r : List Char}
    (hcs : skipSpace cs = c :: r) (hc : c ∉ ['n', 't', 'f', '-', '"', '[', '\x7b'])
    (hdigit : c.isDigit = false) :
    readValue (steps + 1) depth cs = .error (.ahead1 .expectedValue (c :: r)) := by
  simp only [List.mem_cons, List.not_mem_nil, or_false, not_or] at hc
  obtain ⟨hn, ht, hf, hminus, hquote, hbracket, hbrace⟩ := hc
  unfold readValue
  simp [hcs, hn, ht, hf, hminus, hquote, hbracket, hbrace, hdigit]

theorem isDigit_eq_false_of_isBlank {c : Char} (h : Text.isBlank c = true) :
    c.isDigit = false := by
  rw [Bool.eq_false_iff]
  intro hdigit
  obtain ⟨hlow, hhigh⟩ : 48 ≤ c.toNat ∧ c.toNat ≤ 57 := by
    simpa [Char.isDigit, UInt32.le_iff_toNat_le] using hdigit
  simp only [Text.isBlank, Bool.or_eq_true, Bool.and_eq_true, decide_eq_true_eq, beq_iff_eq] at h
  omega

/-- JSON has no value that starts with a blank or a comment. -/
theorem parse_error_of_declaresNothing {text : String} (h : DeclaresNothing text.toList) :
    ∃ reason, parse text = .error reason := by
  obtain ⟨refusal, hread⟩ : ∃ refusal,
      readValue (2 * text.toList.length + 2) maxDepth text.toList = .error refusal := by
    have hskip := declaresNothing_skipSpace h
    match hcs : skipSpace text.toList with
    | [] => exact ⟨.ahead1 .endInValue [], by unfold readValue; simp [hcs]⟩
    | c :: r =>
      rw [hcs] at hskip
      cases hblank : Text.isBlank c with
      | true =>
        have hletters : (['n', 't', 'f', '-', '"', '[', '\x7b'].any Text.isBlank) = false := by
          decide
        refine ⟨_, readValue_error hcs (fun hc => ?_) (isDigit_eq_false_of_isBlank hblank)⟩
        exact Bool.false_ne_true (hletters.symm.trans (List.any_eq_true.2 ⟨c, hc, hblank⟩))
      | false =>
        obtain rfl := hskip.eq_of_not_isBlank hblank
        exact ⟨_, readValue_error hcs (by decide) (by decide)⟩
  exact ⟨refusal.message text.toList, by simp [parse, read, hread, Except.mapError]⟩

end Json

/-! ## Texts and their trees -/

/-- No format finds an entry in a blank text, as long as its blanks are plain or the format is JSON.
-/
theorem Node.not_isBlankText_of_parse {format : Format} {text : String} {entry : String × Node}
    {entries : List (String × Node)} {position : Position}
    (hparse : Node.parse format text = .ok (.mapping (entry :: entries) position))
    (hplain : format = .json ∨ Text.HasPlainBlanks text.toList) : isBlankText text = false := by
  rw [Bool.eq_false_iff]
  intro hblank
  have hnothing := Text.isBlankText_iff.1 hblank
  cases format with
  | json =>
    obtain ⟨reason, hread⟩ := Json.parse_error_of_declaresNothing hnothing
    simp [Node.parse, hread] at hparse
  | yaml =>
    obtain ⟨place, hread⟩ :=
      Yaml.read_of_isIdle (.inr ⟨hnothing, hplain.resolve_left Format.noConfusion⟩)
    simp [Node.parse, hread] at hparse

namespace Model

/-- A document that is read leaves the mark of building on its model, a refused one does not. -/
theorem refused_ne_ofNode (options : Options) (source : String) (cause : Note)
    (entry : String × Node) (entries : List (String × Node)) (position : Position) :
    refused options source cause ≠
      ofNode options source (.mapping (entry :: entries) position) := by
  intro h
  have hbuilt : (ofNode options source (.mapping (entry :: entries) position)).provenance.later =
      [⟨⟨source, position.line, position.column, LogicalPath.root⟩,
        options.stamp .transform⟩] := rfl
  rw [← h] at hbuilt
  exact List.cons_ne_nil _ _ hbuilt.symm

/-- A text whose tree has entries gives the model of that tree unless the text is blank by the rules
of plain texts. It is not blank if it is JSON or if its blanks are plain. -/
theorem ofText_eq_ofNode_iff {options : Options} {source : String} {format : Format}
    {text : String} {entry : String × Node} {entries : List (String × Node)} {position : Position}
    (hparse : Node.parse format text = .ok (.mapping (entry :: entries) position)) :
    (ofText options source format text =
        ofNode options source (.mapping (entry :: entries) position) ↔
      isBlankText text = false) ∧
    (format = .json ∨ Text.HasPlainBlanks text.toList → isBlankText text = false) := by
  refine ⟨?_, Node.not_isBlankText_of_parse hparse⟩
  cases hblank : isBlankText text with
  | true =>
    have hofText : ofText options source format text =
        refused options source ⟨.emptyDocument, rootOrigin source⟩ := by
      rw [ofText, if_pos hblank]
    simp [hofText, refused_ne_ofNode]
  | false => simp [ofText, hblank, hparse]

end Model

namespace Sample

/-- A setting among comments and blank lines, which end in both ways. -/
def commented : String :=
  "# settings\n\n \t # of App\r\ncodeGen: # here\r\n  registryClassName: Registry\n\n"

def commentedTree : Node :=
  .mapping [("codeGen", .mapping [("registryClassName", .scalar "Registry" ⟨4, some 21⟩)]
    ⟨4, some 19⟩)] ⟨3, some 7⟩

end Sample

namespace Model

/-- The setting is found where the comments and blanks are plain. -/
theorem commented_eq_ofNode_iff :
    Node.parse .yaml Sample.commented = .ok Sample.commentedTree ∧
    Text.HasPlainBlanks Sample.commented.toList ∧ isBlankText Sample.commented = false ∧
    ofText Sample.options "commented" .yaml Sample.commented =
      ofNode Sample.options "commented" Sample.commentedTree := by
  have hparse : Node.parse .yaml Sample.commented = .ok Sample.commentedTree := by
    unfold Sample.commented Sample.commentedTree
    cbv
  have hplain : Text.HasPlainBlanks Sample.commented.toList := by decide +kernel
  obtain ⟨hiff, hshown⟩ := @ofText_eq_ofNode_iff Sample.options "commented" _ _ _ _ _ hparse
  have hdeclares := hshown (.inr hplain)
  exact ⟨hparse, hplain, hdeclares, hiff.mpr hdeclares⟩

end Model

namespace Sample

/-- Settings behind a comment, in lines that end with carriage returns. -/
def returns : String :=
  "# wiring\rcodeGen:\r  registryClassName: Registry\r  generatedCodePath: Generated\r" ++
    "  namespaceName: App.Generated\r  initializerName: Initialize\r"

def returnsTree : Node :=
  let settings : Node := .mapping [("registryClassName", .scalar "Registry" ⟨2, some 21⟩),
    ("generatedCodePath", .scalar "Generated" ⟨3, some 21⟩),
    ("namespaceName", .scalar "App.Generated" ⟨4, some 17⟩),
    ("initializerName", .scalar "Initialize" ⟨5, some 19⟩)] ⟨2, some 19⟩
  .mapping [("codeGen", settings)] ⟨1, some 7⟩

end Sample

namespace Model

/-- With carriage returns alone between its lines, a whole document hides behind the comment at its
start. It is refused as one without declarations, and its tree is accepted. -/
theorem returns_hide_declarations :
    Node.parse .yaml Sample.returns = .ok Sample.returnsTree ∧
    (ofNode Sample.options "returns" Sample.returnsTree).diagnostics = [] ∧
    (ofText Sample.options "returns" .yaml Sample.returns).diagnostics =
      [(⟨.emptyDocument, rootOrigin "returns"⟩ : Note).diagnostic] := by
  refine ⟨?_, by decide +kernel, by decide +kernel⟩
  unfold Sample.returns Sample.returnsTree
  cbv

end Model

end DependencyWiring
