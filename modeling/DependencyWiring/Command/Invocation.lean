/-!
# Command lines

What the words of a command line ask for. Options that hold for every command may stand before the
name of the command and behind it, where they count more; on each side an option may stand once.
-/
namespace DependencyWiring.Command

/-- The form of answers. -/
inductive OutputForm where
  | text
  | json
  deriving DecidableEq, Repr, Inhabited

/-- The commands with the paths they are given. -/
inductive Task where
  | check (document : String)
  | compile (document : String) (out : Option String)
  | validate (model : String)
  | test (suite : String)
  | codes
  | version
  deriving DecidableEq, Repr, Inhabited

structure Invocation where
  task : Task
  form : OutputForm
  quiet : Bool
  sourceId : Option String
  deriving DecidableEq, Repr, Inhabited

namespace Invocation

/-- The options on one side of the name of the command. -/
structure Flags where
  form : Option OutputForm
  quiet : Bool
  sourceId : Option String
  out : Option String
  deriving DecidableEq, Repr, Inhabited

def Flags.none : Flags := ⟨.none, false, .none, .none⟩

/-- The options on one side, and the other words there. -/
structure Side where
  flags : Flags
  words : List String
  deriving DecidableEq, Repr, Inhabited

def formOf : String → Option OutputForm
  | "text" => some .text
  | "json" => some .json
  | _ => none

/-- The value of an option, which must be new. -/
def once {α : Type} (old : Option α) (value : Option α) : Option (Option α) :=
  match old, value with
  | none, some v => some (some v)
  | _, _ => none

/-- Sets an option that takes a value. Only the command that writes a file has an output path. -/
def setValue (hasOut : Bool) (flags : Flags) (name value : String) : Option Flags := do
  match name with
  | "--output" => pure { flags with form := ← once flags.form (formOf value) }
  | "--source-id" => pure { flags with sourceId := ← once flags.sourceId (some value) }
  | "--out" =>
    if hasOut && value ≠ "" then pure { flags with out := ← once flags.out (some value) }
    else none
  | _ => none

/-- An option and its value in one word, joined by an equals sign. -/
def splitEquals (word : String) : Option (String × String) :=
  let cs := word.toList
  match cs.dropWhile (· ≠ '=') with
  | [] => none
  | _ :: value => some (String.ofList (cs.takeWhile (· ≠ '=')), String.ofList value)

/-- A word that is an option and no value. A single hyphen is a value. -/
def isOption (word : String) : Bool :=
  match word.toList with
  | '-' :: _ :: _ => true
  | _ => false

/-- A word that asks for the version. -/
def asksVersion (word : String) : Bool :=
  word = "--version" || word = "-V"

/-- Reads the options in front of the command. What follows them is left. -/
def readFront (flags : Flags) : List String → Option (Flags × List String)
  | [] => some (flags, [])
  | word :: rest =>
    if !isOption word || asksVersion word then some (flags, word :: rest)
    else if word = "--quiet" then
      if flags.quiet then none else readFront { flags with quiet := true } rest
    else
      match splitEquals word with
      | some (name, value) =>
        (setValue false flags name value).bind fun flags => readFront flags rest
      | none =>
        match rest with
        | [] => none
        | value :: rest =>
          if isOption value then none
          else (setValue false flags word value).bind fun flags => readFront flags rest

/-- Reads the options behind the command and the words between them. All words behind two hyphens
are no options. -/
def readBack (hasOut : Bool) (side : Side) : List String → Option Side
  | [] => some side
  | word :: rest =>
    if word = "--" then some { side with words := side.words ++ rest }
    else if !isOption word then readBack hasOut { side with words := side.words ++ [word] } rest
    else if word = "--quiet" then
      if side.flags.quiet then none
      else readBack hasOut { side with flags := { side.flags with quiet := true } } rest
    else
      match splitEquals word with
      | some (name, value) =>
        (setValue hasOut side.flags name value).bind fun flags =>
          readBack hasOut { side with flags } rest
      | none =>
        match rest with
        | [] => none
        | value :: rest =>
          if isOption value then none
          else
            (setValue hasOut side.flags word value).bind fun flags =>
              readBack hasOut { side with flags } rest

/-- The directory of a suite when none is given. -/
def defaultSuite : String := "conformance"

/-- The task of a command with the words behind its name. -/
def taskOf (name : String) (words : List String) (out : Option String) : Option Task :=
  if words.contains "" then none
  else
    match name, words with
    | "check", [document] => some (.check document)
    | "compile", [document] => some (.compile document out)
    | "validate", [model] => some (.validate model)
    | "test", [] => some (.test defaultSuite)
    | "test", [suite] => some (.test suite)
    | "codes", [] => some .codes
    | _, _ => none

/-- The options in front of the command and behind it; those behind it count more. -/
def combine (task : Task) (front back : Flags) : Invocation :=
  { task
    form := (back.form.or front.form).getD .text
    quiet := front.quiet || back.quiet
    sourceId := back.sourceId.or front.sourceId }

/-- Reads the words of a command line. -/
def parse (words : List String) : Option Invocation := do
  let (front, rest) ← readFront .none words
  match rest with
  | [] => none
  | name :: rest =>
    if asksVersion name then pure (combine .version front .none)
    else do
      let back ← readBack (name = "compile") ⟨.none, []⟩ rest
      let task ← taskOf name back.words back.flags.out
      pure (combine task front back.flags)

end Invocation

end DependencyWiring.Command
