import DependencyWiring.Command
import Std.Time.DateTime.Timestamp

/-!
# The command line

Runs one command on the files of the machine and prints its outcome.
-/
namespace DependencyWiring

/-- The error of a number. Some calls give the number negated and other reasons for it, so that the
reason counts only for a number that is not known. -/
def FileError.ofCode (code : UInt32) (reason : String) : FileError :=
  let n := code.toNat
  match if Nat.pow 2 31 ≤ n then Nat.pow 2 32 - n else n with
  | 2 => notFound
  | 20 => notDirectory
  | 21 => isDirectory
  | 36 => nameTooLong
  | number => system number reason.capitalize

/-- The error of the system behind an exception. -/
def FileError.ofException : IO.Error → FileError
  | .alreadyExists _ code reason => ofCode code reason
  | .otherError code reason => ofCode code reason
  | .resourceBusy code reason => ofCode code reason
  | .resourceVanished code reason => ofCode code reason
  | .unsupportedOperation code reason => ofCode code reason
  | .hardwareFault code reason => ofCode code reason
  | .unsatisfiedConstraints code reason => ofCode code reason
  | .illegalOperation code reason => ofCode code reason
  | .protocolError code reason => ofCode code reason
  | .timeExpired code reason => ofCode code reason
  | .interrupted _ code reason => ofCode code reason
  | .noFileOrDirectory _ code reason => ofCode code reason
  | .invalidArgument _ code reason => ofCode code reason
  | .permissionDenied _ code reason => ofCode code reason
  | .resourceExhausted _ code reason => ofCode code reason
  | .inappropriateType _ code reason => ofCode code reason
  | .noSuchThing _ code reason => ofCode code reason
  | .unexpectedEof => system 5 "Input/output error"
  | .userError reason => system 5 reason

/-- The value of an action, or the error it throws. -/
def attempt {α : Type} (action : IO α) : IO (Except FileError α) := do
  try
    pure (.ok (← action))
  catch e =>
    pure (.error (.ofException e))

instance : FileSystem IO where
  readBytes path := attempt (IO.FS.readBinFile path)
  write path text := attempt (IO.FS.writeFile path text)
  isPresent path := do ((← IO.currentDir) / path).pathExists
  entryNames path := do
    match ← attempt ((← IO.currentDir) / path).readDir with
    | .ok entries => pure (entries.toList.map fun e => e.fileName)
    | .error _ => pure []

/-- The present moment in UTC. -/
def now : IO Moment := do
  let t ← Std.Time.Timestamp.now
  let nanos := t.toNanosecondsSinceUnixEpoch.val
  pure ⟨nanos / 1000000000, (nanos % 1000000000).toNat, 0⟩

end DependencyWiring

open DependencyWiring in
def main (args : List String) : IO UInt32 := do
  let outcome ← Command.runWords (← now) args
  IO.eprint (Command.Outcome.print outcome.err)
  IO.print (Command.Outcome.print outcome.out)
  pure (UInt32.ofNat outcome.status)
