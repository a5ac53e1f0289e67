/-!
# Files

The operations on files that commands need, over any monad in which they can be had: the files of
the machine, or a tree of files that is a value.
-/
namespace DependencyWiring

/-- Why a file cannot be had or written: an error of the system with its number, or bytes that are
no text. -/
inductive FileError where
  | system (code : Nat) (reason : String)
  | notText
  deriving DecidableEq, Repr, Inhabited

namespace FileError

def notFound : FileError := system 2 "No such file or directory"

def notDirectory : FileError := system 20 "Not a directory"

def isDirectory : FileError := system 21 "Is a directory"

def nameTooLong : FileError := system 36 "File name too long"

def message : FileError → String
  | system code reason => s!"{reason} (os error {code})"
  | notText => "stream did not contain valid UTF-8"

end FileError

class FileSystem (m : Type → Type) where
  /-- The bytes of the file at a path. -/
  readBytes : String → m (Except FileError ByteArray)
  /-- Makes a text the content of the file at a path. -/
  write : String → String → m (Except FileError Unit)
  /-- Whether there is a file or a directory at a path. -/
  isPresent : String → m Bool
  /-- The names in the directory at a path in any order; no names when there is no directory. -/
  entryNames : String → m (List String)

namespace FileSystem

/-- The text that bytes stand for. -/
def decode (bytes : ByteArray) : Except FileError String :=
  match String.fromUTF8? bytes with
  | some text => .ok text
  | none => .error .notText

variable {m : Type → Type} [Monad m] [FileSystem m]

/-- The text of the file at a path, or what is said of it when it cannot be read. -/
def readText (path : String) : m (Except String String) := do
  let bytes ← readBytes path
  pure ((bytes >>= decode).mapError FileError.message)

end FileSystem

end DependencyWiring
