import MiniC.Files.Path
import MiniC.Text.Line
import MiniC.Text.Quoted
import MiniC.Text.Utf8

/-!
# Access to files

What the programs ask of the place where files are kept: what a path leads to,
the bytes of a file, and a new text for a file.  A text is read as UTF-8, and
each of its line endings becomes a line feed.  Names and paths may not be
longer than files can be named by.
-/

namespace MiniC.Files

/-- What a path leads to. -/
inductive Presence where
  | absent
  | file
  | directory
  deriving DecidableEq, Repr

/-- Why a path cannot be used. -/
inductive Obstacle where
  | missing
  | denied
  | notDirectory
  | isDirectory
  | nameTooLong
  deriving DecidableEq, Repr

/-- The number that stands for an obstacle. -/
def Obstacle.code : Obstacle → Nat
  | .missing => 2
  | .denied => 13
  | .notDirectory => 20
  | .isDirectory => 21
  | .nameTooLong => 36

/-- The wording of an obstacle. -/
def Obstacle.message : Obstacle → String
  | .missing => "No such file or directory"
  | .denied => "Permission denied"
  | .notDirectory => "Not a directory"
  | .isDirectory => "Is a directory"
  | .nameTooLong => "File name too long"

/-- The wording of a failed access to a path. -/
def Obstacle.at (obstacle : Obstacle) (path : Path) : String :=
  s!"[Errno {obstacle.code}] {obstacle.message}: {Text.quoted path.text}"

/-- The place where files are kept. -/
class Host (m : Type → Type) where
  /-- What a path leads to, as it was written. -/
  look : String → m Presence
  /-- The bytes of a file. -/
  read : Path → m (Except Obstacle ByteArray)
  /-- Give a file a new text. -/
  write : Path → String → m (Except Obstacle Unit)

/-- Why a file has no text. -/
inductive Unreadable where
  | unnamable
  | blocked (obstacle : Obstacle) (path : Path)
  | encoding (refusal : Text.Utf8.Refusal)
  deriving DecidableEq, Repr

/-- The wording of a failed reading. -/
def Unreadable.message : Unreadable → String
  | .unnamable => "embedded null byte"
  | .blocked obstacle path => obstacle.at path
  | .encoding refusal => refusal.message

/-- The text that bytes stand for, its line endings unified. -/
def textOf (bytes : ByteArray) : Except Text.Utf8.Refusal String := do
  let text ← Text.Utf8.decode (bytes.toList.map UInt8.toNat)
  return String.ofList (Text.unifyNewlines text)

variable {m : Type → Type} [Monad m] [Host m]

/-- The text of a file. -/
def readText (path : Path) : m (Except Unreadable String) := do
  if isUnnamable path.text then
    return .error .unnamable
  else
    match ← Host.read path with
    | .error obstacle => return .error (.blocked obstacle path)
    | .ok bytes => return (textOf bytes).mapError .encoding

end MiniC.Files
