import MiniC.CommandLine.Run

/-!
# The command line

The first argument names the program, the others are its arguments.
-/

namespace MiniC.CommandLine

open Files

/-- The obstacle that an error of the file system stands for. -/
def obstacleOf : IO.Error → Obstacle
  | .permissionDenied .. => .denied
  | .inappropriateType _ code _ =>
      if code.toNat = Obstacle.isDirectory.code then .isDirectory else .notDirectory
  | .invalidArgument .. => .nameTooLong
  | _ => .missing

/-- Run an access to the file system. -/
def attempt {α : Type} (access : IO α) : IO (Except Obstacle α) := do
  try
    return .ok (← access)
  catch error => return .error (obstacleOf error)

instance : Host IO where
  look written := do
    match ← attempt (IO.FS.Handle.mk written .read) with
    | .error _ => return .absent
    | .ok handle =>
        match ← attempt (handle.read 1) with
        | .error _ => return .directory
        | .ok _ => return .file
  read path := attempt (IO.FS.readBinFile path.text)
  write path text := attempt (IO.FS.writeFile path.text text)

end MiniC.CommandLine

open MiniC.CommandLine in
/-- Run the program that the first argument names. -/
def main (arguments : List String) : IO UInt32 := do
  match arguments with
  | [] =>
      IO.eprintln "Error: no program named"
      return 2
  | name :: rest =>
      match Program.ofName? name with
      | none =>
          IO.eprintln s!"Error: no program named {name}"
          return 2
      | some program =>
          let (report, _) ← program.run rest 0
          IO.print report.output
          IO.eprint report.errors
          return UInt32.ofNat report.status
