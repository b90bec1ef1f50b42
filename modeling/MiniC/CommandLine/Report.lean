import MiniC.CommandLine.Request
import MiniC.Frontend
import MiniC.Text.Terminal

/-!
# What a program reports

The lines a program prints, the lines it complains with, and its exit status:
one for faults of the input, two for faults of the command line, three for
faults that no input should cause.  A line is printed without the control
sequences of a terminal; only what a verbose report mentions keeps them.  In the
whole text a line ends in a line feed alone.
-/

namespace MiniC.CommandLine

/-- What a program leaves behind besides files. -/
structure Report where
  status : Nat := 0
  printed : List String := []
  complaints : List String := []
  deriving DecidableEq, Repr

/-- Something that stops a program. -/
inductive Problem where
  /-- A fault of the input, which carries its own wording. -/
  | input (text : String)
  /-- Any other fault that the tools foresee. -/
  | foreseen (text : String)
  /-- A value of the command line that cannot be used. -/
  | parameter (text : String)
  /-- A file that is missing or must not be used. -/
  | unavailable (text : String)
  /-- A fault that is not foreseen. -/
  | unforeseen (text : String)
  deriving DecidableEq, Repr

namespace Problem

/-- The exit status that a problem leads to. -/
def status : Problem → Nat
  | .input _ | .foreseen _ => 1
  | .parameter _ | .unavailable _ => 2
  | .unforeseen _ => 3

/-- The line about a problem, met during an activity that may have a name. -/
def message (activity : Option String) : Problem → String
  | .input text => text
  | .foreseen text =>
      match activity.filter fun name => !name.isEmpty with
      | some name => s!"{name} error: {text}"
      | none => s!"Error: {text}"
  | .parameter text | .unavailable text => s!"Error: {text}"
  | .unforeseen text => s!"Internal error: {text}"

/-- The problem of an obstacle on the way to a file. -/
def ofObstacle (obstacle : Files.Obstacle) (path : Files.Path) : Problem :=
  match obstacle with
  | .missing | .denied => .unavailable (obstacle.at path)
  | .notDirectory | .isDirectory | .nameTooLong => .unforeseen (obstacle.at path)

/-- The problem of a file that has no text. -/
def ofUnreadable (unreadable : Files.Unreadable) : Problem :=
  match unreadable with
  | .blocked obstacle path => ofObstacle obstacle path
  | .unnamable | .encoding _ => .unforeseen unreadable.message

/-- The problem of an input that has no compilation unit. -/
def ofFailure (failure : Frontend.Failure) : Problem :=
  match failure with
  | .lexical _ | .record _ (.malformed ..) => .input failure.message
  | .record _ (.oversizedReference _) | .unterminatedStream | .fault _ =>
      .unforeseen failure.message

end Problem

namespace Report

/-- Print a line. -/
def print (report : Report) (line : String) : Report :=
  { report with printed := report.printed ++ [Text.plain line] }

/-- Complain with a line. -/
def complain (report : Report) (line : String) : Report :=
  { report with complaints := report.complaints ++ [Text.plain line] }

/-- Mention what happened, if the report is to be verbose. -/
def mention (report : Report) (verbose : Bool) (messages : List String) : Report :=
  if verbose then
    { report with complaints := report.complaints ++ messages.map ("DEBUG: " ++ ·) }
  else
    report

/-- End with an exit status. -/
def exit (report : Report) (status : Nat) : Report :=
  { report with status }

/-- End with a problem. -/
def fail (report : Report) (activity : Option String) (problem : Problem) : Report :=
  (report.complain (problem.message activity)).exit problem.status

/-- End with a fault of the command line.  A path that nothing can be named by ends
a program without a word. -/
def misused (program : Program) (misuse : Misuse) : Report :=
  let usage :=
    if misuse.showsUsage then
      [program.usage, s!"Try '{program.name} --help' for help.", ""]
    else []
  if misuse = .unnamable then ({} : Report).exit 1
  else ((usage ++ [s!"Error: {misuse.message}"]).foldl complain {}).exit 2

/-- Lines as a text, each of them ended.  A carriage return at the end of a line
belongs to that end. -/
def ended (lines : List String) : String :=
  String.ofList (Text.joinReturns (String.join (lines.map (· ++ "\n"))).toList)

/-- The text that a program prints. -/
def output (report : Report) : String :=
  ended report.printed

/-- The text that a program complains with. -/
def errors (report : Report) : String :=
  ended report.complaints

end Report

end MiniC.CommandLine
