import MiniC.CommandLine.Switch
import MiniC.Number.Numeral
import MiniC.Parser.Options

/-!
# What a command line asks for

The programs, the switches each of them knows, and the checks between a command
line and a request that can be carried out.  Switches are checked in the order
they were given, then the operand, then that nothing is left over.
-/

namespace MiniC.CommandLine

/-- The programs. -/
inductive Program where
  | lexer
  | parser
  deriving DecidableEq, Repr

namespace Program

/-- The name of a program. -/
def name : Program → String
  | .lexer => "zqclex"
  | .parser => "zqcparse"

/-- The program of a given name. -/
def ofName? (name : String) : Option Program :=
  [lexer, parser].find? fun program => program.name = name

/-- The version of the programs. -/
def version : String := "1.0.0"

/-- The name of the operand of a program. -/
def operand : Program → String
  | .lexer => "SOURCE_FILE"
  | .parser => "INPUT_FILE"

/-- The switches of a program. -/
def switches : Program → List Switch
  | .lexer => [.output, .categories, .verbose, .version, .help]
  | .parser => [.tokens, .output, .maxErrors, .maxNesting, .verbose, .version, .help]

/-- The line that shows how a program is called. -/
def usage (program : Program) : String :=
  s!"Usage: {program.name} [OPTIONS] {program.operand}"

/-- The line that names the version of a program. -/
def versionLine (program : Program) : String :=
  s!"{program.name}, version {version}"

end Program

/-- A limit, which is at least one. -/
abbrev Limit := { limit : Nat // 0 < limit }

/-- What the switches of a command line settle. -/
structure Settings where
  output : Option Files.Path := none
  categories : Bool := false
  tokens : Bool := false
  verbose : Bool := false
  maxErrors : Limit := ⟨100, by decide⟩
  maxNesting : Limit := ⟨64, by decide⟩

/-- What a command line asks for. -/
inductive Request where
  | version
  | help
  | process (input : Files.Path) (settings : Settings)

/-- Read the value of a limit. -/
def readLimit (switch : Switch) (value : String) : Except Misuse Limit :=
  match Numeral.integer? value.toList with
  | none => .error (.notInteger switch value)
  | some limit =>
      if positive : 0 < limit then .ok ⟨limit.toNat, by omega⟩
      else .error (.belowOne switch limit)

variable {m : Type → Type} [Monad m] [Files.Host m]

/-- What a path of the command line leads to. -/
def look (value : String) : ExceptT Misuse m Files.Presence := do
  if Files.isUnnamable value then throw .unnamable
  else Files.Host.look (m := m) value

/-- Let a switch settle what it is for. -/
def Settings.adopt (words : Words) (settings : Settings) (switch : Switch) :
    ExceptT Misuse m Settings := do
  let value := (words.value? switch).getD ""
  match switch with
  | .output =>
      match ← look value with
      | .directory => throw (.outputDirectory value)
      | _ => return { settings with output := some (.ofString value) }
  | .maxErrors =>
      let maxErrors ← ExceptT.mk (pure (readLimit switch value))
      return { settings with maxErrors }
  | .maxNesting =>
      let maxNesting ← ExceptT.mk (pure (readLimit switch value))
      return { settings with maxNesting }
  | .categories => return { settings with categories := true }
  | .tokens => return { settings with tokens := true }
  | .verbose => return { settings with verbose := true }
  | .version | .help => return settings

/-- Find the file that an operand names. -/
def openOperand (operand value : String) : ExceptT Misuse m Files.Path := do
  match ← look value with
  | .absent => throw (.absentOperand operand value)
  | .directory => throw (.operandDirectory operand value)
  | .file => return .ofString value

/-- Check a command line that was taken apart. -/
def Words.request (program : Program) (words : Words) : ExceptT Misuse m Request := do
  match words.switches.find? Switch.answersAlone with
  | some .version => return .version
  | some _ => return .help
  | none =>
      let settings ← words.switches.foldlM (Settings.adopt words) {}
      match words.operands with
      | [] => throw (.missingOperand program.operand)
      | operand :: others =>
          let input ← openOperand program.operand operand
          unless others.isEmpty do throw (.extraOperands others)
          return .process input settings

/-- What the arguments of a program ask for. -/
def Program.request (program : Program) (arguments : List String) :
    ExceptT Misuse m Request := do
  let words ← ExceptT.mk (pure (readWords program.switches arguments))
  words.request program

end MiniC.CommandLine
