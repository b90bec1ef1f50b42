import MiniC.CommandLine.Similar
import MiniC.Files.Host
import MiniC.Text.Quoted

/-!
# Switches and command lines

A command line is taken apart into the switches it gives, in their order, and
its operands.  A switch has a long spelling, whose value may be joined by an
equals sign, and may have a short one; short switches can share a word.  The
word of two dashes makes operands of all that follows.
-/

namespace MiniC.CommandLine

/-- The switches of the programs. -/
inductive Switch where
  | output
  | categories
  | tokens
  | maxErrors
  | maxNesting
  | verbose
  | version
  | help
  deriving DecidableEq, Repr

namespace Switch

/-- The long spelling of a switch. -/
def long : Switch → String
  | .output => "--output"
  | .categories => "--categories"
  | .tokens => "--tokens"
  | .maxErrors => "--max-errors"
  | .maxNesting => "--max-nesting"
  | .verbose => "--verbose"
  | .version => "--version"
  | .help => "--help"

/-- The letter of the short spelling. -/
def letter? : Switch → Option Char
  | .output => some 'o'
  | .verbose => some 'v'
  | _ => none

/-- Whether a switch is followed by a value. -/
def takesValue : Switch → Bool
  | .output | .maxErrors | .maxNesting => true
  | _ => false

/-- Whether a switch answers by itself, whatever else is on the command line. -/
def answersAlone : Switch → Bool
  | .version | .help => true
  | _ => false

/-- How messages name a switch: by all of its spellings. -/
def hint (switch : Switch) : String :=
  match switch.letter? with
  | some letter => s!"'-{letter}' / '{switch.long}'"
  | none => s!"'{switch.long}'"

end Switch

/-- A fault of a command line. -/
inductive Misuse where
  | unknownSwitch (spelling : String) (similar : List String)
  | unwantedValue (spelling : String)
  | missingValue (spelling : String)
  | notInteger (switch : Switch) (value : String)
  | belowOne (switch : Switch) (value : Int)
  | outputDirectory (value : String)
  | missingOperand (operand : String)
  | absentOperand (operand value : String)
  | operandDirectory (operand value : String)
  | extraOperands (values : List String)
  | unnamable
  deriving DecidableEq, Repr

namespace Misuse

/-- The remark about a value that does not fit. -/
def invalidValue (hint reason : String) : String :=
  s!"Invalid value for {hint}: {reason}"

/-- The remark about a path that leads to a directory instead of a file. -/
def directoryReason (value : String) : String :=
  s!"File {Text.quoted value} is a directory."

/-- The suggestions that follow the spelling of an unknown switch. -/
def suggestion : List String → String
  | [] => ""
  | [single] => s!" Did you mean {single}?"
  | several =>
      let names := ", ".intercalate several
      s!" (Possible options: {names})"

/-- The wording of a fault. -/
def message : Misuse → String
  | .unknownSwitch spelling similar => s!"No such option: {spelling}{suggestion similar}"
  | .unwantedValue spelling => s!"Option {Text.quoted spelling} does not take a value."
  | .missingValue spelling => s!"Option {Text.quoted spelling} requires an argument."
  | .notInteger switch value =>
      invalidValue switch.hint s!"{Text.quoted value} is not a valid integer range."
  | .belowOne switch value =>
      invalidValue switch.hint s!"{value} is not in the range x>=1."
  | .outputDirectory value => invalidValue Switch.output.hint (directoryReason value)
  | .missingOperand operand => s!"Missing argument '{operand}'."
  | .absentOperand operand value =>
      invalidValue s!"'{operand}'" s!"File {Text.quoted value} does not exist."
  | .operandDirectory operand value =>
      invalidValue s!"'{operand}'" (directoryReason value)
  | .extraOperands values =>
      let noun := if values.length = 1 then "argument" else "arguments"
      let list := " ".intercalate values
      s!"Got unexpected extra {noun} ({list})"
  | .unnamable => Files.Unreadable.unnamable.message

/-- Whether the usage of the program is shown before the fault. -/
def showsUsage : Misuse → Bool
  | .unwantedValue _ | .missingValue _ => false
  | _ => true

end Misuse

/-- A switch as it was given, with its value if it takes one. -/
structure Given where
  switch : Switch
  value : String := ""
  deriving DecidableEq, Repr

/-- A command line taken apart. -/
structure Words where
  given : List Given := []
  operands : List String := []
  deriving DecidableEq, Repr

/-- What a single word gives: switches, and possibly one, as it was spelled, whose
value is the next word. -/
structure WordSwitches where
  given : List Given := []
  waiting : Option (Switch × String) := none
  deriving DecidableEq, Repr

/-- Read the letters of a word of short switches. -/
def readLetters (switches : List Switch) : List Char → Except Misuse WordSwitches
  | [] => .ok {}
  | letter :: rest =>
      match switches.find? fun switch => switch.letter? = some letter with
      | none => .error (.unknownSwitch s!"-{letter}" [])
      | some switch =>
          if switch.takesValue then
            if rest.isEmpty then .ok { waiting := some (switch, s!"-{letter}") }
            else .ok { given := [⟨switch, String.ofList rest⟩] }
          else
            (readLetters switches rest).map fun read =>
              { read with given := ⟨switch, ""⟩ :: read.given }

/-- The spelling in front of the first equals sign, and the value behind it. -/
def splitValue (word : List Char) : String × Option String :=
  let spelling := String.ofList (word.takeWhile (· ≠ '='))
  match word.dropWhile (· ≠ '=') with
  | [] => (spelling, none)
  | _ :: value => (spelling, some (String.ofList value))

/-- Read a word that starts with a dash. -/
def readWord (switches : List Switch) (word : String) : Except Misuse WordSwitches :=
  let (spelling, value?) := splitValue word.toList
  match switches.find? fun switch => switch.long = spelling with
  | some switch =>
      match switch.takesValue, value? with
      | true, some value => .ok { given := [⟨switch, value⟩] }
      | true, none => .ok { waiting := some (switch, spelling) }
      | false, some _ => .error (.unwantedValue spelling)
      | false, none => .ok { given := [⟨switch, ""⟩] }
  | none =>
      if ['-', '-'].isPrefixOf word.toList then
        .error (.unknownSwitch spelling (Similar.closest spelling (switches.map Switch.long)))
      else
        readLetters switches (word.toList.drop 1)

/-- Whether a word gives switches: a dash and something behind it. -/
def isSwitchWord (word : String) : Bool :=
  match word.toList with
  | '-' :: _ :: _ => true
  | _ => false

/-- Put switches before a command line that was already taken apart. -/
def Words.prepend (given : List Given) (words : Words) : Words :=
  { words with given := given ++ words.given }

/-- Take a command line apart. -/
def readWords (switches : List Switch) : List String → Except Misuse Words
  | [] => .ok {}
  | word :: rest =>
      if word = "--" then
        .ok { operands := rest }
      else if isSwitchWord word then
        match readWord switches word with
        | .error misuse => .error misuse
        | .ok { given, waiting := none } =>
            (readWords switches rest).map (Words.prepend given)
        | .ok { given, waiting := some (switch, spelling) } =>
            match rest with
            | [] => .error (.missingValue spelling)
            | value :: rest =>
                (readWords switches rest).map (Words.prepend (given ++ [⟨switch, value⟩]))
      else
        (readWords switches rest).map fun words =>
          { words with operands := word :: words.operands }

namespace Words

/-- The switches that were given, each once, in the order of their first use. -/
def switches (words : Words) : List Switch :=
  (words.given.map Given.switch).eraseDups

/-- The value of a switch: of several, the last. -/
def value? (words : Words) (switch : Switch) : Option String :=
  ((words.given.filter fun given => given.switch = switch).getLast?).map Given.value

end Words

end MiniC.CommandLine
