import MiniC.CommandLine.Report
import MiniC.Syntax.Document

/-!
# Running the programs

One program turns a source file into a file of token records, the other turns a
source file, or a file of token records, into the document of its syntax tree.
A file with errors leaves no document.
-/

namespace MiniC

variable {m : Type → Type} [Monad m] [Files.Host m]

/-- Parse the token records of a file.  Diagnostics name the file by its path as
written. -/
def Frontend.parseRecordFile (written : String) (options : ParserOptions) (free : Nat) :
    m (Except Files.Unreadable (Frontend.Run ParseOutcome)) := do
  let path := Files.Path.ofString written
  return (← Files.readText path).map fun text =>
    Frontend.parseRecords text path.text written options free

namespace CommandLine

/-- The number of tokens that were not terminated. -/
def illFormedCount (tokens : List Token) : Nat :=
  tokens.countP fun token => !token.wellFormed

/-- Write the records of the tokens of a source file. -/
def tokenizeFile (input : Files.Path) (settings : Settings) (free : Nat) : m (Report × Nat) := do
  let fail := fun (report : Report) => report.fail (some "Lexer")
  let output := settings.output.getD (input.extended ".xml")
  match ← Files.readText input with
  | .error unreadable => return (fail {} (.ofUnreadable unreadable), free)
  | .ok source =>
      match Lexer.tokenize source input.text 1 free with
      | (.error error, free) => return (fail {} (.ofFailure (.lexical error)), free)
      | (.ok tokens, free) =>
          let report : Report :=
            ({} : Report).mention settings.verbose
              [Frontend.lexedMessage tokens.length input.text]
          match ← Files.Host.write output (Record.dump settings.categories tokens) with
          | .error obstacle => return (fail report (.ofObstacle obstacle output), free)
          | .ok () =>
              let count := illFormedCount tokens
              let report :=
                if count = 0 then report
                else report.complain s!"warning: {count} unterminated literal(s) in {input.text}"
              return (report.print
                s!"Tokenized {input.text} -> {output.text} ({tokens.length} tokens)", free)

/-- The outcome of parsing the file that settings ask for. -/
def parseInput (input : Files.Path) (settings : Settings) (free : Nat) :
    m (Except Files.Unreadable (Frontend.Run ParseOutcome)) := do
  let options : ParserOptions :=
    { filename := input.name
      maxErrors := settings.maxErrors.val
      maxNesting := settings.maxNesting.val
      maxErrors_pos := settings.maxErrors.property
      maxNesting_pos := settings.maxNesting.property }
  if settings.tokens then
    Frontend.parseRecordFile input.text options free
  else
    return (← Files.readText input).map fun source =>
      Frontend.parseSource source none options free

/-- The line about the number of declarations. -/
def parsedMessage (unit : CompilationUnit) : String :=
  s!"Parsed {unit.declarations.length} top-level declarations"

/-- Write the document of a file's syntax tree. -/
def parseFile (input : Files.Path) (settings : Settings) (free : Nat) : m (Report × Nat) := do
  let fail := fun (report : Report) => report.fail (some "Parse")
  let output := settings.output.getD (input.extended "_tree.xml")
  match ← parseInput input settings free with
  | .error unreadable => return (fail {} (.ofUnreadable unreadable), free)
  | .ok run =>
      let report : Report := ({} : Report).mention settings.verbose run.log
      match run.result with
      | .error failure => return (fail report (.ofFailure failure), run.free)
      | .ok outcome =>
          let report :=
            if settings.verbose then report.print (parsedMessage outcome.unit) else report
          if outcome.complete then
            let report := outcome.findings.warnings.foldl Report.complain report
            match ← Files.Host.write output outcome.unit.document with
            | .error obstacle => return (fail report (.ofObstacle obstacle output), run.free)
            | .ok () =>
                let report := report.mention settings.verbose [s!"Wrote tree to {output.text}"]
                return (report.print s!"{input.name} is successfully parsed!", run.free)
          else
            return ((report.complain outcome.report).exit 1, run.free)

/-- Run a program on its arguments.  Tokens are numbered from `free` on, and the
number that is free afterwards is returned. -/
def Program.run (program : Program) (arguments : List String) (free : Nat) :
    m (Report × Nat) := do
  match ← (program.request arguments).run with
  | .error misuse => return (.misused program misuse, free)
  | .ok .version => return (({} : Report).print program.versionLine, free)
  | .ok .help => return (({} : Report).print program.usage, free)
  | .ok (.process input settings) =>
      match program with
      | .lexer => tokenizeFile input settings free
      | .parser => parseFile input settings free

end CommandLine

end MiniC
