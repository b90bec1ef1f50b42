import MiniC.Diagnostic.Findings
import MiniC.Lexer.Scan
import MiniC.Parser.Unit
import MiniC.Text.Line
import MiniC.Token.Record

/-!
# From source to syntax tree

A source text, a list of tokens or a record file is parsed into a compilation
unit with its diagnostics.  Literals that were not terminated are accepted and
reported as warnings.
-/

namespace MiniC

/-- A compilation unit, partial when there are errors, with the findings about its
source. -/
structure ParseOutcome where
  unit : CompilationUnit
  listing : Listing
  findings : Findings

/-- Whether the tree is complete. -/
def ParseOutcome.complete (outcome : ParseOutcome) : Bool :=
  !outcome.findings.hasErrors

/-- The text of all errors and warnings. -/
def ParseOutcome.report (outcome : ParseOutcome) : String :=
  outcome.findings.report outcome.listing

namespace Frontend

/-- Why an input has no compilation unit at all. -/
inductive Failure where
  | lexical (error : Lexer.Error)
  | record (filename : String) (error : Record.Error)
  | unterminatedStream
  | fault (fault : Parser.Fault)
  deriving DecidableEq, Repr

/-- The text of a failure. -/
def Failure.message : Failure → String
  | .lexical error => error.notice.text
  | .record filename (.malformed flaw index line) =>
      (Record.notice filename flaw index line).text
  | .record _ (.oversizedReference oversized) => oversized.message
  | .unterminatedStream => TokenStream.unterminatedMessage
  | .fault cause => cause.message

/-- A run of the front end: its result, a log of what happened, and the first
token number that is still free. -/
structure Run (α : Type) where
  result : Except Failure α
  log : List String := []
  free : Nat

/-- The warning about a token that was not terminated. -/
def illFormedMessage (token : Token) : String :=
  let what :=
    if token.kind = .stringLiteral then "string literal" else "character constant"
  s!"unterminated {what} {Text.quoted token.lexeme}"

/-- Warn about every token that was not terminated. -/
def warnIllFormed (filename : String) (tokens : List Token) (findings : Findings) : Findings :=
  (tokens.filter fun token => !token.wellFormed).foldl
    (fun findings token =>
      findings.addWarning (illFormedMessage token) (some { filename, line := token.line }))
    findings

/-- The errors and warnings about a stream after a parse. -/
def findingsOf (stream : TokenStream) (options : ParserOptions)
    (errors : List Diagnostic) : Findings :=
  warnIllFormed options.filename stream.tokens.toList { maxErrors := options.maxErrors, errors }

/-- Parse a stream. -/
def parseStream (stream : TokenStream) (options : ParserOptions) (free : Nat) :
    Run ParseOutcome :=
  match Parser.parse { stream, options } {} with
  | .ok unit state =>
      { result := .ok
          { unit
            listing := .ofStream stream options.filename options.sourceLines
            findings := findingsOf stream options state.reported }
        log := state.trace.toList.map Parser.Event.message
        free }
  | .error fault state =>
      { result := .error (.fault fault)
        log := state.trace.toList.map Parser.Event.message
        free }

/-- Parse a list of tokens, whose last one has to mark the end of input. -/
def parseTokens (tokens : List Token) (options : ParserOptions) (free : Nat) :
    Run ParseOutcome :=
  match TokenStream.ofList? tokens with
  | some stream => parseStream stream options free
  | none => { result := .error .unterminatedStream, free }

/-- Put a message before the log of a run. -/
def Run.logged {α : Type} (message : String) (run : Run α) : Run α :=
  { run with log := message :: run.log }

/-- The message about the tokens of a source. -/
def lexedMessage (count : Nat) (filename : String) : String :=
  s!"Lexed {count} tokens from {filename}"

/-- The message about the tokens of a record file. -/
def loadedMessage (count : Nat) (filename : String) : String :=
  s!"Loaded {count} tokens from {filename}"

/-- Parse a source text.  A filename that is missing or empty is taken from the
options. -/
def parseSource (source : String) (filename : Option String) (options : ParserOptions)
    (free : Nat) : Run ParseOutcome :=
  let named := (filename.filter fun name => !name.isEmpty).getD options.filename
  let options :=
    { options with filename := named, sourceLines := some (Text.lineStrings source) }
  match Lexer.tokenize source named 1 free with
  | (.error error, free) => { result := .error (.lexical error), free }
  | (.ok tokens, free) =>
      (parseTokens tokens options free).logged (lexedMessage tokens.length named)

/-- Parse the text of a record file that is found under `path`; its records are
named after `recordName`.  Diagnostics name the path unless the options give
another name. -/
def parseRecords (text recordName path : String) (options : ParserOptions) (free : Nat) :
    Run ParseOutcome :=
  match Record.load text free with
  | .error error => { result := .error (.record recordName error), free }
  | .ok (tokens, free) =>
      let options :=
        if options.filename = ParserOptions.anonymous then { options with filename := path }
        else options
      (parseTokens tokens options free).logged (loadedMessage tokens.length recordName)

end Frontend

end MiniC
