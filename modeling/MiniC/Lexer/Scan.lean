import MiniC.Lexer.Cursor
import MiniC.Lexer.Gap
import MiniC.Lexer.Lexeme
import MiniC.Source.Notice
import MiniC.Token.Basic

/-!
# Scanning a text into tokens

A scan repeats one step: leave out the gap, then take the lexeme that follows.
It ends with the mark of the end of input, or fails at a character that starts
no token or at a block comment that is never closed.
-/

namespace MiniC.Lexer

/-- Why a text cannot be divided into tokens. -/
inductive Error where
  | invalidCharacter (c : Char) (location : Source.Location) (sourceLine : String)
  | unterminatedComment (location : Source.Location)
  deriving DecidableEq, Repr

/-- The message about a character that starts no token, which shows its code
point with at least two digits. -/
def invalidCharacterMessage (c : Char) : String :=
  let code := (Text.hexDigits 2 c.toNat).map Char.toUpper
  s!"invalid character '{c}' (0x{String.ofList code})"

/-- An error as it is shown. -/
def Error.notice : Error → Source.Notice
  | .invalidCharacter c location sourceLine =>
      { message := invalidCharacterMessage c
        location := some location
        sourceLine := some sourceLine }
  | .unterminatedComment location =>
      { message := "unterminated multi-line comment"
        location := some location
        hint := some "add closing */ to terminate the comment" }

/-- The result of one step: a token with the place after it, the end of the
text, or a failure with the place where reading stopped. -/
inductive Step where
  | token (token : Token) (next : Cursor)
  | finish (place : Cursor)
  | failure (error : Error) (place : Cursor)
  deriving DecidableEq, Repr

/-- The place after the gap at a cursor. -/
def skipGap (cursor : Cursor) : Cursor :=
  cursor.skip (splitGap cursor.rest).1.length

/-- The place of a cursor in a named source. -/
def Cursor.location (filename : String) (cursor : Cursor) : Source.Location :=
  { filename, line := cursor.line, column := cursor.column }

/-- Read the next token. -/
def next (filename : String) (cursor : Cursor) : Step :=
  let place := skipGap cursor
  match place.rest with
  | [] => .finish place
  | '/' :: '*' :: rest =>
      .failure (.unterminatedComment (place.location filename)) (place.skip (rest.length + 2))
  | c :: rest =>
      match Lexeme.scan? (c :: rest) with
      | none =>
          .failure (.invalidCharacter c (place.location filename) place.currentLine) place
      | some lexeme =>
          .token
            { kind := lexeme.kind
              lexeme := String.ofList lexeme.text
              line := place.line
              wellFormed := lexeme.wellFormed }
            (place.skip lexeme.text.length)

/-- What a scan produced: its tokens, the failure that ended it if one did, and
the place where it ended. -/
structure Scan where
  tokens : List Token
  failure : Option Error
  place : Cursor
  deriving Repr

/-- Put a token before a scan. -/
def Scan.cons (token : Token) (scan : Scan) : Scan :=
  { scan with tokens := token :: scan.tokens }

/-- Skipping a gap leaves the text that follows it. -/
theorem rest_skipGap (cursor : Cursor) : (skipGap cursor).rest = (splitGap cursor.rest).2 := by
  have whole := splitGap_append cursor.rest
  rw [skipGap, Cursor.rest_skip]
  generalize splitGap cursor.rest = parts at whole ⊢
  simp [← whole]

/-- Reading a token leaves less text. -/
theorem length_rest_of_next {filename : String} {cursor after : Cursor} {token : Token}
    (step : next filename cursor = .token token after) :
    after.rest.length < cursor.rest.length := by
  have gap : (skipGap cursor).rest.length ≤ cursor.rest.length := by
    rw [skipGap, Cursor.rest_skip, List.length_drop]
    omega
  unfold next at step
  simp only at step
  split at step
  · simp at step
  · simp at step
  next c rest _ restEq =>
    split at step
    · simp at step
    next lexeme found =>
      simp only [Step.token.injEq] at step
      obtain ⟨_, rfl⟩ := step
      have nonempty := List.length_pos_iff.mpr (Lexeme.scan?_text_ne_nil found)
      rw [Cursor.rest_skip, List.length_drop]
      have := congrArg List.length restEq
      simp only [List.length_cons] at this
      omega

/-- Scan the text from a place on. -/
def scanFrom (filename : String) (cursor : Cursor) : Scan :=
  match _step : next filename cursor with
  | .token token after => (scanFrom filename after).cons token
  | .finish place =>
      { tokens := [.endOfInput place.line 0], failure := none, place }
  | .failure error place => { tokens := [], failure := some error, place }
termination_by cursor.rest.length
decreasing_by exact length_rest_of_next _step

/-- Scan a whole text whose first line has the given number. -/
def scan (source filename : String) (line : Int) : Scan :=
  scanFrom filename (.atStart source.toList line)

/-- The tokens of a text, numbered from `first` on, and the first number that
is still free.  Numbers are used up also by the tokens before a failure. -/
def tokenize (source filename : String) (line : Int) (first : Nat) :
    Except Error (List Token) × Nat :=
  let result := scan source filename line
  let free := first + result.tokens.length
  match result.failure with
  | some error => (.error error, free)
  | none => (.ok (Token.numberFrom first result.tokens), free)

end MiniC.Lexer
