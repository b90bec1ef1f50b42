import MiniC.Text.Blank
import MiniC.Token.Basic

/-!
# The line around a token

A diagnostic shows the source line of its token and the column where the token
starts.  Tokens know no columns, so the column is found by looking for the
tokens of the line one after another in the text of the line.  When the text
of the line is not known, or does not hold the tokens, the line is put together
from the tokens that stand on it.
-/

namespace MiniC.Context

/-- A line of text with the column, counted from one, that it is shown for. -/
structure View where
  text : String
  column : Nat
  deriving DecidableEq, Repr

/-- The number of characters before the first occurrence of a word in a text. -/
def indexOf? (word : List Char) : List Char → Option Nat
  | [] => if word.isEmpty then some 0 else none
  | c :: rest =>
      if word.isPrefixOf (c :: rest) then some 0
      else (indexOf? word rest).map (· + 1)

/-- Look for words one after another in a text of which `passed` characters
have been passed already, and then for a last word; the answer is the number
of characters before the last word. -/
def locate? (last : List Char) (passed : Nat) : List (List Char) → List Char → Option Nat
  | [], text => (indexOf? last text).map (passed + ·)
  | word :: words, text =>
      match indexOf? word text with
      | none => none
      | some skipped =>
          let used := skipped + word.length
          locate? last (passed + used) words (text.drop used)

/-- Tokens on one line: those directly before a token, the token itself and
those directly after it. -/
structure Run where
  before : List Token
  token : Token
  after : List Token

/-- The tokens of one line around the token at an index. -/
def run (tokens : List Token) (index : Nat) (token : Token) : Run :=
  let sameLine := fun (other : Token) => other.line = token.line
  { before := ((tokens.take index).reverse.takeWhile sameLine).reverse
    token
    after := (tokens.drop (index + 1)).takeWhile sameLine }

/-- The known text of a line; lines count from one. -/
def knownLine? (sourceLines : List String) (line : Int) : Option String :=
  if 0 < line then sourceLines[line.toNat - 1]? else none

/-- The view of a token in a known text of its line. -/
def found? (run : Run) (text : String) : Option View :=
  (locate? run.token.lexeme.toList 0 (run.before.map fun token => token.lexeme.toList)
    text.toList).map fun skipped => ⟨text, skipped + 1⟩

/-- The view of a token in its line as put together from tokens, with single
blanks between them. -/
def assembled (run : Run) : View :=
  let words := (run.before ++ run.token :: run.after).map fun token => token.lexeme.toList
  let text := [' '].intercalate words
  let skipped := run.before.foldl (fun width token => width + token.lexeme.length + 1) 0
  ⟨String.ofList (Text.trimEnd Text.isBlank text), skipped + 1⟩

/-- The view of a token. -/
def view (sourceLines : Option (List String)) (run : Run) : View :=
  let known := sourceLines.bind fun lines => knownLine? lines run.token.line
  (known.bind (found? run)).getD (assembled run)

end MiniC.Context
