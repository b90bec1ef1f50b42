import MiniC.Text.Quoted
import MiniC.Token.Kind

/-!
# Tokens

A token keeps its text verbatim, quotes and escapes included.  Its number
records the order of creation; it takes part in records and dumps, and in
nothing else.
-/

namespace MiniC

/-- A token of a source. -/
structure Token where
  kind : Kind
  lexeme : String
  line : Int
  /-- False for a literal that was not terminated. -/
  wellFormed : Bool := true
  /-- The order of creation. -/
  number : Int := 0
  deriving DecidableEq, Repr, Inhabited

namespace Token

/-- The mark that ends a stream whose last line is `line`. -/
def endOfInput (line : Int) (number : Int) : Token :=
  { kind := .endOfInput, lexeme := "", line, number }

/-- Whether a token is a word that specifies a type. -/
def isTypeSpecifier (token : Token) : Bool :=
  token.kind.isTypeSpecifier

/-- Whether two tokens are the same up to their numbers. -/
def agrees (first second : Token) : Bool :=
  first.kind = second.kind && first.lexeme = second.lexeme && first.line = second.line &&
    first.wellFormed = second.wellFormed

/-- How diagnostics refer to a token. -/
def describe (token : Token) : String :=
  if token.kind = .endOfInput then "end of input" else s!"'{token.lexeme}'"

/-- A token for inspection. -/
def inspect (token : Token) : String :=
  let flag := if token.wellFormed then "" else ", ill-formed"
  s!"Token(#{token.number} {token.kind.name}, {Text.quoted token.lexeme}, " ++
    s!"line {token.line}{flag})"

/-- Number tokens in order, from a first number on. -/
def numberFrom (first : Nat) : List Token → List Token
  | [] => []
  | token :: rest => { token with number := first } :: numberFrom (first + 1) rest

@[simp]
theorem length_numberFrom (first : Nat) (tokens : List Token) :
    (numberFrom first tokens).length = tokens.length := by
  induction tokens generalizing first with
  | nil => rfl
  | cons token rest induction => simp [numberFrom, induction]

end Token

end MiniC
