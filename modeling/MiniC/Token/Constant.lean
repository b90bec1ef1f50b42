import MiniC.Number.Numeral
import MiniC.Token.Basic
import MiniC.Token.Literal

/-!
# Values of constants

Integer, floating and character constants all stand for a binary64 number.
-/

namespace MiniC

/-- What a constant token stands for: a number, nothing because its text is no
numeral, or an integer too large for the number format. -/
inductive Constant where
  | number (value : Binary64)
  | invalid
  | tooLarge
  deriving DecidableEq, Repr

namespace Constant

/-- An integer as a constant. -/
def ofInt (n : Int) : Constant :=
  let value := Binary64.ofInt n
  if value.isInfinite then .tooLarge else .number value

/-- The integer that an integer constant is written for, in base sixteen after a base
mark. -/
def integer? : (lexeme : List Char) → Option Int
  | '0' :: 'x' :: digits => Numeral.hexInteger? digits
  | '0' :: 'X' :: digits => Numeral.hexInteger? digits
  | digits => Numeral.integer? digits

/-- The value of an integer constant. -/
def ofInteger (lexeme : List Char) : Constant :=
  match integer? lexeme with
  | some n => ofInt n
  | none => .invalid

/-- The value of a floating constant. -/
def ofDouble (lexeme : List Char) : Constant :=
  match Numeral.decimal? lexeme with
  | some value => .number value
  | none => .invalid

/-- The value of a character constant: the code point of its first character,
and zero when it is empty. -/
def ofCharacter (lexeme : List Char) : Constant :=
  match Literal.decode lexeme with
  | [] => .number (.zero false)
  | c :: _ => .number (.ofNat c.toNat)

end Constant

/-- What a token stands for when it is read as a constant of its kind. -/
def Token.constant (token : Token) : Constant :=
  match token.kind with
  | .charConstant => .ofCharacter token.lexeme.toList
  | .integerConstant => .ofInteger token.lexeme.toList
  | _ => .ofDouble token.lexeme.toList

end MiniC
