import MiniC.Number.Binary64
import MiniC.Text.Blank
import MiniC.Text.Digit

/-!
# Reading numerals

Integers in base ten and sixteen and decimal fractions, as free text writes
them: blanks around, a sign, digits of any script, and single underscores
between digits.
-/

namespace MiniC.Numeral

/-- An integer in base ten has at most this many digits, leading zeros included. -/
def maxDecimalDigits : Nat := 4300

/-- A numeral with its blanks removed and its digits brought to the basic script. -/
def plain (text : List Char) : List Char :=
  (Text.trim Text.isNumeralBlank text).map fun c =>
    match Text.decimalValue? c with
    | some value => Nat.digitChar value
    | none => c

/-- A leading sign, true for minus, and what follows it. -/
def splitSign : List Char → Bool × List Char
  | '-' :: rest => (true, rest)
  | '+' :: rest => (false, rest)
  | text => (false, text)

/-- Digits whose underscores stand singly between two of them, without the
underscores. -/
def digitRun (isDigit : Char → Bool) : List Char → Option (List Char)
  | [] => none
  | [c] => if isDigit c then some [c] else none
  | c :: '_' :: rest => if isDigit c then (digitRun isDigit rest).map (c :: ·) else none
  | c :: rest => if isDigit c then (digitRun isDigit rest).map (c :: ·) else none

/-- The value of digits in a base. -/
def ofDigits (base : Nat) (value? : Char → Option Nat) (digits : List Char) : Nat :=
  digits.foldl (fun value c => value * base + (value? c).getD 0) 0

/-- A number with the sign that stood before it. -/
def signed (negative : Bool) (magnitude : Nat) : Int :=
  if negative then -(magnitude : Int) else magnitude

/-- The integer that a base-ten numeral stands for. -/
def integer? (text : List Char) : Option Int :=
  let (negative, body) := splitSign (plain text)
  match digitRun Char.isDigit body with
  | none => none
  | some digits =>
      if maxDecimalDigits < digits.length then none
      else some (signed negative (ofDigits 10 Text.decimalValue? digits))

/-- What follows an optional base-sixteen mark, which may carry an underscore. -/
def dropHexMark : List Char → List Char
  | '0' :: 'x' :: '_' :: rest => rest
  | '0' :: 'X' :: '_' :: rest => rest
  | '0' :: 'x' :: rest => rest
  | '0' :: 'X' :: rest => rest
  | text => text

/-- The integer that a base-sixteen numeral stands for. -/
def hexInteger? (text : List Char) : Option Int :=
  let (negative, body) := splitSign (plain text)
  (digitRun Text.isHexDigit (dropHexMark body)).map fun digits =>
    signed negative (ofDigits 16 Text.hexValue? digits)

/-- A decimal fraction taken apart: the digits before and after the point and
the exponent. -/
structure Fraction where
  whole : List Char
  part : List Char
  exponent : Int

/-- The exponent that ends a fraction; none at all counts as zero. -/
def exponent? : List Char → Option Int
  | [] => some 0
  | mark :: rest =>
      if mark = 'e' ∨ mark = 'E' then
        let (negative, body) := splitSign rest
        (digitRun Char.isDigit body).map fun digits =>
          signed negative (ofDigits 10 Text.decimalValue? digits)
      else
        none

/-- A run of digits that may be empty. -/
def optionalRun (text : List Char) : Option (List Char) :=
  if text.isEmpty then some [] else digitRun Char.isDigit text

/-- Take apart an unsigned decimal fraction, which needs a digit before or
after the point. -/
def fraction? (text : List Char) : Option Fraction := do
  let isMantissa := fun (c : Char) => c.isDigit || c = '_'
  let (part, rest) :=
    match text.dropWhile isMantissa with
    | '.' :: rest => (rest.takeWhile isMantissa, rest.dropWhile isMantissa)
    | rest => ([], rest)
  let whole ← optionalRun (text.takeWhile isMantissa)
  let part ← optionalRun part
  let exponent ← exponent? rest
  if whole.isEmpty && part.isEmpty then none
  else some ⟨whole, part, exponent⟩

/-- Powers of ten beyond this are infinite or zero, whatever digits go with
them, once the number of digits is added. -/
def exponentBound : Int := 400

/-- The number nearest to a fraction. -/
def Fraction.toBinary64 (negative : Bool) (fraction : Fraction) : Binary64 :=
  let digits := fraction.whole ++ fraction.part
  let magnitude := ofDigits 10 Text.decimalValue? digits
  let exponent := fraction.exponent - fraction.part.length
  if magnitude = 0 then .zero negative
  else if exponentBound < exponent then .infinite negative
  else if exponent + digits.length < -exponentBound then .zero negative
  else if exponent < 0 then .ofRatio negative magnitude (Nat.pow 10 exponent.natAbs)
  else .ofRatio negative (magnitude * Nat.pow 10 exponent.toNat) 1

/-- The number that a decimal numeral stands for; the names of the infinities
and of what is not a number are read in any case. -/
def decimal? (text : List Char) : Option Binary64 :=
  let (negative, body) := splitSign (plain text)
  let name := body.map Char.toLower
  if name = ['i', 'n', 'f'] ∨ name = ['i', 'n', 'f', 'i', 'n', 'i', 't', 'y'] then
    some (.infinite negative)
  else if name = ['n', 'a', 'n'] then
    some .notANumber
  else
    (fraction? body).map (·.toBinary64 negative)

end MiniC.Numeral
