import MiniC.Number.Shortest

/-!
# Decimal text of numbers

Numbers from one ten-thousandth up to ten to the sixteenth are written with a
point and at least one digit after it; others with a decimal exponent that has
a sign and at least two digits.
-/

namespace MiniC.Binary64

/-- The positions of the leading digit that are written without an exponent. -/
def writtenPositionally (leading : Int) : Bool :=
  -4 ≤ leading && leading < 16

/-- Digits with a point, for a leading digit at the given power of ten. -/
def positional (digits : List Char) (leading : Int) : List Char :=
  if leading < 0 then
    '0' :: '.' :: (List.replicate (leading.natAbs - 1) '0' ++ digits)
  else
    let whole := leading.toNat + 1
    let padded := digits ++ List.replicate (whole - digits.length) '0'
    let fraction := padded.drop whole
    padded.take whole ++ '.' :: (if fraction.isEmpty then ['0'] else fraction)

/-- Digits with a point after the first one and an exponent. -/
def scientific (digits : List Char) (leading : Int) : List Char :=
  let fraction := digits.drop 1
  let power := Nat.toDigits 10 leading.natAbs
  digits.take 1 ++ (if fraction.isEmpty then [] else '.' :: fraction) ++
    'e' :: (if leading < 0 then '-' else '+') :: (List.replicate (2 - power.length) '0' ++ power)

/-- The text of a positive decimal whose digits do not end in zero. -/
def decimalText (decimal : Decimal) : List Char :=
  let digits := Nat.toDigits 10 decimal.digits
  let leading := decimal.exponent + digits.length - 1
  let significant := (digits.reverse.dropWhile (· = '0')).reverse
  if writtenPositionally leading then positional significant leading
  else scientific significant leading

/-- The text of a number: the fewest digits that read back. -/
def text : Binary64 → String
  | .notANumber => "nan"
  | .infinite negative => if negative then "-inf" else "inf"
  | .finite negative significand exponent =>
      let magnitude :=
        if significand = 0 then ['0', '.', '0']
        else decimalText (Shortest.decimal significand exponent)
      String.ofList (if negative then '-' :: magnitude else magnitude)

end MiniC.Binary64
