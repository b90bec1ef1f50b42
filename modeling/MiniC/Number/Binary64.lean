/-!
# The binary64 number format

A finite value is a sign, a significand below `2 ^ 53` and a power of two.
All arithmetic on the way to a value is exact, on natural numbers; the only
rounding is the last step, to the nearest value with ties to the even
significand.
-/

namespace MiniC

/-- A number of the binary64 format.  A finite number is
`significand * 2 ^ exponent` with its sign; zero is signed too. -/
inductive Binary64 where
  | finite (negative : Bool) (significand : Nat) (exponent : Int)
  | infinite (negative : Bool)
  | notANumber
  deriving DecidableEq, Repr, Inhabited

namespace Binary64

/-- Significands have at most this many bits. -/
def precision : Nat := 53

/-- The exponent of the smallest positive value. -/
def minExponent : Int := -1074

/-- The exponent of the largest finite value. -/
def maxExponent : Int := 971

/-- Zero with a sign. -/
def zero (negative : Bool) : Binary64 :=
  .finite negative 0 minExponent

/-- The quotient of two natural numbers, rounded to the nearest whole number
with ties to the even one. -/
def divRoundEven (numerator denominator : Nat) : Nat :=
  let quotient := numerator / denominator
  let twice := 2 * (numerator % denominator)
  if twice < denominator then quotient
  else if denominator < twice then quotient + 1
  else if quotient % 2 = 0 then quotient
  else quotient + 1

/-- The ratio of two natural numbers in units of `2 ^ exponent`, as a fraction. -/
def scaled (numerator denominator : Nat) (exponent : Int) : Nat × Nat :=
  match exponent with
  | .ofNat n => (numerator, denominator * Nat.pow 2 n)
  | .negSucc n => (numerator * Nat.pow 2 (n + 1), denominator)

/-- The exponent at which the significand of a positive ratio has full
precision, or the least exponent for ratios too small for that. -/
def ratioExponent (numerator denominator : Nat) : Int :=
  let guess : Int := (numerator.log2 : Int) - denominator.log2 - (precision - 1)
  let (scaledNumerator, scaledDenominator) := scaled numerator denominator guess
  let fitted :=
    if scaledNumerator < scaledDenominator * Nat.pow 2 (precision - 1) then guess - 1
    else guess
  max fitted minExponent

/-- A significand that may have been rounded up to `2 ^ precision`, brought
back to the format; values beyond the largest finite one are infinite. -/
def normalize (negative : Bool) (significand : Nat) (exponent : Int) : Binary64 :=
  let (significand, exponent) :=
    if significand = Nat.pow 2 precision then (Nat.pow 2 (precision - 1), exponent + 1)
    else (significand, exponent)
  if maxExponent < exponent then .infinite negative
  else .finite negative significand exponent

/-- The number nearest to a ratio of natural numbers with a sign. -/
def ofRatio (negative : Bool) (numerator denominator : Nat) : Binary64 :=
  if numerator = 0 then
    zero negative
  else
    let exponent := ratioExponent numerator denominator
    let ratio := scaled numerator denominator exponent
    normalize negative (divRoundEven ratio.1 ratio.2) exponent

/-- The number nearest to a natural number. -/
def ofNat (n : Nat) : Binary64 :=
  ofRatio false n 1

/-- The number nearest to an integer, which is infinite when the integer is
too large for the format. -/
def ofInt (n : Int) : Binary64 :=
  ofRatio (n < 0) n.natAbs 1

/-- Whether a number is beyond the finite ones. -/
def isInfinite : Binary64 → Bool
  | .infinite _ => true
  | _ => false

/-- Numeric equality: the two zeros are equal, and what is not a number equals
nothing. -/
def numericEq : Binary64 → Binary64 → Bool
  | .notANumber, _ => false
  | _, .notANumber => false
  | .finite _ 0 _, .finite _ 0 _ => true
  | first, second => first = second

end Binary64

end MiniC
