import MiniC.Number.Binary64

/-!
# Shortest decimals

The decimal text of a number has the fewest digits that read back as the same
number, and among those the digits nearest to it.  A number `m * 2 ^ q` is
read back from every decimal of an interval around it, whose ends belong to it
exactly when `m` is even.
-/

namespace MiniC

/-- A positive decimal `digits * 10 ^ exponent`. -/
structure Decimal where
  digits : Nat
  exponent : Int
  deriving DecidableEq, Repr

namespace Binary64.Shortest

/-- The value and the reading interval of a positive number, as three
numerators over one denominator. -/
structure Interval where
  low : Nat
  value : Nat
  high : Nat
  denominator : Nat
  closed : Bool

/-- The interval of the decimals that read back as `significand * 2 ^ exponent`.
Below a power of two the neighbour is at half the usual distance. -/
def interval (significand : Nat) (exponent : Int) : Interval :=
  let narrow := significand = Nat.pow 2 (precision - 1) ∧ minExponent < exponent
  let up := if exponent < 0 then 1 else Nat.pow 2 exponent.toNat
  let down := if exponent < 0 then Nat.pow 2 exponent.natAbs else 1
  { low := (4 * significand - (if narrow then 1 else 2)) * up
    value := 4 * significand * up
    high := (4 * significand + 2) * up
    denominator := 4 * down
    closed := significand % 2 = 0 }

/-- Whether `numerator / denominator` reads back as the number. -/
def Interval.holds (range : Interval) (numerator denominator : Nat) : Bool :=
  let point := numerator * range.denominator
  if range.closed then
    range.low * denominator ≤ point && point ≤ range.high * denominator
  else
    range.low * denominator < point && point < range.high * denominator

/-- A power of ten as a fraction. -/
def tenPower (exponent : Int) : Nat × Nat :=
  if exponent < 0 then (1, Nat.pow 10 exponent.natAbs) else (Nat.pow 10 exponent.toNat, 1)

/-- The candidate with the grid step `10 ^ exponent`: of the two grid points
around the value, the one that reads back, the nearer of two, or the even one
of two equally near. -/
def candidate (range : Interval) (exponent : Int) : Option Nat :=
  let (up, down) := tenPower exponent
  let below := range.value * down / (range.denominator * up)
  let above := below + 1
  let belowHolds := 0 < below && range.holds (below * up) down
  let aboveHolds := range.holds (above * up) down
  match belowHolds, aboveHolds with
  | false, false => none
  | true, false => some below
  | false, true => some above
  | true, true =>
      -- Distances in units of the common denominator.
      let point := range.value * down
      let distanceBelow := point - below * up * range.denominator
      let distanceAbove := above * up * range.denominator - point
      if distanceBelow < distanceAbove then some below
      else if distanceAbove < distanceBelow then some above
      else if below % 2 = 0 then some below
      else some above

/-- The first grid with a candidate, from a coarse one towards finer ones. -/
def search (range : Interval) : (fuel : Nat) → (exponent : Int) → Decimal
  | 0, exponent => ⟨(candidate range exponent).getD 0, exponent⟩
  | fuel + 1, exponent =>
      match candidate range exponent with
      | some digits => ⟨digits, exponent⟩
      | none => search range fuel (exponent - 1)

/-- An upper bound of the decimal exponent of a positive number's leading digit. -/
def leadingExponent (significand : Nat) (exponent : Int) : Int :=
  ((significand.log2 : Int) + 1 + exponent) * 30103 / 100000 + 1

/-- The shortest decimal of a positive number. -/
def decimal (significand : Nat) (exponent : Int) : Decimal :=
  search (interval significand exponent) 20 (leadingExponent significand exponent)

end Binary64.Shortest

end MiniC
