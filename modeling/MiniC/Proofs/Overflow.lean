import MiniC.Token.Constant
import Mathlib.Algebra.Group.Nat.Defs

/-!
# Integers too large for the number format

An integer is too large for the number format exactly when, rounded to the
precision of the format, its magnitude is `2 ^ 1024` or more.  Half-way between
the largest finite number and `2 ^ 1024` the even neighbour is the latter.
-/

namespace MiniC

namespace Binary64

/-- The least magnitude that rounds to `2 ^ 1024`. -/
def overflowBound : Nat := 2 ^ 1024 - 2 ^ 970

theorem isInfinite_normalize (negative : Bool) (significand : Nat) (exponent : Int) :
    (normalize negative significand exponent).isInfinite = true ↔
      maxExponent < exponent ∨ (significand = 2 ^ precision ∧ exponent = maxExponent) := by
  unfold normalize
  by_cases carried : significand = Nat.pow 2 precision
  · simp only [carried, if_true]
    have same : Nat.pow 2 precision = 2 ^ precision := rfl
    by_cases large : maxExponent < exponent + 1
    · rw [if_pos large]
      simp only [isInfinite, same, true_and, true_iff]
      omega
    · rw [if_neg large]
      simp only [isInfinite, same, true_and, Bool.false_eq_true, false_iff]
      omega
  · simp only [carried, if_false]
    have other : ¬ significand = 2 ^ precision := carried
    by_cases large : maxExponent < exponent
    · simp [large, isInfinite]
    · simp [large, isInfinite, other]

theorem divRoundEven_le (numerator denominator : Nat) :
    divRoundEven numerator denominator ≤ numerator / denominator + 1 := by
  unfold divRoundEven
  dsimp only
  split
  · omega
  · split
    · omega
    · split <;> omega

/-- A quotient below an even number rounds up to it from half a unit before it on. -/
theorem divRoundEven_eq_top {numerator half top : Nat} (positive : 0 < half)
    (even : top % 2 = 0) (below : numerator < top * (2 * half)) :
    divRoundEven numerator (2 * half) = top ↔ top * (2 * half) - half ≤ numerator := by
  have quotientLt : numerator / (2 * half) < top :=
    (Nat.div_lt_iff_lt_mul (by omega)).mpr below
  have division := Nat.div_add_mod numerator (2 * half)
  have remainder := Nat.mod_lt numerator (show 2 * half > 0 by omega)
  generalize quotientEq : numerator / (2 * half) = quotient at *
  by_cases last : quotient + 1 = top
  · have topEq : top * (2 * half) = 2 * half * quotient + 2 * half := by
      rw [← last, Nat.add_mul, Nat.mul_comm quotient, Nat.one_mul]
    have odd : quotient % 2 = 1 := by omega
    unfold divRoundEven
    simp only [quotientEq]
    split
    · constructor <;> intro <;> omega
    · split
      · constructor <;> intro <;> omega
      · rw [if_neg (by omega)]
        constructor <;> intro <;> omega
  · have bound : divRoundEven numerator (2 * half) ≤ quotient + 1 := by
      rw [← quotientEq]
      exact divRoundEven_le _ _
    have room : 2 * half * (quotient + 2) ≤ 2 * half * top :=
      Nat.mul_le_mul_left _ (by omega)
    have topEq : top * (2 * half) = 2 * half * top := Nat.mul_comm _ _
    have spread : 2 * half * (quotient + 2) = 2 * half * quotient + 2 * half + 2 * half := by
      rw [Nat.mul_add]
      omega
    constructor
    · intro same
      omega
    · intro reached
      omega

theorem ratioExponent_le (numerator : Nat) :
    ratioExponent numerator 1 ≤ max ((numerator.log2 : Int) - 52) minExponent := by
  have one : Nat.log2 1 = 0 := rfl
  unfold ratioExponent
  simp only [one, precision]
  split <;> omega

/-- From `2 ^ 52` on the exponent of an integer is that of its leading bit. -/
theorem ratioExponent_eq {numerator places : Nat} (positive : numerator ≠ 0)
    (leading : numerator.log2 = 52 + places) : ratioExponent numerator 1 = places := by
  have one : Nat.log2 1 = 0 := rfl
  have guess : (numerator.log2 : Int) - (Nat.log2 1 : Nat) - ((precision : Nat) - 1 : Int) =
      (places : Int) := by
    rw [leading, one]
    unfold precision
    omega
  have atLeast : 2 ^ numerator.log2 ≤ numerator := Nat.log2_self_le positive
  have full : ¬ numerator < 1 * Nat.pow 2 places * Nat.pow 2 (precision - 1) := by
    have product : 1 * Nat.pow 2 places * Nat.pow 2 (precision - 1) = 2 ^ numerator.log2 := by
      have places : places + (precision - 1) = numerator.log2 := by
        rw [leading, Nat.add_comm]
        rfl
      change 1 * 2 ^ _ * 2 ^ (precision - 1) = _
      rw [Nat.one_mul, ← Nat.pow_add, places]
    omega
  unfold ratioExponent
  dsimp only
  rw [guess]
  change max (if numerator < 1 * Nat.pow 2 places * Nat.pow 2 (precision - 1)
    then (places : Int) - 1 else places) minExponent = places
  rw [if_neg full]
  unfold minExponent
  omega

private theorem two_pow_split {whole first second : Nat} (sum : whole = first + second) :
    2 ^ whole = 2 ^ first * 2 ^ second := by
  rw [sum, Nat.pow_add]

theorem two_pow_unknown_pos {exponent power : Nat} (powerEq : power = 2 ^ exponent) :
    0 < power := by
  rw [powerEq]
  exact Nat.two_pow_pos exponent

theorem lt_two_pow_mul {magnitude first second power : Nat} (powerEq : power = 2 ^ second)
    (nonzero : magnitude ≠ 0) (small : magnitude.log2 < first + second) :
    magnitude < 2 ^ first * power := by
  rw [powerEq, ← Nat.pow_add]
  exact (Nat.log2_lt nonzero).mp small

theorem two_pow_mul_le {magnitude first second power : Nat} (powerEq : power = 2 ^ second)
    (nonzero : magnitude ≠ 0) (large : first + second ≤ magnitude.log2) :
    2 ^ first * power ≤ magnitude := by
  rw [powerEq, ← Nat.pow_add]
  exact (Nat.le_log2 nonzero).mp large

theorem ofRatio_eq {numerator denominator first second : Nat} {exponent : Int}
    (negative : Bool) (nonzero : numerator ≠ 0)
    (exponentEq : ratioExponent numerator denominator = exponent)
    (scaledEq : scaled numerator denominator exponent = (first, second)) :
    ofRatio negative numerator denominator =
      normalize negative (divRoundEven first second) exponent := by
  unfold ofRatio
  rw [if_neg nonzero]
  simp only [exponentEq, scaledEq]

/-- Below the leading bit of the largest finite number nothing overflows. -/
theorem isInfinite_of_small {magnitude : Nat} (negative : Bool) (nonzero : magnitude ≠ 0)
    (small : magnitude.log2 < 1023) : (ofRatio negative magnitude 1).isInfinite = false := by
  have exponentLe := ratioExponent_le magnitude
  unfold minExponent at exponentLe
  cases exponentEq : ratioExponent magnitude 1 with
  | ofNat places =>
      rw [ofRatio_eq negative nonzero exponentEq rfl, ← Bool.not_eq_true, isInfinite_normalize]
      unfold maxExponent
      rintro (large | ⟨-, large⟩) <;> omega
  | negSucc places =>
      rw [ofRatio_eq negative nonzero exponentEq rfl, ← Bool.not_eq_true, isInfinite_normalize]
      unfold maxExponent
      rintro (large | ⟨-, large⟩) <;> omega

/-- From there on the leading bit decides, and next to the bound the rounding. -/
theorem isInfinite_of_large {magnitude : Nat} (negative : Bool) (nonzero : magnitude ≠ 0)
    (large : 1023 ≤ magnitude.log2) :
    (ofRatio negative magnitude 1).isInfinite = true ↔
      1023 < magnitude.log2 ∨
        divRoundEven magnitude (2 ^ (magnitude.log2 - 52)) = 2 ^ precision := by
  have exponentEq : ratioExponent magnitude 1 = ((magnitude.log2 - 52 : Nat) : Int) :=
    ratioExponent_eq nonzero (by omega)
  have scaledEq : scaled magnitude 1 ((magnitude.log2 - 52 : Nat) : Int) =
      (magnitude, 1 * 2 ^ (magnitude.log2 - 52)) := rfl
  rw [ofRatio_eq negative nonzero exponentEq scaledEq, isInfinite_normalize, Nat.one_mul]
  unfold maxExponent
  constructor
  · rintro (further | ⟨rounded, -⟩)
    · left
      omega
    · exact .inr rounded
  · rintro (further | rounded)
    · left
      omega
    · rcases Nat.lt_or_eq_of_le large with further | leading
      · left
        omega
      · exact .inr ⟨rounded, by omega⟩

/-- With the leading bit of the largest finite number, the bound is half a unit below the next
power of two. -/
theorem isInfinite_of_leading {magnitude half : Nat} (negative : Bool)
    (halfEq : half = 2 ^ 970) (leading : magnitude.log2 = 1023) :
    (ofRatio negative magnitude 1).isInfinite = true ↔
      2 ^ 53 * (2 * half) - half ≤ magnitude := by
  have nonzero : magnitude ≠ 0 := by
    rintro rfl
    simp at leading
  have unit : 2 ^ (magnitude.log2 - 52) = 2 * half := by
    have split : 2 ^ (magnitude.log2 - 52) = 2 ^ 1 * 2 ^ 970 := two_pow_split (by omega)
    rw [split, ← halfEq, Nat.pow_one]
  have below : magnitude < 2 ^ 53 * (2 * half) := by
    rw [← unit, ← Nat.pow_add, ← Nat.log2_lt nonzero]
    omega
  have rounds : divRoundEven magnitude (2 * half) = 2 ^ 53 ↔
      2 ^ 53 * (2 * half) - half ≤ magnitude :=
    divRoundEven_eq_top (two_pow_unknown_pos halfEq) (by decide) below
  rw [isInfinite_of_large negative nonzero (Nat.le_of_eq leading.symm), unit, ← rounds]
  exact ⟨fun either => either.resolve_left (by omega), .inr⟩

theorem isInfinite_ofInt (n : Int) :
    (ofInt n).isInfinite = true ↔ overflowBound ≤ n.natAbs := by
  -- the powers are kept as one unknown, so that nothing evaluates them
  obtain ⟨half, halfEq⟩ : ∃ half, half = 2 ^ 970 := ⟨_, rfl⟩
  have boundEq : overflowBound = 2 ^ 53 * (2 * half) - half := by
    have top : 2 ^ 1024 = 2 ^ 54 * half := by
      rw [two_pow_split (show 1024 = 54 + 970 from rfl), ← halfEq]
    unfold overflowBound
    rw [top, ← halfEq]
    omega
  rw [boundEq]
  unfold ofInt
  generalize n.natAbs = magnitude
  by_cases zero : magnitude = 0
  · have finite : (ofRatio (n < 0) magnitude 1).isInfinite = false := by
      unfold ofRatio
      rw [if_pos zero]
      rfl
    rw [finite, zero]
    simp only [Bool.false_eq_true, false_iff]
    omega
  · rcases Nat.lt_trichotomy magnitude.log2 1023 with small | leading | large
    · have below : magnitude < 2 ^ 53 * half := lt_two_pow_mul halfEq zero small
      rw [isInfinite_of_small _ zero small]
      simp only [Bool.false_eq_true, false_iff]
      omega
    · exact isInfinite_of_leading _ halfEq leading
    · have reached : 2 ^ 54 * half ≤ magnitude := two_pow_mul_le halfEq zero large
      rw [isInfinite_of_large _ zero (Nat.le_of_lt large)]
      exact ⟨fun _ => by omega, fun _ => .inl large⟩

end Binary64

/-- An integer constant is too large exactly when the magnitude of the integer it is
written for rounds to `2 ^ 1024` or more. -/
theorem Constant.ofInteger_eq_tooLarge (lexeme : List Char) :
    Constant.ofInteger lexeme = .tooLarge ↔
      ∃ n, Constant.integer? lexeme = some n ∧ Binary64.overflowBound ≤ n.natAbs := by
  unfold Constant.ofInteger
  cases Constant.integer? lexeme with
  | none => simp
  | some n =>
      have overflow := Binary64.isInfinite_ofInt n
      simp only [Constant.ofInt, Option.some.injEq, exists_eq_left', ← overflow]
      cases (Binary64.ofInt n).isInfinite <;> simp

end MiniC
