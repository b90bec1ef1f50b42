import Mathlib.Data.List.Basic
import Mathlib.Data.List.TakeWhile
import MiniC.Proofs.WrittenInteger

/-!
# Digits without a place value

A character may read as a digit although it has no place value; no numeral can be made of
it.  So digits, with or without a point among them, are a numeral exactly if each of them
has a place value, and an integer only if there are not too many of them.
-/

namespace MiniC

namespace Text

/-- Whether a character reads as a digit but has no place value. -/
def isValueless (c : Char) : Bool :=
  isDigitChar c && (decimalValue? c).isNone

/-- A decimal digit is written in the basic script; any other character stays. -/
def basicDigit (c : Char) : Char :=
  match decimalValue? c with
  | some value => Nat.digitChar value
  | none => c

/-- The code points of the blanks that may surround a numeral. -/
def numeralBlankCodes : List Nat :=
  List.range' 0x09 5 ++ [0x20, 0x85, 0xa0, 0x1680] ++ List.range' 0x2000 11 ++
    [0x2028, 0x2029, 0x202f, 0x205f, 0x3000]

theorem mem_numeralBlankCodes {c : Char} (blank : isNumeralBlank c = true) :
    c.toNat ∈ numeralBlankCodes := by
  simp only [isNumeralBlank, isBlank, Bool.and_eq_true, Bool.or_eq_true, Bool.not_eq_true',
    Bool.and_eq_false_iff, decide_eq_true_eq, decide_eq_false_iff_not, beq_iff_eq] at blank
  simp only [numeralBlankCodes, List.mem_append, List.mem_cons, List.not_mem_nil, or_false,
    List.mem_range'_1]
  omega

/-- No character that reads as a digit may surround a numeral. -/
theorem not_isNumeralBlank_of_digit {c : Char} (digit : isDigitChar c = true) :
    isNumeralBlank c = false := by
  have outside : ∀ code ∈ numeralBlankCodes, isDigitChar (Char.ofNat code) = false := by
    decide +kernel
  cases blank : isNumeralBlank c with
  | false => rfl
  | true =>
      have none := outside c.toNat (mem_numeralBlankCodes blank)
      rw [Char.ofNat_toNat, digit] at none
      cases none

theorem decimalValue?_lt {c : Char} {value : Nat} (found : decimalValue? c = some value) :
    value < 10 := by
  unfold decimalValue? at found
  split at found
  next digit =>
    obtain ⟨-, high⟩ := Char.isDigit_iff_toNat.1 digit
    have nine : '9'.toNat = 57 := rfl
    have zero : '0'.toNat = 48 := rfl
    cases found
    omega
  next =>
    split at found
    · cases found
    · obtain ⟨first, script, rfl⟩ := Option.map_eq_some_iff.1 found
      have range := List.find?_some script
      simp only [Bool.and_eq_true, decide_eq_true_eq] at range
      omega

theorem isDigit_basicDigit (c : Char) :
    (basicDigit c).isDigit = (decimalValue? c).isSome := by
  unfold basicDigit
  cases found : decimalValue? c with
  | some value =>
      have each : ∀ value < 10, (Nat.digitChar value).isDigit = true := by decide
      exact each value (decimalValue?_lt found)
  | none =>
      simp only [Option.isSome_none]
      cases digit : c.isDigit with
      | false => rfl
      | true => simp [decimalValue?, digit] at found

theorem basicDigit_of_not_digit {c : Char} (notDigit : isDigitChar c = false) :
    basicDigit c = c := by
  have none : decimalValue? c = none := by
    simp only [isDigitChar, Bool.or_eq_false_iff] at notDigit
    simpa using notDigit.1
  simp [basicDigit, none]

theorem basicDigit_ne {c other : Char} (digit : isDigitChar c = true)
    (notDigit : isDigitChar other = false) : basicDigit c ≠ other := by
  intro same
  cases found : decimalValue? c with
  | some value =>
      have each : ∀ value < 10, isDigitChar (Nat.digitChar value) = true := by decide
      have digitAgain := each value (decimalValue?_lt found)
      simp only [basicDigit, found] at same
      rw [same, notDigit] at digitAgain
      cases digitAgain
  | none =>
      simp only [basicDigit, found] at same
      rw [same, notDigit] at digit
      cases digit

theorem not_isValueless_of_basic {c : Char} (basic : c.toNat < 0x80) : isValueless c = false := by
  cases found : decimalValue? c with
  | some value => simp [isValueless, found]
  | none =>
      simp only [isValueless, isDigitChar, found, otherDigitRanges, List.any_cons, List.any_nil,
        Option.isSome_none, Option.isNone_none, Bool.and_true, Bool.false_or, Bool.or_false,
        Bool.or_eq_false_iff, Bool.and_eq_false_iff, decide_eq_false_iff_not]
      omega

theorem toNat_lt_of_isHexDigit {c : Char} (digit : isHexDigit c = true) : c.toNat < 0x80 := by
  simp only [isHexDigit, hexValue?] at digit
  split at digit
  next basic =>
    have := Char.isDigit_iff_toNat.1 basic
    have nine : '9'.toNat = 57 := rfl
    omega
  next =>
    split at digit
    next lower => exact Nat.lt_of_le_of_lt lower.2 (by decide)
    next =>
      split at digit
      next upper => exact Nat.lt_of_le_of_lt upper.2 (by decide)
      next => cases digit

theorem basicDigit_of_isHexDigit {c : Char} (digit : isHexDigit c = true) : basicDigit c = c := by
  have each : ∀ code < 0x80, isHexDigit (Char.ofNat code) = true →
      basicDigit (Char.ofNat code) = Char.ofNat code := by
    decide +kernel
  have same := each c.toNat (toNat_lt_of_isHexDigit digit)
  rw [Char.ofNat_toNat] at same
  exact same digit

theorem not_isNumeralBlank_of_hex {c : Char} (digit : isHexDigit c = true) :
    isNumeralBlank c = false := by
  have each : ∀ code < 0x80, isHexDigit (Char.ofNat code) = true →
      isNumeralBlank (Char.ofNat code) = false := by
    decide +kernel
  have outside := each c.toNat (toNat_lt_of_isHexDigit digit)
  rw [Char.ofNat_toNat] at outside
  exact outside digit

end Text

namespace Numeral

open Text (isDigitChar isValueless basicDigit decimalValue? isHexDigit)

/-! ## Numerals without blanks -/

theorem plain_of_unblank {text : List Char}
    (unblank : ∀ c ∈ text, Text.isNumeralBlank c = false) : plain text = text.map basicDigit := by
  rw [plain, Text.trim_of_forall unblank]
  rfl

theorem splitSign_of_unsigned {text : List Char} (unsigned : ∀ c ∈ text.head?, c ≠ '-' ∧ c ≠ '+') :
    splitSign text = (false, text) := by
  unfold splitSign
  split
  · simp at unsigned
  · simp at unsigned
  · rfl

theorem dropHexMark_of_unmarked {text : List Char} (unmarked : ∀ c ∈ text, c ≠ 'x' ∧ c ≠ 'X') :
    dropHexMark text = text := by
  unfold dropHexMark
  split
  · simp at unmarked
  · simp at unmarked
  · simp at unmarked
  · simp at unmarked
  · rfl

theorem digitRun_eq_none {isDigit : Char → Bool} {text : List Char}
    (broken : ∃ c ∈ text, isDigit c = false ∧ c ≠ '_') : digitRun isDigit text = none := by
  fun_induction digitRun isDigit text with
  | case1 => rfl
  | case2 c digit =>
      obtain ⟨other, member, notDigit, -⟩ := broken
      obtain rfl := List.mem_singleton.1 member
      rw [digit] at notDigit
      cases notDigit
  | case3 => rfl
  | case4 c rest digit induction =>
      rw [induction, Option.map_none]
      obtain ⟨other, member, notDigit, ordinary⟩ := broken
      simp only [List.mem_cons] at member
      rcases member with rfl | rfl | later
      · rw [digit] at notDigit
        cases notDigit
      · exact absurd rfl ordinary
      · exact ⟨other, later, notDigit, ordinary⟩
  | case5 => rfl
  | case6 c rest _ _ digit induction =>
      rw [induction, Option.map_none]
      obtain ⟨other, member, notDigit, ordinary⟩ := broken
      rcases List.mem_cons.1 member with rfl | later
      · rw [digit] at notDigit
        cases notDigit
      · exact ⟨other, later, notDigit, ordinary⟩
  | case7 => rfl

section Digits

variable {digits : List Char} (each : ∀ c ∈ digits, isDigitChar c = true)

include each

/-- Digits in the basic script are a run exactly if all of them have a place value. -/
theorem digitRun_basic (some : digits ≠ []) :
    digitRun Char.isDigit (digits.map basicDigit) =
      if digits.any isValueless = true then none else .some (digits.map basicDigit) := by
  have valueless (c : Char) (member : c ∈ digits) :
      isValueless c = true ↔ (basicDigit c).isDigit = false := by
    simp [isValueless, each c member, Text.isDigit_basicDigit]
  split
  next found =>
    obtain ⟨c, member, noValue⟩ := List.any_eq_true.1 found
    refine digitRun_eq_none ⟨basicDigit c, List.mem_map_of_mem member, ?_, ?_⟩
    · exact (valueless c member).1 noValue
    · exact Text.basicDigit_ne (each c member) (by decide)
  next readable =>
    refine digitRun_of_forall (by decide) (by simpa using some) ?_
    intro other member
    obtain ⟨c, inside, rfl⟩ := List.mem_map.1 member
    cases digit : (basicDigit c).isDigit with
    | true => rfl
    | false =>
        exact absurd (List.any_eq_true.2 ⟨c, inside, (valueless c inside).2 digit⟩) readable

theorem splitSign_basic : splitSign (digits.map basicDigit) = (false, digits.map basicDigit) := by
  refine splitSign_of_unsigned fun c first => ?_
  obtain ⟨digit, inside, rfl⟩ := List.mem_map.1 (List.mem_of_mem_head? first)
  have digitChar := each digit inside
  exact ⟨Text.basicDigit_ne digitChar (by decide), Text.basicDigit_ne digitChar (by decide)⟩

/-- Digits are an integer unless one of them has no place value or there are too many. -/
theorem integer?_eq_none_iff (some : digits ≠ []) :
    integer? digits = none ↔
      (∃ c ∈ digits, isValueless c = true) ∨ maxDecimalDigits < digits.length := by
  have unblank (c : Char) (member : c ∈ digits) := Text.not_isNumeralBlank_of_digit (each c member)
  rw [← List.any_eq_true]
  simp only [integer?, plain_of_unblank unblank, splitSign_basic each, digitRun_basic each some]
  by_cases broken : digits.any isValueless = true
  · rw [if_pos broken]
    simp only [broken, true_or]
  · rw [if_neg broken]
    simp only [broken, false_or, List.length_map, ite_eq_left_iff, reduceCtorEq, imp_false,
      Nat.not_lt, Nat.not_le]

end Digits

/-! ## Fractions -/

/-- Whether a character may stand among the digits of a fraction. -/
def isMantissa (c : Char) : Bool :=
  c.isDigit || c = '_'

/-- A fraction from its parts: the digits before and after the point, and the exponent. -/
def assembled? (whole part rest : List Char) : Option Fraction := do
  let whole ← optionalRun whole
  let part ← optionalRun part
  let exponent ← exponent? rest
  if whole.isEmpty && part.isEmpty then none
  else some ⟨whole, part, exponent⟩

theorem fraction?_pointed {text rest : List Char} (cut : text.dropWhile isMantissa = '.' :: rest) :
    fraction? text =
      assembled? (text.takeWhile isMantissa) (rest.takeWhile isMantissa)
        (rest.dropWhile isMantissa) := by
  have cutSame : text.dropWhile (fun c => c.isDigit || decide (c = '_')) = '.' :: rest := cut
  simp only [fraction?, cutSame]
  rfl

theorem fraction?_pointless {text rest : List Char} {c : Char}
    (cut : text.dropWhile isMantissa = c :: rest) (noPoint : c ≠ '.') :
    fraction? text = assembled? (text.takeWhile isMantissa) [] (c :: rest) := by
  have cutSame : text.dropWhile (fun c => c.isDigit || decide (c = '_')) = c :: rest := cut
  simp only [fraction?, cutSame]
  split
  next point => exact absurd (List.cons.inj point).1 noPoint
  next => rfl

/-- No fraction goes on with something that is no exponent. -/
theorem assembled?_eq_none {whole part rest : List Char} (none : exponent? rest = none) :
    assembled? whole part rest = .none := by
  unfold assembled?
  cases optionalRun whole with
  | none => rfl
  | some whole =>
      cases optionalRun part with
      | none => rfl
      | some part =>
          rw [none]
          rfl

theorem assembled?_isSome {whole part : List Char} (some : whole ≠ [])
    (wholeDigits : ∀ c ∈ whole, c.isDigit = true) (partDigits : ∀ c ∈ part, c.isDigit = true) :
    assembled? whole part [] = .some ⟨whole, part, 0⟩ := by
  have wholeRun : optionalRun whole = .some whole := by
    rw [optionalRun, if_neg (by simpa using some), digitRun_of_forall (by decide) some wholeDigits]
  have partRun : optionalRun part = .some part := by
    unfold optionalRun
    split
    next empty => rw [List.isEmpty_iff.1 empty]
    next filled => exact digitRun_of_forall (by decide) (by simpa using filled) partDigits
  simp [assembled?, wholeRun, partRun, exponent?, some]

/-- A digit is written as a digit of the basic script, unless it has no place value. -/
theorem isDigit_basicDigit_of_digit {c : Char} (digit : isDigitChar c = true) :
    (basicDigit c).isDigit = !isValueless c := by
  simp [isValueless, digit, Text.isDigit_basicDigit]

/-- A digit without a place value cuts digits off, and no exponent begins with it. -/
theorem dropWhile_basic {digits : List Char} (each : ∀ c ∈ digits, isDigitChar c = true)
    (broken : ∃ c ∈ digits, isValueless c = true) :
    ∃ c rest, (digits.map basicDigit).dropWhile isMantissa = c :: rest ∧ c ≠ '.' ∧
      ∀ more, exponent? (c :: more) = none := by
  induction digits with
  | nil =>
      obtain ⟨c, member, -⟩ := broken
      cases member
  | cons c rest induction =>
      obtain ⟨digit, others⟩ := List.forall_mem_cons.1 each
      have kept : isMantissa (basicDigit c) = !isValueless c := by
        have ordinary := Text.basicDigit_ne digit (by decide : isDigitChar '_' = false)
        simp [isMantissa, ordinary, isDigit_basicDigit_of_digit digit]
      cases noValue : isValueless c with
      | true =>
          refine ⟨basicDigit c, rest.map basicDigit, ?_,
            Text.basicDigit_ne digit (by decide), fun more => ?_⟩
          · rw [List.map_cons, List.dropWhile_cons_of_neg (by simp [kept, noValue])]
          · have lower := Text.basicDigit_ne digit (by decide : isDigitChar 'e' = false)
            have upper := Text.basicDigit_ne digit (by decide : isDigitChar 'E' = false)
            simp [exponent?, lower, upper]
      | false =>
          rw [List.map_cons, List.dropWhile_cons_of_pos (by simp [kept, noValue])]
          refine induction others ?_
          obtain ⟨other, member, valueless⟩ := broken
          rcases List.mem_cons.1 member with rfl | later
          · rw [noValue] at valueless
            cases valueless
          · exact ⟨other, later, valueless⟩

theorem basic_of_readable {digits : List Char} (each : ∀ c ∈ digits, isDigitChar c = true)
    (readable : ¬ ∃ c ∈ digits, isValueless c = true) :
    ∀ c ∈ digits.map basicDigit, c.isDigit = true ∧ isMantissa c = true := by
  intro other member
  obtain ⟨c, inside, rfl⟩ := List.mem_map.1 member
  have digit : (basicDigit c).isDigit = true := by
    rw [isDigit_basicDigit_of_digit (each c inside), Bool.not_eq_true']
    exact Bool.eq_false_iff.2 fun valueless => readable ⟨c, inside, valueless⟩
  exact ⟨digit, by simp [isMantissa, digit]⟩

theorem fraction?_eq_none_iff {whole part : List Char} (some : whole ≠ [])
    (eachWhole : ∀ c ∈ whole, isDigitChar c = true) (eachPart : ∀ c ∈ part, isDigitChar c = true) :
    fraction? (whole.map basicDigit ++ '.' :: part.map basicDigit) = none ↔
      ∃ c ∈ whole ++ '.' :: part, isValueless c = true := by
  have point : isMantissa '.' = false := by decide
  have pointValue : isValueless '.' = false := by decide
  simp only [List.mem_append, List.mem_cons, or_and_right, exists_or, exists_eq_left, pointValue,
    Bool.false_eq_true, false_or]
  by_cases wholeBroken : ∃ c ∈ whole, isValueless c = true
  · obtain ⟨c, rest, cut, noPoint, noExponent⟩ := dropWhile_basic eachWhole wholeBroken
    have cutText : (whole.map basicDigit ++ '.' :: part.map basicDigit).dropWhile isMantissa =
        c :: (rest ++ '.' :: part.map basicDigit) := by
      simp [List.dropWhile_append, cut]
    rw [fraction?_pointless cutText noPoint, assembled?_eq_none (noExponent _)]
    simp only [wholeBroken, true_or]
  · have kept := basic_of_readable eachWhole wholeBroken
    have inside : ∀ c ∈ whole.map basicDigit, isMantissa c = true := fun c member =>
      (kept c member).2
    have taken : (whole.map basicDigit ++ '.' :: part.map basicDigit).takeWhile isMantissa =
        whole.map basicDigit := by
      rw [List.takeWhile_append_of_pos inside, List.takeWhile_cons_of_neg (by simp [point]),
        List.append_nil]
    have cut : (whole.map basicDigit ++ '.' :: part.map basicDigit).dropWhile isMantissa =
        '.' :: part.map basicDigit := by
      rw [List.dropWhile_append_of_pos inside, List.dropWhile_cons_of_neg (by simp [point])]
    rw [fraction?_pointed cut, taken]
    by_cases partBroken : ∃ c ∈ part, isValueless c = true
    · obtain ⟨c, rest, cutPart, -, noExponent⟩ := dropWhile_basic eachPart partBroken
      rw [cutPart, assembled?_eq_none (noExponent _)]
      simp only [partBroken, or_true]
    · have keptPart := basic_of_readable eachPart partBroken
      have insidePart : ∀ c ∈ part.map basicDigit, isMantissa c = true := fun c member =>
        (keptPart c member).2
      have takenPart : (part.map basicDigit).takeWhile isMantissa = part.map basicDigit :=
        List.takeWhile_eq_self_iff.2 insidePart
      have cutPart : (part.map basicDigit).dropWhile isMantissa = [] :=
        List.dropWhile_eq_nil_iff.2 insidePart
      rw [takenPart, cutPart, assembled?_isSome (by simpa using some) (fun c member =>
        (kept c member).1) fun c member => (keptPart c member).1]
      simp only [wholeBroken, partBroken, or_self, reduceCtorEq]

/-- Digits around a point are a decimal numeral unless one of them has no place value. -/
theorem decimal?_eq_none_iff {whole part : List Char} (some : whole ≠ [])
    (eachWhole : ∀ c ∈ whole, isDigitChar c = true) (eachPart : ∀ c ∈ part, isDigitChar c = true) :
    decimal? (whole ++ '.' :: part) = none ↔
      ∃ c ∈ whole ++ '.' :: part, isValueless c = true := by
  have unblank : ∀ c ∈ whole ++ '.' :: part, Text.isNumeralBlank c = false := by
    simp only [List.forall_mem_append, List.forall_mem_cons]
    exact ⟨fun c member => Text.not_isNumeralBlank_of_digit (eachWhole c member), by decide,
      fun c member => Text.not_isNumeralBlank_of_digit (eachPart c member)⟩
  have point : basicDigit '.' = '.' := Text.basicDigit_of_not_digit (by decide)
  have signless : splitSign (whole.map basicDigit ++ '.' :: part.map basicDigit) =
      (false, whole.map basicDigit ++ '.' :: part.map basicDigit) := by
    refine splitSign_of_unsigned fun c first => ?_
    rw [List.head?_append_of_ne_nil _ (by simpa using some)] at first
    obtain ⟨digit, inside, rfl⟩ := List.mem_map.1 (List.mem_of_mem_head? first)
    have digitChar := eachWhole digit inside
    exact ⟨Text.basicDigit_ne digitChar (by decide), Text.basicDigit_ne digitChar (by decide)⟩
  have parts : splitSign (plain (whole ++ '.' :: part)) =
      (false, whole.map basicDigit ++ '.' :: part.map basicDigit) := by
    rw [plain_of_unblank unblank, List.map_append, List.map_cons, point, signless]
  -- the names of the infinities and of what is not a number hold no point
  have unnamed (name : List Char) (noPoint : '.' ∉ name) :
      (whole.map basicDigit ++ '.' :: part.map basicDigit).map Char.toLower ≠ name := by
    rintro rfl
    exact noPoint (List.mem_map.2 ⟨'.', by simp, by decide⟩)
  have notInfinite := not_or.2 ⟨unnamed ['i', 'n', 'f'] (by decide),
    unnamed ['i', 'n', 'f', 'i', 'n', 'i', 't', 'y'] (by decide)⟩
  have notNan := unnamed ['n', 'a', 'n'] (by decide)
  simp only [decimal?, parts]
  rw [if_neg notInfinite, if_neg notNan, Option.map_eq_none_iff,
    fraction?_eq_none_iff some eachWhole eachPart]

theorem hexInteger?_isSome {digits : List Char} (some : digits ≠ [])
    (each : ∀ c ∈ digits, isHexDigit c = true) : (hexInteger? digits).isSome = true := by
  have unblank (c : Char) (member : c ∈ digits) : Text.isNumeralBlank c = false :=
    Text.not_isNumeralBlank_of_hex (each c member)
  have same : digits.map basicDigit = digits :=
    (List.map_congr_left fun c member => Text.basicDigit_of_isHexDigit (each c member)).trans
      (List.map_id _)
  have notHex {c other : Char} (member : c ∈ digits) (outside : isHexDigit other = false) :
      c ≠ other := by
    rintro rfl
    rw [each c member] at outside
    cases outside
  have unsigned : splitSign digits = (false, digits) :=
    splitSign_of_unsigned fun c first =>
      have inside := List.mem_of_mem_head? first
      ⟨notHex inside (by decide), notHex inside (by decide)⟩
  have unmarked : dropHexMark digits = digits :=
    dropHexMark_of_unmarked fun c member =>
      ⟨notHex member (by decide), notHex member (by decide)⟩
  simp only [hexInteger?, plain_of_unblank unblank, same, unsigned, unmarked,
    digitRun_of_forall (by decide : isHexDigit '_' = false) some each, Option.map_some,
    Option.isSome_some]

end Numeral

end MiniC
