import MiniC.Number.Numeral

/-!
# Integers written and read

An integer written in base ten is read back as itself, as long as it has no
more digits than a numeral may have.
-/

namespace MiniC

namespace Text

/-- Trimming keeps a text none of whose characters satisfies the test. -/
theorem trim_of_forall {test : Char → Bool} {text : List Char}
    (none : ∀ c ∈ text, test c = false) : trim test text = text := by
  have kept (part : List Char) (still : ∀ c ∈ part, test c = false) :
      part.dropWhile test = part := by
    cases part with
    | nil => rfl
    | cons c rest => exact List.dropWhile_cons_of_neg (by simp [still c])
  rw [trim, kept text none, trimEnd, kept text.reverse (by simpa using none),
    List.reverse_reverse]

end Text

namespace Numeral

/-- Whether an integer has no more digits than a numeral may have. -/
def Fits (n : Int) : Prop :=
  (Nat.toDigits 10 n.natAbs).length ≤ maxDecimalDigits

instance (n : Int) : Decidable (Fits n) :=
  Nat.decLe _ _

/-- A smaller number has no more digits. -/
theorem length_toDigits_le {small large digits : Nat} (le : small ≤ large) (some : 0 < digits)
    (short : (Nat.toDigits 10 large).length ≤ digits) :
    (Nat.toDigits 10 small).length ≤ digits := by
  rw [Nat.length_toDigits_le_iff (by decide) some] at short ⊢
  exact Nat.lt_of_le_of_lt le short

theorem Fits.of_le {small large : Int} (le : small.natAbs ≤ large.natAbs) (fits : Fits large) :
    Fits small :=
  length_toDigits_le le (by decide) fits

/-- The sign that a written integer begins with. -/
def writtenSign (n : Int) : List Char :=
  if n < 0 then ['-'] else []

theorem toList_toString (n : Int) :
    (toString n).toList = writtenSign n ++ Nat.toDigits 10 n.natAbs := by
  cases n with
  | ofNat m => exact Nat.toList_repr
  | negSucc m =>
      change ("-" ++ Nat.repr (m + 1)).toList = _
      rw [String.toList_append, Nat.toList_repr, writtenSign, if_pos (Int.negSucc_lt_zero m)]
      rfl

/-! ## Reading digits -/

theorem exists_digitChar {c : Char} (digit : c.isDigit = true) :
    ∃ value < 10, c = Nat.digitChar value := by
  obtain ⟨low, high⟩ := Char.isDigit_iff_toNat.1 digit
  have listed : ∀ code < 58, 48 ≤ code → Char.ofNat code = Nat.digitChar (code - 48) := by
    decide
  refine ⟨c.toNat - 48, ?_, ?_⟩
  · have : '9'.toNat = 57 := rfl
    omega
  · rw [← listed c.toNat (Nat.lt_succ_of_le high) low, Char.ofNat_toNat]

/-- What holds of the ten digit characters holds of every digit of a written number. -/
theorem forall_mem_toDigits {P : Char → Prop} (digits : ∀ value < 10, P (Nat.digitChar value))
    (n : Nat) : ∀ c ∈ Nat.toDigits 10 n, P c := by
  intro c member
  obtain ⟨value, small, rfl⟩ :=
    exists_digitChar (Nat.isDigit_of_mem_toDigits (by decide) (by decide) member)
  exact digits value small

/-- What holds of the sign and of the ten digits holds of every character of a written
integer. -/
theorem forall_mem_toString {P : Char → Prop} (sign : P '-')
    (digits : ∀ value < 10, P (Nat.digitChar value)) (n : Int) :
    ∀ c ∈ (toString n).toList, P c := by
  intro c member
  rw [toList_toString, List.mem_append] at member
  rcases member with first | later
  · unfold writtenSign at first
    split at first
    · exact List.mem_singleton.1 first ▸ sign
    · cases first
  · exact forall_mem_toDigits digits n.natAbs c later

theorem plain_toString (n : Int) : plain (toString n).toList = (toString n).toList := by
  have trimmed : Text.trim Text.isNumeralBlank (toString n).toList = (toString n).toList :=
    Text.trim_of_forall (forall_mem_toString (by decide) (by decide) n)
  have kept : ∀ c ∈ (toString n).toList,
      ∀ value ∈ Text.decimalValue? c, Nat.digitChar value = c :=
    forall_mem_toString (by decide) (by decide) n
  rw [plain, trimmed]
  refine (List.map_congr_left fun c member => ?_).trans (List.map_id _)
  split
  next value found => exact kept c member value found
  next => rfl

theorem digitRun_of_forall {isDigit : Char → Bool} (underscore : isDigit '_' = false)
    {digits : List Char} (some : digits ≠ []) (all : ∀ c ∈ digits, isDigit c = true) :
    digitRun isDigit digits = .some digits := by
  induction digits with
  | nil => exact absurd rfl some
  | cons c rest ih =>
      obtain ⟨first, others⟩ := List.forall_mem_cons.1 all
      cases rest with
      | nil => simp [digitRun, first]
      | cons next more =>
          have digit := others next (by simp)
          have ordinary : next ≠ '_' := fun same => by
            rw [same, underscore] at digit
            cases digit
          rw [digitRun, if_pos first, ih (by simp) others]
          · rfl
          · exact List.cons_ne_nil next more
          · exact fun after same => ordinary (List.cons.inj same).1

theorem ofDigits_toDigits (n : Nat) :
    ofDigits 10 Text.decimalValue? (Nat.toDigits 10 n) = n := by
  have values (digits : List Char) (all : ∀ c ∈ digits, c.isDigit = true) (value : Nat) :
      digits.foldl (fun value c => value * 10 + (Text.decimalValue? c).getD 0) value =
        Nat.ofDigitChars 10 digits value := by
    induction digits generalizing value with
    | nil => rfl
    | cons c rest ih =>
        obtain ⟨first, others⟩ := List.forall_mem_cons.1 all
        rw [List.foldl_cons, ih others, Nat.ofDigitChars_cons, Nat.mul_comm]
        simp [Text.decimalValue?, first]
  rw [ofDigits, values _ fun c => Nat.isDigit_of_mem_toDigits (by decide) (by decide)]
  exact Nat.ofDigitChars_ten_toDigits

theorem splitSign_toString (n : Int) :
    splitSign (toString n).toList = (decide (n < 0), Nat.toDigits 10 n.natAbs) := by
  have unsigned : ∀ c ∈ Nat.toDigits 10 n.natAbs, c ≠ '-' ∧ c ≠ '+' :=
    forall_mem_toDigits (by decide) n.natAbs
  rw [toList_toString, writtenSign]
  split
  case isTrue negative => simp [splitSign, negative]
  case isFalse natural =>
    rw [List.nil_append]
    cases digits : Nat.toDigits 10 n.natAbs with
    | nil => exact absurd digits Nat.toDigits_ne_nil
    | cons c rest =>
        obtain ⟨notMinus, notPlus⟩ := unsigned c (by simp [digits])
        rw [splitSign]
        · simp [natural]
        · exact fun after same => notMinus (List.cons.inj same).1
        · exact fun after same => notPlus (List.cons.inj same).1

theorem signed_natAbs (n : Int) : signed (decide (n < 0)) n.natAbs = n := by
  unfold signed
  split
  case isTrue negative =>
    have below := of_decide_eq_true negative
    omega
  case isFalse natural =>
    have above : ¬ n < 0 := fun negative => natural (decide_eq_true negative)
    omega

/-- A written integer is read as itself if it is not too long, and else not at all. -/
theorem integer?_toString (n : Int) :
    integer? (toString n).toList = if Fits n then some n else none := by
  have run : digitRun Char.isDigit (Nat.toDigits 10 n.natAbs) = some (Nat.toDigits 10 n.natAbs) :=
    digitRun_of_forall (by decide) Nat.toDigits_ne_nil fun c =>
      Nat.isDigit_of_mem_toDigits (by decide) (by decide)
  simp only [integer?, plain_toString, splitSign_toString, run, ofDigits_toDigits, signed_natAbs]
  by_cases fits : Fits n
  · rw [if_pos fits, if_neg (Nat.not_lt.2 fits)]
  · rw [if_neg fits, if_pos (Nat.not_le.1 fits)]

end Numeral

end MiniC
