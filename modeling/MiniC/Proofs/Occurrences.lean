import Mathlib.Data.List.Forall2
import MiniC.Diagnostic.Context

/-!
# Words found in turn

A line is searched for the tokens on it, each behind the one before it.  The search takes
the first occurrence every time.  It succeeds whenever the words stand in the text one
behind another at all, and then no other way to place them puts any word earlier.
-/

namespace MiniC.Context

/-- A word stands in a text behind a number of characters. -/
def Occurs (word text : List Char) (start : Nat) : Prop :=
  start ≤ text.length ∧ word <+: text.drop start

instance (word text : List Char) (start : Nat) : Decidable (Occurs word text start) :=
  inferInstanceAs (Decidable (_ ∧ _))

/-- The first occurrence of a word that does not start before a place in the text. -/
structure FirstFrom (text : List Char) (passed : Nat) (word : List Char) (start : Nat) : Prop where
  reached : passed ≤ start
  occurs : Occurs word text start
  earliest : ∀ other, passed ≤ other → other < start → ¬ Occurs word text other

/-- Words that stand in a text one behind another, from a place on. -/
inductive Spread (text : List Char) : Nat → List (List Char) → List Nat → Prop
  | done {passed : Nat} : Spread text passed [] []
  | next {passed start : Nat} {word : List Char} {words : List (List Char)} {starts : List Nat}
      (reached : passed ≤ start) (occurs : Occurs word text start)
      (more : Spread text (start + word.length) words starts) :
      Spread text passed (word :: words) (start :: starts)

/-- Words that are found in a text in turn: each is the first one behind the word before it. -/
inductive InTurn (text : List Char) : Nat → List (List Char) → List Nat → Prop
  | done {passed : Nat} : InTurn text passed [] []
  | next {passed start : Nat} {word : List Char} {words : List (List Char)} {starts : List Nat}
      (first : FirstFrom text passed word start)
      (more : InTurn text (start + word.length) words starts) :
      InTurn text passed (word :: words) (start :: starts)

/-! ## One word -/

namespace Occurs

variable {word text : List Char} {start : Nat}

theorem stop_le (occurs : Occurs word text start) : start + word.length ≤ text.length := by
  have within := occurs.2.length_le
  rw [List.length_drop] at within
  have := occurs.1
  omega

theorem nil_iff : Occurs word [] start ↔ word = [] ∧ start = 0 := by
  simp [Occurs, and_comm]

theorem zero_iff : Occurs word text 0 ↔ word <+: text := by
  simp [Occurs]

theorem succ_iff {c : Char} : Occurs word (c :: text) (start + 1) ↔ Occurs word text start := by
  simp [Occurs]

/-- Behind the start of a text the places are counted anew. -/
theorem drop_iff {passed : Nat} (inside : passed ≤ text.length) :
    Occurs word (text.drop passed) start ↔ Occurs word text (passed + start) := by
  simp only [Occurs, List.length_drop, List.drop_drop]
  have : start ≤ text.length - passed ↔ passed + start ≤ text.length := by omega
  rw [this]

end Occurs

theorem firstFrom_of_indexOf? {word text : List Char} {start : Nat}
    (found : indexOf? word text = some start) : FirstFrom text 0 word start := by
  fun_induction indexOf? word text generalizing start with
  | case1 empty =>
      cases found
      exact ⟨Nat.zero_le 0, by simpa [Occurs] using empty, by simp⟩
  | case2 => cases found
  | case3 c rest here =>
      cases found
      exact ⟨Nat.zero_le 0, Occurs.zero_iff.2 (List.isPrefixOf_iff_prefix.1 here), by simp⟩
  | case4 c rest notHere induction =>
      obtain ⟨later, laterFound, rfl⟩ := Option.map_eq_some_iff.1 found
      obtain ⟨-, occurs, earliest⟩ := induction laterFound
      refine ⟨Nat.zero_le _, Occurs.succ_iff.2 occurs, fun other _ before => ?_⟩
      cases other with
      | zero => exact fun here => notHere (List.isPrefixOf_iff_prefix.2 (Occurs.zero_iff.1 here))
      | succ other =>
          rw [Occurs.succ_iff]
          exact earliest other (Nat.zero_le _) (Nat.lt_of_succ_lt_succ before)

theorem not_occurs_of_indexOf? {word text : List Char} (lost : indexOf? word text = none)
    (start : Nat) : ¬ Occurs word text start := by
  fun_induction indexOf? word text generalizing start with
  | case1 => cases lost
  | case2 filled =>
      rw [Occurs.nil_iff]
      rintro ⟨rfl, -⟩
      exact filled rfl
  | case3 => cases lost
  | case4 c rest notHere induction =>
      cases start with
      | zero => exact fun here => notHere (List.isPrefixOf_iff_prefix.2 (Occurs.zero_iff.1 here))
      | succ start =>
          rw [Occurs.succ_iff]
          exact induction (Option.map_eq_none_iff.1 lost) start

section Text

variable {text : List Char} {passed : Nat}

theorem firstFrom_of_drop (inside : passed ≤ text.length) {word : List Char} {start : Nat}
    (found : indexOf? word (text.drop passed) = some start) :
    FirstFrom text passed word (passed + start) := by
  obtain ⟨-, occurs, earliest⟩ := firstFrom_of_indexOf? found
  refine ⟨Nat.le_add_right _ _, (Occurs.drop_iff inside).1 occurs, ?_⟩
  intro other reached before
  obtain ⟨skipped, rfl⟩ := Nat.exists_eq_add_of_le reached
  rw [← Occurs.drop_iff inside]
  exact earliest skipped (Nat.zero_le _) (Nat.lt_of_add_lt_add_left before)

theorem not_occurs_of_drop (inside : passed ≤ text.length) {word : List Char}
    (lost : indexOf? word (text.drop passed) = none) {start : Nat} (reached : passed ≤ start) :
    ¬ Occurs word text start := by
  obtain ⟨skipped, rfl⟩ := Nat.exists_eq_add_of_le reached
  rw [← Occurs.drop_iff inside]
  exact not_occurs_of_indexOf? lost skipped

/-! ## Words one behind another -/

variable {words : List (List Char)} {starts : List Nat}

theorem Spread.earlier (spread : Spread text passed words starts) {before : Nat}
    (le : before ≤ passed) : Spread text before words starts := by
  cases spread with
  | done => exact .done
  | next reached occurs more => exact .next (Nat.le_trans le reached) occurs more

theorem Spread.length_eq (spread : Spread text passed words starts) :
    words.length = starts.length := by
  induction spread with
  | done => rfl
  | next _ _ _ induction => exact congrArg (· + 1) induction

theorem InTurn.spread (turn : InTurn text passed words starts) :
    Spread text passed words starts := by
  induction turn with
  | done => exact .done
  | next first more induction => exact .next first.reached first.occurs induction

/-- No way to place the words puts one of them before the place where it is found in turn. -/
theorem InTurn.le (turn : InTurn text passed words starts) {later : Nat} {others : List Nat}
    (spread : Spread text later words others) (le : passed ≤ later) :
    List.Forall₂ (· ≤ ·) starts others := by
  induction turn generalizing later others with
  | done =>
      cases spread
      exact .nil
  | next first more induction =>
      cases spread with
      | next reached occurs further =>
          have sooner := Nat.le_of_not_lt fun before =>
            first.earliest _ (Nat.le_trans le reached) before occurs
          exact .cons sooner (induction further (Nat.add_le_add_right sooner _))

theorem Spread.stop_le {last : List Char} {start : Nat}
    (spread : Spread text passed (words ++ [last]) (starts ++ [start])) :
    passed ≤ start ∧ Occurs last text start ∧
      List.Forall₂ (fun word before => before + word.length ≤ start) words starts := by
  have sameLength := spread.length_eq
  simp only [List.length_append, List.length_singleton, Nat.add_right_cancel_iff] at sameLength
  induction words generalizing passed starts with
  | nil =>
      obtain rfl := List.length_eq_zero_iff.1 sameLength.symm
      cases spread with
      | next reached occurs more => exact ⟨reached, occurs, .nil⟩
  | cons word words induction =>
      cases starts with
      | nil => cases sameLength
      | cons first others =>
          cases spread with
          | next reached occurs more =>
              obtain ⟨beyond, lastOccurs, rest⟩ := induction more (Nat.succ.inj sameLength)
              exact ⟨by omega, lastOccurs, .cons beyond rest⟩

/-- The search finds the last word where it is found in turn behind the others. -/
theorem inTurn_of_locate? {last : List Char} {start : Nat} (inside : passed ≤ text.length)
    (found : locate? last passed words (text.drop passed) = some start) :
    ∃ starts, InTurn text passed (words ++ [last]) (starts ++ [start]) := by
  induction words generalizing passed with
  | nil =>
      obtain ⟨skipped, search, rfl⟩ := Option.map_eq_some_iff.1 found
      exact ⟨[], .next (firstFrom_of_drop inside search) .done⟩
  | cons word words induction =>
      rw [locate?] at found
      split at found
      · cases found
      next skipped search =>
        have first := firstFrom_of_drop inside search
        dsimp only at found
        rw [List.drop_drop, ← Nat.add_assoc] at found
        obtain ⟨starts, turn⟩ := induction first.occurs.stop_le found
        exact ⟨_ :: starts, .next first turn⟩

/-- The search fails only if the words do not stand in the text one behind another. -/
theorem not_spread_of_locate? {last : List Char} (inside : passed ≤ text.length)
    (lost : locate? last passed words (text.drop passed) = none) (starts : List Nat) :
    ¬ Spread text passed (words ++ [last]) starts := by
  intro spread
  induction words generalizing passed starts with
  | nil =>
      cases spread with
      | next reached occurs more =>
          exact not_occurs_of_drop inside (Option.map_eq_none_iff.1 lost) reached occurs
  | cons word words induction =>
      cases spread with
      | @next _ start _ _ others reached occurs more =>
          rw [locate?] at lost
          split at lost
          next search => exact not_occurs_of_drop inside search reached occurs
          next skipped search =>
            have first := firstFrom_of_drop inside search
            have sooner : passed + skipped ≤ start :=
              Nat.le_of_not_lt fun later => first.earliest start reached later occurs
            dsimp only at lost
            rw [List.drop_drop, ← Nat.add_assoc] at lost
            exact induction first.occurs.stop_le lost others
              (more.earlier (Nat.add_le_add_right sooner _))

end Text

end MiniC.Context
