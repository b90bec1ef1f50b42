import Mathlib.Algebra.BigOperators.Intervals
import MiniC.Proofs.BracketScan

/-!
# What stands between two brackets

Between a closing bracket and the one that opens it more brackets are closed than
opened, from any index up to and including the closing one.  A scan forward never
closes more than it has opened.  So what is delimited by scanning forward from
between the two brackets ends there as well.
-/

namespace MiniC.Parser

/-- What a token adds to the number of open brackets. -/
def bracketStep (kind : Kind) : Int :=
  match bracketRole kind with
  | .opens _ => 1
  | .closes _ => -1
  | _ => 0

/-- How many more brackets are opened than closed between two indices. -/
def bracketBalance (stream : TokenStream) (start stop : Nat) : Int :=
  ∑ index ∈ Finset.Ico start stop, bracketStep (stream.kindAt index)

section Balance

variable {stream : TokenStream} {start stop index : Nat}

@[simp]
theorem bracketBalance_self : bracketBalance stream index index = 0 := by
  simp [bracketBalance]

theorem bracketBalance_first (nonempty : start < stop) :
    bracketBalance stream start stop =
      bracketStep (stream.kindAt start) + bracketBalance stream (start + 1) stop :=
  Finset.sum_eq_sum_Ico_succ_bot nonempty _

theorem bracketBalance_last (ordered : start ≤ stop) :
    bracketBalance stream start (stop + 1) =
      bracketBalance stream start stop + bracketStep (stream.kindAt stop) :=
  Finset.sum_Ico_succ_top ordered _

theorem bracketStep_opens {kind : Kind} {bracket : Bracket}
    (role : bracketRole kind = .opens bracket) : bracketStep kind = 1 := by
  rw [bracketStep, role]

theorem bracketStep_closes {kind : Kind} {bracket : Bracket}
    (role : bracketRole kind = .closes bracket) : bracketStep kind = -1 := by
  rw [bracketStep, role]

theorem bracketStep_other {kind : Kind}
    (role : bracketRole kind = .stops ∨ bracketRole kind = .plain) : bracketStep kind = 0 := by
  rcases role with role | role <;> rw [bracketStep, role]

/-- A scan forward never closes more brackets than are open. -/
theorem scanForward_balance {fuel close : Nat} {opened : List Pending}
    (scanned : scanForward stream fuel opened index = .ok (.ok close)) :
    index ≤ close ∧ ∀ middle, index ≤ middle → middle ≤ close + 1 →
      0 ≤ opened.length + bracketBalance stream index middle := by
  induction fuel generalizing opened index with
  | zero => cases scanned
  | succ fuel induction =>
      have step : ∀ rest : List Pending,
          (rest.length : Int) = opened.length + bracketStep (stream.kindAt index) →
          scanForward stream fuel rest (index + 1) = .ok (.ok close) →
          index ≤ close ∧ ∀ middle, index ≤ middle → middle ≤ close + 1 →
            0 ≤ opened.length + bracketBalance stream index middle := by
        intro rest counted onward
        obtain ⟨ordered, enough⟩ := induction onward
        refine ⟨Nat.le_of_succ_le ordered, fun middle lower upper => ?_⟩
        rcases Nat.eq_or_lt_of_le lower with rfl | further
        · simp
        · have later := enough middle further upper
          rw [bracketBalance_first further]
          omega
      cases scanForward_step scanned with
      | opens role rest => exact step _ (by simp [bracketStep_opens role]) rest
      | closesLast role last found =>
          subst last found
          refine ⟨Nat.le_refl _, fun middle lower upper => ?_⟩
          rcases Nat.eq_or_lt_of_le lower with rfl | further
          · simp
          · obtain rfl : middle = close + 1 := Nat.le_antisymm upper further
            rw [bracketBalance_first further]
            simp [bracketStep_closes role]
      | closes role nested _ rest =>
          subst nested
          exact step _ (by simp [bracketStep_closes role]) rest
      | plain role rest => exact step _ (by simp [bracketStep_other (.inr role)]) rest

/-- A scan backward has closed more brackets than it has opened until it ends. -/
theorem scanBackward_balance {close count opening middle : Nat} {closed : List Pending}
    (nonempty : closed ≠ [])
    (scanned : scanBackward stream close start closed count = .ok (.ok opening))
    (lower : opening < middle) (upper : middle ≤ start + count) :
    bracketBalance stream middle (start + count) < closed.length := by
  have positive : 0 < closed.length := List.length_pos_iff.mpr nonempty
  induction count generalizing closed with
  | zero => cases scanned
  | succ count induction =>
      rcases Nat.eq_or_lt_of_le upper with rfl | further
      · simpa using positive
      · have ordered : middle ≤ start + count := by omega
        rw [← Nat.add_assoc, bracketBalance_last ordered]
        cases scanBackward_step scanned with
        | closes role rest =>
            have inner := induction (List.cons_ne_nil _ _) rest ordered (by simp)
            rw [bracketStep_closes role]
            simp only [List.length_cons] at inner
            omega
        | opensLast _ _ found => omega
        | opens role nested more rest =>
            subst nested
            have outer := induction more rest ordered (List.length_pos_iff.mpr more)
            rw [bracketStep_opens role]
            simp only [List.length_cons]
            omega
        | passes role rest =>
            have same := induction nonempty rest ordered positive
            rw [bracketStep_other role]
            omega

end Balance

theorem specifier_not_closes {kind : Kind} (specifies : kind.isTypeSpecifier = true)
    {bracket : Bracket} : bracketRole kind ≠ .closes bracket := by
  intro closes
  cases kind <;> first
    | (cases closes; done)
    | cases specifies

/-- From an index on more brackets are closed than opened, up to and including a closing
bracket. -/
structure Shut (stream : TokenStream) (index closing : Nat) : Prop where
  le : index ≤ closing
  closes : ∃ bracket, bracketRole (stream.kindAt closing) = .closes bracket
  unopened : ∀ middle, index ≤ middle → middle ≤ closing →
    bracketBalance stream middle (closing + 1) < 0

namespace Shut

variable {input : Input} {index later closing : Nat}

theorem from_later (shut : Shut input.stream index closing) (lower : index ≤ later)
    (upper : later ≤ closing) : Shut input.stream later closing :=
  ⟨upper, shut.closes, fun middle above => shut.unopened middle (Nat.le_trans lower above)⟩

theorem lt (shut : Shut input.stream index closing)
    (other : ∀ bracket, bracketRole (input.stream.kindAt index) ≠ .closes bracket) :
    index < closing := by
  obtain ⟨bracket, closes⟩ := shut.closes
  refine Nat.lt_of_le_of_ne shut.le fun same => ?_
  rw [← same] at closes
  exact other bracket closes

theorem matchForward_lt (shut : Shut input.stream index closing) {close : Nat}
    (matched : matchForward input index = .ok (.ok close)) : close < closing := by
  apply Nat.lt_of_not_le
  intro beyond
  have opened := (scanForward_balance matched).2 (closing + 1) (Nat.le_succ_of_le shut.le)
    (Nat.succ_le_succ beyond)
  have closed := shut.unopened index (Nat.le_refl _) shut.le
  simp only [List.length_nil] at opened
  omega

theorem findEndFrom_le {fuel stop : Nat} (shut : Shut input.stream index closing)
    (ended : findEndFrom input fuel index = .ok (.ok stop)) : stop ≤ closing := by
  induction fuel generalizing index with
  | zero => cases ended
  | succ fuel induction =>
      cases findEndFrom_step ended with
      | name isName rest =>
          have before : index < closing := shut.lt fun bracket closes => by
            rw [show input.stream.kindAt index = _ from isName] at closes
            cases closes
          exact induction (shut.from_later (Nat.le_succ _) before) rest
      | group _ matched rest =>
          have before := shut.matchForward_lt matched
          have lower := (scanForward_balance matched).1
          exact induction (shut.from_later (Nat.le_succ_of_le lower) before) rest
      | ended _ _ found => exact found ▸ shut.le

theorem specifierRun_le {count : Nat} (shut : Shut input.stream index closing) :
    index + (specifierRun input.stream count index).length ≤ closing := by
  induction count generalizing index with
  | zero => exact shut.le
  | succ count induction =>
      unfold specifierRun
      split
      · rename_i token found
        split
        · rename_i specifies
          have before : index < closing := shut.lt <| by
            rw [TokenStream.kindAt_of_get? found]
            exact fun bracket => specifier_not_closes specifies
          have rest := induction (shut.from_later (Nat.le_add_right index 1) before)
          simp only [List.length_cons]
          omega
        · exact shut.le
      · exact shut.le

end Shut

/-- What stands between a closing bracket and the one that opens it. -/
theorem matchBackward_shut {input : Input} {start close opening : Nat} {bracket : Bracket}
    (ordered : start ≤ close)
    (closes : bracketRole (input.stream.kindAt close) = .closes bracket)
    (matched : matchBackward input close start = .ok (.ok opening)) (before : opening < close) :
    Shut input.stream (opening + 1) close := by
  refine ⟨before, ⟨bracket, closes⟩, fun middle lower upper => ?_⟩
  rw [matchBackward_closes ordered closes] at matched
  have place : start + (close - start) = close := Nat.add_sub_cancel' ordered
  have inner := scanBackward_balance (List.cons_ne_nil _ _) matched lower (by omega)
  rw [place] at inner
  rw [bracketBalance_last upper, bracketStep_closes closes]
  simp only [List.length_cons, List.length_nil] at inner
  omega

end MiniC.Parser
