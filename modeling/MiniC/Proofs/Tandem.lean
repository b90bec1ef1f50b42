import MiniC.Proofs.BlockRecovery
import MiniC.Proofs.Habit
import MiniC.Proofs.LockstepMemory

/-!
# Runs with different limits

The same stream is parsed twice, with another limit the second time.  One of the runs
skips what is left of a block, or recovers inside it from errors that the other run does
not meet, and with that it may miss results that the other one remembers.  So the runs are
not in lockstep.  States of the two runs are together when they agree on what is remembered
at the indices that are still to be visited.

Two steps are sustained when the trailing one answers alike whenever the leading one
answers, and they stay together.  Where the trailing run may nest deeper, nothing is asked
after the leading one failed because of nesting.
-/

namespace MiniC.Parser

/-- How the errors of two runs are compared: by a mark for the errors so far. -/
structure Tally where
  Mark : Type
  /-- The mark after further errors of the leading run. -/
  after : Mark → List Diagnostic → Mark
  /-- How the numbers of errors of both runs are related. -/
  Counts : Mark → Nat → Nat → Prop
  /-- How the errors of both runs correspond. -/
  Agree : Mark → List Diagnostic → List Diagnostic → Prop
  /-- Errors of the leading run with which both runs keep the same. -/
  Exact : Mark → List Diagnostic → Prop
  later : ∀ {mark count other} errors, Counts mark count other →
    Counts (after mark errors) count other
  joined : ∀ {mark errors more count other}, Counts (after (after mark errors) more) count other →
    Counts (after mark (errors ++ more)) count other
  itself : ∀ mark errors, Agree mark errors errors
  append : ∀ {mark errors more otherErrors otherMore}, Agree mark errors otherErrors →
    Agree (after mark errors) more otherMore →
      Agree mark (errors ++ more) (otherErrors ++ otherMore)
  exact_left : ∀ {mark errors more}, Exact mark (errors ++ more) → Exact mark errors
  exact_right : ∀ {mark errors more}, Exact mark (errors ++ more) → Exact (after mark errors) more

theorem Tally.extended (tally : Tally) {mark : tally.Mark} {errors more : List Diagnostic}
    {count other : Nat} (counts : tally.Counts (tally.after mark errors) count other) :
    tally.Counts (tally.after mark (errors ++ more)) count other :=
  tally.joined (tally.later more counts)

/-- Two settings for one stream, and how the errors of their runs are compared. -/
structure Tandem extends Tally where
  stream : TokenStream
  leadOptions : ParserOptions
  trailOptions : ParserOptions
  stack : Option Nat
  /-- Whether the trailing run may nest deeper. -/
  raised : Bool
  higher : leadOptions.maxNesting ≤ trailOptions.maxNesting
  level : raised = false → trailOptions.maxNesting = leadOptions.maxNesting

/-- Rules without blocks that met the nesting limit fail because of it. -/
def frank (input : Input) : Habit input where
  Step before failure after := after.limitFelt = true →
    before.limitFelt = true ∨ ∃ known, failure = some known ∧ known.kind = .nestingTooDeep
  Whole before failure after := after.limitFelt = true →
    before.limitFelt = true ∨ ∃ known, failure = some known ∧ known.kind = .nestingTooDeep
  rest _ felt := .inl felt
  step_of_whole whole := whole
  fail _ _ felt := .inl felt
  tooDeep _ deep _ := .inr ⟨_, rfl, deep⟩
  step_trans first second felt := by
    rcases second felt with earlier | known
    · rcases first earlier with before | ⟨known, impossible, -⟩
      · exact .inl before
      · cases impossible
    · exact .inr known
  beaten mild first second felt := by
    rcases second felt with earlier | ⟨known, impossible, -⟩
    · rcases first earlier with before | ⟨known, same, deep⟩
      · exact .inl before
      · cases same
        exact absurd deep mild
    · cases impossible
  deepest firstMild secondMild first second felt := by
    rcases second felt with earlier | ⟨known, same, deep⟩
    · rcases first earlier with before | ⟨known, same, deep⟩
      · exact .inl before
      · cases same
        exact absurd deep firstMild
    · cases same
      exact absurd deep secondMild
  dropped _ deep _ _ _ := .inr ⟨_, rfl, deep⟩
  guarded step felt := step felt
  supervised step felt := step (by simpa using felt)
  recalled _ felt := .inl (by simpa using felt)
  isolated memo step felt := by
    rcases Bool.or_eq_true _ _ |>.mp felt with before | inside
    · exact .inl before
    · exact .inr ((step inside).resolve_left Bool.false_ne_true)

/-- A remembered match of an expression takes a token, one that expressions start with. -/
theorem Orderly.begins {stream : TokenStream} {memo : Memo} (orderly : Orderly stream memo)
    {stratum : Stratum} {start : Nat} {entry : Memo.Entry}
    (found : memo.find? stratum start = some entry) :
    Pairing.OnMatch (fun found : Match Expr =>
      start < found.stop ∧ startsExpression (stream.kindAt start) = true) entry.outcome := by
  intro value same
  have answers := (orderly stratum start entry found).answers
  rw [same] at answers
  have spans : SpansExpr stream start value := answers
  exact ⟨spans.lt, spans.starts⟩

/-- The alternatives of a choice after others failed. -/
def searching {α : Type} (best : Diagnostic) (rules : List (Attempt (Match α))) :
    Attempt (Match α) :=
  ExceptT.mk (Choice.continueWith note best (rules.map ExceptT.run))

/-- What is known of two outcomes: both match, or both fail alike. -/
def SameShape {α : Type} (Done : α → α → State → State → Prop)
    (Failed : Diagnostic → State → State → Prop) :
    Except Diagnostic α → Except Diagnostic α → State → State → Prop
  | .ok value, .ok other, after, otherAfter => Done value other after otherAfter
  | .error failure, .error other, after, otherAfter =>
      other = failure ∧ Failed failure after otherAfter
  | _, _, _, _ => False

namespace Tandem

/-- The setting of the leading run. -/
def lead (tandem : Tandem) : Input :=
  { stream := tandem.stream, options := tandem.leadOptions, stack := tandem.stack }

/-- The setting of the trailing run. -/
def trail (tandem : Tandem) : Input :=
  { stream := tandem.stream, options := tandem.trailOptions, stack := tandem.stack }

/-- Two leading runs that share results at some indices. -/
def sharing (tandem : Tandem) (Ledgers : Ledger → Ledger → Prop) (Shared : Nat → Prop) :
    Pairing :=
  .sharing tandem.stream tandem.leadOptions tandem.leadOptions tandem.stack false false Ledgers
    Shared

/-- A leading and a trailing run that remember the same. -/
def following (tandem : Tandem) (Ledgers : Ledger → Ledger → Prop) : Pairing :=
  .sharing tandem.stream tandem.leadOptions tandem.trailOptions tandem.stack tandem.raised false
    Ledgers fun _ => True

/-- States of the two runs that go together at some nesting, with what is remembered
agreeing at some indices. -/
structure Together (tandem : Tandem) (active : Nat) (Counts : Nat → Nat → Prop)
    (Shared : Nat → Prop) (before other : State) : Prop where
  orderly : Orderly tandem.stream before.memo
  otherOrderly : Orderly tandem.stream other.memo
  agree : ∀ stratum index, Shared index →
    other.memo.find? stratum index = before.memo.find? stratum index
  noted : other.noted = before.noted
  counts : Counts before.errorCount other.errorCount
  unreported : before.reported = [] ∧ other.reported = []
  nesting : before.nesting = active
  otherNesting : other.nesting = active

/-- Whenever the leading step answers, the trailing one answers alike, and they stay
related. -/
def Sustained {α : Type} (tandem : Tandem) (Pre : State → State → Prop) (lead trail : Attempt α)
    (Done : α → α → State → State → Prop) (Failed : Diagnostic → State → State → Prop) : Prop :=
  ∀ before other, Pre before other → ∀ outcome after, lead.run before = .ok outcome after →
    (tandem.raised = true → Mild outcome) →
      ∃ answer otherAfter, trail.run other = .ok answer otherAfter ∧
        SameShape Done Failed outcome answer after otherAfter

namespace Together

variable {tandem : Tandem} {active : Nat} {Counts Weaker : Nat → Nat → Prop}
  {Shared Narrower : Nat → Prop} {before other : State}

theorem mono (together : tandem.Together active Counts Shared before other)
    (narrower : ∀ index, Narrower index → Shared index)
    (weaker : ∀ count other, Counts count other → Weaker count other) :
    tandem.Together active Weaker Narrower before other :=
  { together with
    agree := fun stratum index shared => together.agree stratum index (narrower index shared)
    counts := weaker _ _ together.counts }

theorem note (together : tandem.Together active Counts Shared before other)
    (failure : Diagnostic) :
    tandem.Together active Counts Shared { before with noted := failure :: before.noted }
      { other with noted := failure :: other.noted } :=
  { together with noted := congrArg (failure :: ·) together.noted }

/-- What the item of a loop noted is forgotten after it, and errors are counted anew. -/
theorem recounted {noted otherNoted : List Diagnostic} {total otherTotal : Nat}
    {trace otherTrace : Array Event} (together : tandem.Together active Counts Shared before other)
    (same : otherNoted = noted) (counts : Weaker total otherTotal) :
    tandem.Together active Weaker Shared { before with noted, errorCount := total, trace }
      { other with noted := otherNoted, errorCount := otherTotal, trace := otherTrace } :=
  ⟨together.orderly, together.otherOrderly, together.agree, same, counts, together.unreported,
    together.nesting, together.otherNesting⟩

theorem entered (together : tandem.Together active Counts Shared before other) :
    tandem.Together (active + 1) Counts Shared before.entered other.entered :=
  ⟨together.orderly, together.otherOrderly, together.agree, together.noted, together.counts,
    together.unreported, congrArg (· + 1) together.nesting, congrArg (· + 1) together.otherNesting⟩

theorem left (together : tandem.Together (active + 1) Counts Shared before other) :
    tandem.Together active Counts Shared before.left other.left :=
  ⟨together.orderly, together.otherOrderly, together.agree, together.noted, together.counts,
    together.unreported, congrArg (· - 1) together.nesting, congrArg (· - 1) together.otherNesting⟩

end Together

namespace Sustained

variable {α β : Type} {tandem : Tandem} {P : State → State → Prop} {lead trail : Attempt α}
  {Q : α → α → State → State → Prop} {F : Diagnostic → State → State → Prop}

theorem pure {first second : α}
    (post : ∀ before other, P before other → Q first second before other) :
    tandem.Sustained P (pure first) (pure second) Q F := by
  intro before other pre outcome after run _
  cases run
  exact ⟨.ok second, other, rfl, post before other pre⟩

theorem throw {failure : Diagnostic}
    (post : ∀ before other, P before other → F failure before other) :
    tandem.Sustained P (throw failure : Attempt α) (throw failure) Q F := by
  intro before other pre outcome after run _
  cases run
  exact ⟨.error failure, other, rfl, rfl, post before other pre⟩

theorem bind {leadNext trailNext : α → Attempt β} {R : β → β → State → State → Prop}
    (first : tandem.Sustained P lead trail Q F)
    (second : ∀ value other,
      tandem.Sustained (Q value other) (leadNext value) (trailNext other) R F) :
    tandem.Sustained P (lead >>= leadNext) (trail >>= trailNext) R F := by
  intro before other pre outcome after run mild
  rcases bind_ok run with ⟨value, between, ran, rest⟩ | ⟨failure, failed, rfl⟩
  · obtain ⟨answer, otherBetween, otherRan, shape⟩ :=
      first before other pre _ between ran fun _ failure impossible => nomatch impossible
    cases answer with
    | error failure => exact shape.elim
    | ok otherValue =>
        rw [bind_found otherRan]
        exact second value otherValue between otherBetween shape outcome after rest mild
  · obtain ⟨answer, otherAfter, otherRan, shape⟩ :=
      first before other pre _ after failed fun raised known same =>
        mild raised known (by cases same; rfl)
    cases answer with
    | ok otherValue => exact shape.elim
    | error otherFailure => exact ⟨.error otherFailure, otherAfter, bind_failed otherRan, shape⟩

theorem conseq {P' : State → State → Prop} {Q' : α → α → State → State → Prop}
    {F' : Diagnostic → State → State → Prop} (sustained : tandem.Sustained P lead trail Q F)
    (pre : ∀ before other, P' before other → P before other)
    (done : ∀ value otherValue after otherAfter, Q value otherValue after otherAfter →
      Q' value otherValue after otherAfter)
    (failed : ∀ failure after otherAfter, F failure after otherAfter →
      F' failure after otherAfter) : tandem.Sustained P' lead trail Q' F' := by
  intro before other holds outcome after run mild
  obtain ⟨answer, otherAfter, otherRun, shape⟩ :=
    sustained before other (pre before other holds) outcome after run mild
  refine ⟨answer, otherAfter, otherRun, ?_⟩
  cases outcome with
  | ok value =>
      cases answer with
      | ok otherValue => exact done value otherValue after otherAfter shape
      | error failure => exact shape
  | error failure =>
      cases answer with
      | ok otherValue => exact shape
      | error otherFailure => exact ⟨shape.1, failed failure after otherAfter shape.2⟩

theorem assume {p : Prop} (sustained : p → tandem.Sustained P lead trail Q F) :
    tandem.Sustained (fun before other => p ∧ P before other) lead trail Q F :=
  fun before other pre => sustained pre.1 before other pre.2

theorem ite {test : Prop} [Decidable test] {leadOther trailOther : Attempt α}
    (yes : test → tandem.Sustained P lead trail Q F)
    (no : ¬ test → tandem.Sustained P leadOther trailOther Q F) :
    tandem.Sustained P (if test then lead else leadOther) (if test then trail else trailOther)
      Q F := by
  by_cases holds : test
  · simp only [if_pos holds]
    exact yes holds
  · simp only [if_neg holds]
    exact no holds

/-- What is known of the outcome of the leading run alone can be added. -/
theorem observe {R : Except Diagnostic α → Prop} (sustained : tandem.Sustained P lead trail Q F)
    (alone : ∀ before other, P before other → ∀ outcome after,
      lead.run before = .ok outcome after → R outcome) :
    tandem.Sustained P lead trail
      (fun value other after otherAfter => R (.ok value) ∧ Q value other after otherAfter)
      fun failure after otherAfter => R (.error failure) ∧ F failure after otherAfter := by
  intro before other pre outcome after run mild
  obtain ⟨answer, otherAfter, otherRun, shape⟩ :=
    sustained before other pre outcome after run mild
  have known := alone before other pre outcome after run
  refine ⟨answer, otherAfter, otherRun, ?_⟩
  cases outcome with
  | ok value =>
      cases answer with
      | ok otherValue => exact ⟨known, shape⟩
      | error failure => exact shape
  | error failure =>
      cases answer with
      | ok otherValue => exact shape
      | error otherFailure => exact ⟨shape.1, known, shape.2⟩

theorem confined {stream : TokenStream} {start : Nat} {Ends : α → Prop}
    (sustained : tandem.Sustained P lead trail Q F) (confined : Confined stream start lead Ends)
    (orderly : ∀ before other, P before other → Orderly stream before.memo) :
    tandem.Sustained P lead trail
      (fun value other after otherAfter => Ends value ∧ Q value other after otherAfter)
      fun failure after otherAfter =>
        Within stream start failure ∧ F failure after otherAfter :=
  sustained.observe (R := Answers stream start Ends) fun before other pre _ _ run =>
    (confined.ran run (orderly before other pre)).2

theorem describe {describe : Diagnostic → Diagnostic} {G : Diagnostic → State → State → Prop}
    (sustained : tandem.Sustained P lead trail Q G)
    (deep : ∀ failure, failure.kind = .nestingTooDeep → describe failure = failure)
    (failed : ∀ failure after otherAfter, G failure after otherAfter →
      F (describe failure) after otherAfter) :
    tandem.Sustained P (tryCatch lead fun failure => MonadExcept.throw (describe failure))
      (tryCatch trail fun failure => MonadExcept.throw (describe failure)) Q F := by
  intro before other pre outcome after run mild
  obtain ⟨inner, ran, rfl⟩ := describe_ok run
  have innerMild : tandem.raised = true → Mild inner := by
    rintro raised failure rfl tooDeep
    have same : describe failure = failure := deep failure tooDeep
    exact mild raised failure (congrArg Except.error same) tooDeep
  obtain ⟨answer, otherAfter, otherRan, shape⟩ :=
    sustained before other pre inner after ran innerMild
  refine ⟨answer.mapError describe, otherAfter, describe_run otherRan, ?_⟩
  cases inner with
  | ok value =>
      cases answer with
      | ok otherValue => exact shape
      | error failure => exact shape
  | error failure =>
      cases answer with
      | ok otherValue => exact shape
      | error otherFailure =>
          obtain ⟨rfl, post⟩ := shape
          exact ⟨rfl, failed _ after otherAfter post⟩

section Choice

variable {lead trail : Attempt (Match α)} {leads trails : List (Attempt (Match α))}
  {Q R : Match α → Match α → State → State → Prop} {G : Diagnostic → State → State → Prop}

/-- Too deep nesting ends the search, in both runs if it is asked about. -/
theorem firstOf (first : tandem.Sustained P lead trail Q G)
    (tooDeep : tandem.raised = false → ∀ failure after otherAfter,
      failure.kind = .nestingTooDeep → G failure after otherAfter → F failure after otherAfter)
    (others : ∀ failure, failure.kind ≠ .nestingTooDeep →
      tandem.Sustained (G failure) (searching failure leads) (searching failure trails) Q F) :
    tandem.Sustained P (firstOf lead leads) (firstOf trail trails) Q F := by
  intro before other pre outcome after run mild
  rcases firstOf_ok run with ⟨only, onlyDeep⟩ | ⟨failure, between, failed, failureMild, searched⟩
  · obtain ⟨answer, otherAfter, otherRan, shape⟩ := first before other pre outcome after only mild
    cases outcome with
    | error failure =>
        have deep := onlyDeep failure rfl
        cases answer with
        | ok otherFound => exact shape.elim
        | error otherFailure =>
            obtain ⟨rfl, post⟩ := shape
            have level : tandem.raised = false :=
              Bool.eq_false_iff.mpr fun raised => mild raised _ rfl deep
            exact ⟨_, otherAfter, firstOf_tooDeep otherRan deep, rfl,
              tooDeep level _ after otherAfter deep post⟩
    | ok found =>
        cases answer with
        | error failure => exact shape.elim
        | ok otherFound => exact ⟨.ok otherFound, otherAfter, firstOf_found otherRan, shape⟩
  · obtain ⟨answer, otherBetween, otherRan, shape⟩ :=
      first before other pre _ between failed fun _ known same => by cases same; exact failureMild
    cases answer with
    | ok otherFound => exact shape.elim
    | error otherFailure =>
        obtain ⟨rfl, post⟩ := shape
        rw [firstOf_failed otherRan failureMild]
        exact others _ failureMild between otherBetween post outcome after searched mild

theorem search {best : Diagnostic} (first : tandem.Sustained P lead trail Q G)
    (noted : ∀ found other after otherAfter, Q found other after otherAfter →
      R found other { after with noted := best :: after.noted }
        { otherAfter with noted := best :: otherAfter.noted })
    (tooDeep : tandem.raised = false → ∀ failure after otherAfter,
      failure.kind = .nestingTooDeep → G failure after otherAfter → F failure after otherAfter)
    (others : ∀ failure, failure.kind ≠ .nestingTooDeep →
      tandem.Sustained (G failure) (searching (best.deepest failure) leads)
        (searching (best.deepest failure) trails) R F) :
    tandem.Sustained P (searching best (lead :: leads)) (searching best (trail :: trails)) R
      F := by
  intro before other pre outcome after run mild
  obtain ⟨inner, between, ran, ended⟩ := continueWith_ok run
  cases inner with
  | ok found =>
      obtain ⟨rfl, rfl⟩ := ended
      obtain ⟨answer, otherBetween, otherRan, shape⟩ :=
        first before other pre _ between ran fun _ failure impossible => nomatch impossible
      cases answer with
      | error failure => exact shape.elim
      | ok otherFound =>
          exact ⟨_, _, continueWith_found otherRan, noted found otherFound _ _ shape⟩
  | error failure =>
      unfold Searched at ended
      dsimp only at ended
      split at ended
      · rename_i deep
        obtain ⟨rfl, rfl⟩ := ended
        obtain ⟨answer, otherAfter, otherRan, shape⟩ :=
          first before other pre _ _ ran fun raised known same =>
            mild raised known (by cases same; rfl)
        cases answer with
        | ok otherFound => exact shape.elim
        | error otherFailure =>
            obtain ⟨rfl, post⟩ := shape
            have level : tandem.raised = false :=
              Bool.eq_false_iff.mpr fun raised => mild raised _ rfl deep
            exact ⟨_, otherAfter, continueWith_tooDeep otherRan deep, rfl,
              tooDeep level _ _ otherAfter deep post⟩
      · rename_i failureMild
        obtain ⟨answer, otherBetween, otherRan, shape⟩ :=
          first before other pre _ between ran fun _ known same => by
            cases same
            exact failureMild
        cases answer with
        | ok otherFound => exact shape.elim
        | error otherFailure =>
            obtain ⟨rfl, post⟩ := shape
            obtain ⟨answer, otherAfter, searched, shape⟩ :=
              others _ failureMild between otherBetween post outcome after ended mild
            exact ⟨answer, otherAfter, (continueWith_failed otherRan failureMild).trans searched,
              shape⟩

end Choice

end Sustained

/-- A step without blocks, in both runs.  It needs the results remembered at some indices
to be shared. -/
structure Plain {α : Type} [Movable α] (tandem : Tandem) (Opened : (Nat → Prop) → Prop)
    (place : Nat) (lead trail : Attempt α) (Ends : α → Prop) : Prop where
  confined : Confined tandem.lead.stream place lead Ends
  frank : (frank tandem.lead).Keeps lead
  shares : ∀ Ledgers Shared, Opened Shared →
    ∃ P, (tandem.sharing Ledgers Shared).Follows lead lead P
  follows : ∀ Ledgers, ∃ P, (tandem.following Ledgers).Follows lead trail P

namespace Plain

variable {α : Type} [Movable α] {tandem : Tandem} {Opened : (Nat → Prop) → Prop}
  {place active : Nat} {lead trail : Attempt α} {Ends : α → Prop} {Counts : Nat → Nat → Prop}
  {Shared : Nat → Prop} {before other after : State} {outcome : Except Diagnostic α}

/-- A step without blocks answers alike from two states that share what is remembered, both
times in the leading setting. -/
theorem shared (plain : tandem.Plain Opened place lead trail Ends) (opened : Opened Shared)
    (together : tandem.Together active Counts Shared before other)
    (run : lead.run before = .ok outcome after) :
    ∃ between, lead.run { other with limitFelt := false } = .ok outcome between ∧
      (tandem.sharing (fun first second => first = before.ledger ∧ second = other.ledger)
        Shared).Linked (.of before) (.of { other with limitFelt := false }) after between := by
  let pair := tandem.sharing (fun first second => first = before.ledger ∧ second = other.ledger)
    Shared
  have akin : pair.Akin before { other with limitFelt := false } :=
    ⟨⟨together.agree, fun _ _ _ _ found => Orderly.begins together.orderly found⟩, rfl, rfl⟩
  obtain ⟨P, shares⟩ := plain.shares _ Shared opened
  have allows : pair.Allows before.nesting other.nesting :=
    .inr ⟨together.otherNesting.trans together.nesting.symm, rfl, rfl⟩
  obtain ⟨between, otherRun, -, linked⟩ :=
    shares.same rfl allows akin.linked run fun gaveUp => nomatch gaveUp.1
  exact ⟨between, otherRun, linked⟩

/-- A step without blocks that did not fail because of nesting answers alike in the trailing
setting, from the same state. -/
theorem followed (plain : tandem.Plain Opened place lead trail Ends)
    (orderly : Orderly tandem.stream other.memo)
    {outcome : Except Diagnostic α} {between : State}
    (run : lead.run { other with limitFelt := false } = .ok outcome between)
    (mild : tandem.raised = true → Mild outcome) :
    ∃ otherAfter, trail.run other = .ok outcome otherAfter ∧
      (tandem.following (fun first second => first = other.ledger ∧ second = other.ledger)).Linked
        (.of { other with limitFelt := false }) (.of other) between otherAfter := by
  let pair := tandem.following fun first second => first = other.ledger ∧ second = other.ledger
  have akin : pair.Akin { other with limitFelt := false } other :=
    ⟨⟨fun _ _ _ => rfl, fun _ _ _ _ found => Orderly.begins orderly found⟩, rfl, rfl⟩
  obtain ⟨P, follows⟩ := plain.follows _
  have allows : pair.Allows other.nesting other.nesting := by
    cases raised : tandem.raised with
    | true => exact .inl ⟨raised, Nat.le_refl _, Nat.add_le_add_right tandem.higher _, .inr rfl⟩
    | false => exact .inr ⟨rfl, tandem.level raised, rfl⟩
  have goesOn : ¬ pair.GaveUp between := by
    rintro ⟨raised, felt⟩
    rcases plain.frank _ outcome between run felt with impossible | ⟨known, fails, deep⟩
    · cases impossible
    · cases outcome with
      | ok value => cases fails
      | error failure =>
          cases fails
          exact mild raised _ rfl deep
  obtain ⟨otherAfter, otherRun, -, linked⟩ := follows.same rfl allows akin.linked run goesOn
  exact ⟨otherAfter, otherRun, linked⟩

/-- A step without blocks that did not fail because of nesting does the same in both runs. -/
theorem sustained (plain : tandem.Plain Opened place lead trail Ends) (opened : Opened Shared) :
    tandem.Sustained (tandem.Together active Counts Shared) lead trail
      (fun value other after otherAfter => other = value ∧ Ends value ∧
        tandem.Together active Counts Shared after otherAfter)
      fun failure after otherAfter => Within tandem.stream place failure ∧
        tandem.Together active Counts Shared after otherAfter := by
  intro before other together outcome after run mild
  obtain ⟨effect, answers⟩ := plain.confined.ran run together.orderly
  -- first in the leading setting, but from the state of the trailing run
  obtain ⟨between, middle, linked⟩ := plain.shared opened together run
  obtain ⟨middleEffect, -⟩ := plain.confined.ran middle together.otherOrderly
  -- and then in the trailing setting
  obtain ⟨otherAfter, otherRun, otherLinked⟩ :=
    plain.followed together.otherOrderly middle mild
  have found : ∀ stratum index,
      otherAfter.memo.find? stratum index = between.memo.find? stratum index :=
    fun stratum index => otherLinked.memos.agree stratum index trivial
  obtain ⟨added, leadEq, middleEq⟩ := linked.sameNoted rfl
  obtain ⟨further, middleAgain, trailEq⟩ := otherLinked.sameNoted rfl
  have leadLedger : after.ledger = before.ledger := linked.ledgers.1
  have trailLedger : otherAfter.ledger = other.ledger := otherLinked.ledgers.2
  have leadCount : after.errorCount = before.errorCount := congrArg Ledger.errorCount leadLedger
  have trailCount : otherAfter.errorCount = other.errorCount :=
    congrArg Ledger.errorCount trailLedger
  have leadReported : after.reported = before.reported := congrArg Ledger.reported leadLedger
  have trailReported : otherAfter.reported = other.reported :=
    congrArg Ledger.reported trailLedger
  have kept : tandem.Together active Counts Shared after otherAfter := by
    refine ⟨effect.orderly, ?_, ?_, ?_, ?_, ?_, ?_, ?_⟩
    · intro stratum index entry known
      rw [found] at known
      exact middleEffect.orderly stratum index entry known
    · intro stratum index shared
      rw [found]
      exact linked.memos.agree stratum index shared
    · rw [trailEq, leadEq]
      exact middleAgain.symm.trans (middleEq.trans (congrArg (added ++ ·) together.noted))
    · rw [leadCount, trailCount]
      exact together.counts
    · rw [leadReported, trailReported]
      exact together.unreported
    · exact linked.leadNesting.trans together.nesting
    · exact otherLinked.trailNesting.trans together.otherNesting
  refine ⟨outcome, otherAfter, otherRun, ?_⟩
  cases outcome with
  | ok value => exact ⟨rfl, answers, kept⟩
  | error failure => exact ⟨rfl, answers, kept⟩

end Plain

end Tandem

end MiniC.Parser
