import MiniC.Parser.State
import MiniC.Proofs.Brace
import MiniC.Token.Constant

/-!
# Confined computations

A computation is confined to an index when all it does happens from that index
on and inside the block around it: its failures and the failures it notes are
noticed there, it remembers results for indices there only, and it is never
broken off, unless an integer constant is too large.  Confinement composes, so
the rules of the parser are confined one by one.
-/

namespace MiniC.Parser

/-- A failure noticed from an index on, inside the block around it.  It refers to a
token before the index only when nothing was noticed beyond the index. -/
structure Within (stream : TokenStream) (start : Nat) (failure : Diagnostic) : Prop where
  depth_ge : (start : Int) ≤ failure.depth
  depth_le : failure.depth ≤ blockEnd stream start
  position_ge : max ((start : Int) - 1) 0 ≤ failure.position
  position_le : failure.position ≤ failure.depth
  pointed : (start : Int) ≤ failure.position ∨
    failure.depth = start ∧ failure.kind ≠ .nestingTooDeep

/-- What a rule answers when it is confined to its start: a match that satisfies
`Ends`, or a failure noticed from the start on. -/
def Answers {α : Type} (stream : TokenStream) (start : Nat) (Ends : α → Prop) :
    Except Diagnostic α → Prop
  | .ok value => Ends value
  | .error failure => Within stream start failure

/-- A match that takes at least one token and stays on the level of its start. -/
structure Spans {α : Type} (stream : TokenStream) (start : Nat) (found : Match α) : Prop where
  lt : start < found.stop
  reaches : Reaches stream start found.stop

/-- Kinds of tokens that expressions start with. -/
def startsExpression : Kind → Bool
  | .identifier | .integerConstant | .doubleConstant | .charConstant | .stringLiteral
  | .leftParen | .plus | .minus | .exclamation => true
  | _ => false

/-- A match of an expression. -/
structure SpansExpr (stream : TokenStream) (start : Nat) (found : Match Expr) : Prop
    extends Spans stream start found where
  starts : startsExpression (stream.kindAt start) = true

/-- An outcome that is no failure because of too deep nesting. -/
def Mild {α : Type} (outcome : Except Diagnostic α) : Prop :=
  ∀ failure, outcome = .error failure → failure.kind ≠ .nestingTooDeep

/-- A remembered result that is confined to its start.  Where no expression starts,
nothing nests, so too deep nesting is not the reason of the failure. -/
structure Settled (stream : TokenStream) (start : Nat) (entry : Memo.Entry) : Prop where
  answers : Answers stream start (SpansExpr stream start) entry.outcome
  within : ∀ failure, entry.superseded = some failure → Within stream start failure
  mild : startsExpression (stream.kindAt start) = false → Mild entry.outcome

/-- Remembered results are confined to their starts. -/
def Orderly (stream : TokenStream) (memo : Memo) : Prop :=
  ∀ stratum start entry, memo.find? stratum start = some entry → Settled stream start entry

theorem orderly_empty (stream : TokenStream) : Orderly stream .empty := by
  intro stratum start entry found
  rw [Memo.find?_empty] at found
  cases found

theorem Orderly.insert {stream : TokenStream} {memo : Memo} (orderly : Orderly stream memo)
    {stratum : Stratum} {start : Nat} {entry : Memo.Entry} (settled : Settled stream start entry) :
    Orderly stream (memo.insert stratum start entry) := by
  intro other place known found
  rw [Memo.find?_insert] at found
  split at found
  · rename_i same
    obtain ⟨-, rfl⟩ := same
    cases found
    exact settled
  · exact orderly other place known found

/-- What a computation that is confined to an index does to the state. -/
structure Effect (stream : TokenStream) (start : Nat) (before after : State) : Prop where
  orderly : Orderly stream after.memo
  frame : ∀ stratum index, index < start ∨ blockEnd stream start < index →
    after.memo.find? stratum index = before.memo.find? stratum index
  noted : ∃ added, after.noted = added ++ before.noted ∧
    ∀ failure ∈ added, Within stream start failure
  counted : before.errorCount ≤ after.errorCount
  reported : after.reported = before.reported
  nesting : after.nesting = before.nesting
  met : ∃ added, after.met = added ++ before.met ∧
    ∀ failure ∈ added, Within stream start failure

/-- The one way in which a run may be broken off. -/
def Excused (stream : TokenStream) (fault : Fault) : Prop :=
  fault = .constantTooLarge ∧ ∃ index token, stream.get? index = some token ∧
    token.kind = .integerConstant ∧ token.constant = .tooLarge

/-- A computation that is confined to an index, with what is known of its value. -/
def Steady {α : Type} (stream : TokenStream) (start : Nat) (compute : Engine α)
    (Post : α → Prop) : Prop :=
  ∀ before, Orderly stream before.memo →
    match compute before with
    | .ok value after => Effect stream start before after ∧ Post value
    | .error fault _ => Excused stream fault

/-- A step of a rule that is confined to an index. -/
def Confined {α : Type} (stream : TokenStream) (start : Nat) (attempt : Attempt α)
    (Ends : α → Prop) : Prop :=
  Steady stream start attempt.run (Answers stream start Ends)

namespace Within

variable {stream : TokenStream} {start middle : Nat} {failure first second : Diagnostic}

theorem from_inner (encloses : Encloses stream start middle)
    (within : Within stream middle failure) : Within stream start failure := by
  have ordered := encloses.le
  have shorter := encloses.end_le
  have depthGe := within.depth_ge
  have depthLe := within.depth_le
  have positionGe := within.position_ge
  refine ⟨by omega, by omega, by omega, within.position_le, ?_⟩
  rcases within.pointed with ahead | ⟨depthEq, mild⟩
  · exact .inl (by omega)
  · by_cases same : start = middle
    · exact .inr ⟨by omega, mild⟩
    · exact .inl (by omega)

theorem failure_at (reached : Reaches stream start middle) (kind : DiagnosticKind)
    (detail : Option String) : Within stream start (.failure kind middle none detail) := by
  have ordered := reached.le
  have bound := reached.le_blockEnd
  refine ⟨?_, ?_, ?_, ?_, .inl ?_⟩ <;> simp [Diagnostic.failure] <;> omega

theorem failure_between {stop : Nat} (reached : Reaches stream start middle)
    (ordered : middle ≤ stop) (inside : stop ≤ blockEnd stream start) (kind : DiagnosticKind) :
    Within stream start (.failure kind middle (some (stop : Int))) := by
  have first := reached.le
  refine ⟨?_, ?_, ?_, ?_, .inl ?_⟩ <;> simp [Diagnostic.failure] <;> omega

theorem missing_at (reached : Reaches stream start middle) (expectation : Expectation)
    (others : List Expectation) : Within stream start (.missing middle expectation others) := by
  have ordered := reached.le
  have bound := reached.le_blockEnd
  have depthEq : (Diagnostic.missing middle expectation others).depth = middle := rfl
  have positionBounds :
      (middle : Int) - 1 ≤ (Diagnostic.missing middle expectation others).position ∧
      0 ≤ (Diagnostic.missing middle expectation others).position ∧
      (Diagnostic.missing middle expectation others).position ≤ middle := by
    simp only [Diagnostic.missing]
    split
    · split
      · simp only
        omega
      · split <;> simp only <;> omega
    · simp only
      omega
  refine ⟨by omega, by omega, by omega, by omega, ?_⟩
  by_cases same : start = middle
  · exact .inr ⟨by omega, nofun⟩
  · exact .inl (by omega)

theorem merge (within : Within stream start first) : Within stream start (first.merge second) := by
  have kept : (first.merge second).depth = first.depth ∧
      (first.merge second).position = first.position ∧
        (first.merge second).kind = first.kind := by
    unfold Diagnostic.merge Diagnostic.merge?
    split
    · split <;> simp
    · simp
  obtain ⟨depthEq, positionEq, kindEq⟩ := kept
  exact ⟨by rw [depthEq]; exact within.depth_ge, by rw [depthEq]; exact within.depth_le,
    by rw [positionEq]; exact within.position_ge,
    by rw [depthEq, positionEq]; exact within.position_le,
    by rw [depthEq, positionEq, kindEq]; exact within.pointed⟩

theorem deepest (firstWithin : Within stream start first)
    (secondWithin : Within stream start second) :
    Within stream start (first.deepest second) := by
  unfold Diagnostic.deepest
  split
  · exact secondWithin
  · split
    · exact firstWithin
    · exact firstWithin.merge

theorem describeAt (inside : start ≤ stream.lastIndex) (description : String)
    (within : Within stream start failure) :
    Within stream start (describeAt start description failure) := by
  unfold Parser.describeAt
  split
  · exact missing_at (.refl inside) _ []
  · exact within

theorem deepestNoted {added : List Diagnostic}
    (all : ∀ failure ∈ added, Within stream start failure) :
    ∀ failure, deepestNoted added = some failure → Within stream start failure := by
  induction added with
  | nil => simp [Parser.deepestNoted]
  | cons latest earlier induction =>
      intro failure found
      have latestWithin := all latest (by simp)
      have earlierWithin := induction (fun failure member => all failure (by simp [member]))
      rw [Parser.deepestNoted] at found
      cases known : Parser.deepestNoted earlier with
      | none =>
          simp only [known, Option.some.injEq] at found
          exact found ▸ latestWithin
      | some deepestEarlier =>
          simp only [known, Option.some.injEq] at found
          exact found ▸ (earlierWithin deepestEarlier known).deepest latestWithin

end Within

theorem Answers.mono {α : Type} {stream : TokenStream} {start : Nat} {P Q : α → Prop}
    {outcome : Except Diagnostic α} (weaker : ∀ value, P value → Q value)
    (answers : Answers stream start P outcome) : Answers stream start Q outcome := by
  cases outcome with
  | ok value => exact weaker value answers
  | error failure => exact answers

namespace Spans

variable {α β : Type} {stream : TokenStream} {start middle : Nat}

theorem of_stop {found : Match α} (lt : start < middle) (reached : Reaches stream start middle)
    (stopEq : found.stop = middle) : Spans stream start found := by
  subst stopEq
  exact ⟨lt, reached⟩

theorem inside {found : Match α} (spans : Spans stream start found) :
    found.stop ≤ stream.lastIndex :=
  spans.reaches.inside

end Spans

namespace Effect

variable {stream : TokenStream} {start middle : Nat} {before between after : State}

theorem refl (orderly : Orderly stream before.memo) : Effect stream start before before :=
  ⟨orderly, fun _ _ _ => rfl, ⟨[], rfl, by simp⟩, Nat.le_refl _, rfl, rfl, [], rfl, by simp⟩

private theorem added_trans {first second third : List Diagnostic}
    (early : ∃ added, second = added ++ first ∧ ∀ failure ∈ added, Within stream start failure)
    (late : ∃ added, third = added ++ second ∧ ∀ failure ∈ added, Within stream start failure) :
    ∃ added, third = added ++ first ∧ ∀ failure ∈ added, Within stream start failure := by
  obtain ⟨firstAdded, firstEq, firstWithin⟩ := early
  obtain ⟨secondAdded, secondEq, secondWithin⟩ := late
  refine ⟨secondAdded ++ firstAdded, ?_, ?_⟩
  · rw [secondEq, firstEq, List.append_assoc]
  · intro failure member
    rcases List.mem_append.mp member with late | early
    · exact secondWithin failure late
    · exact firstWithin failure early

theorem trans (first : Effect stream start before between)
    (second : Effect stream start between after) : Effect stream start before after := by
  refine ⟨second.orderly, ?_, added_trans first.noted second.noted,
    Nat.le_trans first.counted second.counted, second.reported.trans first.reported,
    second.nesting.trans first.nesting, added_trans first.met second.met⟩
  intro stratum index outside
  exact (second.frame stratum index outside).trans (first.frame stratum index outside)

theorem noted_within (effect : Effect stream start before after) (nothing : before.noted = []) :
    ∀ failure ∈ after.noted, Within stream start failure := by
  obtain ⟨added, notedEq, within⟩ := effect.noted
  rw [notedEq, nothing, List.append_nil]
  exact within

theorem from_inner (encloses : Encloses stream start middle)
    (effect : Effect stream middle before after) : Effect stream start before after := by
  obtain ⟨added, addedEq, within⟩ := effect.noted
  obtain ⟨failures, failuresEq, metWithin⟩ := effect.met
  refine ⟨effect.orderly, ?_, ⟨added, addedEq, ?_⟩, effect.counted, effect.reported,
    effect.nesting, failures, failuresEq, ?_⟩
  · intro stratum index outside
    have ordered := encloses.le
    have shorter := encloses.end_le
    exact effect.frame stratum index (by omega)
  · intro failure member
    exact (within failure member).from_inner encloses
  · intro failure member
    exact (metWithin failure member).from_inner encloses

end Effect

namespace Steady

variable {α β : Type} {stream : TokenStream} {start middle : Nat}
  {compute : Engine α} {next : α → Engine β} {P : α → Prop} {Q : β → Prop}

theorem pure {value : α} (post : P value) : Steady stream start (pure value : Engine α) P := by
  intro before orderly
  exact ⟨.refl orderly, post⟩

theorem bind (first : Steady stream start compute P)
    (second : ∀ value, P value → Steady stream start (next value) Q) :
    Steady stream start (compute >>= next) Q := by
  intro before orderly
  have firstRun := first before orderly
  change match EStateM.bind compute next before with
    | .ok value after => Effect stream start before after ∧ Q value
    | .error fault _ => Excused stream fault
  unfold EStateM.bind
  cases run : compute before with
  | error fault after =>
      rw [run] at firstRun
      exact firstRun
  | ok value between =>
      rw [run] at firstRun
      obtain ⟨firstEffect, post⟩ := firstRun
      have secondRun := second value post between firstEffect.orderly
      dsimp only
      cases rest : next value between with
      | error fault after =>
          rw [rest] at secondRun
          exact secondRun
      | ok result after =>
          rw [rest] at secondRun
          exact ⟨firstEffect.trans secondRun.1, secondRun.2⟩

theorem mono {weaker : α → Prop} (steady : Steady stream start compute P)
    (implies : ∀ value, P value → weaker value) : Steady stream start compute weaker := by
  intro before orderly
  have run := steady before orderly
  cases result : compute before with
  | error fault after =>
      rw [result] at run
      exact run
  | ok value after =>
      rw [result] at run
      exact ⟨run.1, implies value run.2⟩

theorem from_later (reached : Reaches stream start middle)
    (steady : Steady stream middle compute P) : Steady stream start compute P := by
  intro before orderly
  have run := steady before orderly
  cases result : compute before with
  | error fault after =>
      rw [result] at run
      exact run
  | ok value after =>
      rw [result] at run
      exact ⟨run.1.from_inner reached.encloses, run.2⟩

theorem note {failure : Diagnostic} (within : Within stream start failure) :
    Steady stream start (note failure) fun _ => True := by
  intro before orderly
  refine ⟨⟨orderly, fun _ _ _ => rfl, ⟨[failure], rfl, ?_⟩, Nat.le_refl _, rfl, rfl,
    [], rfl, by simp⟩, trivial⟩
  intro other member
  rw [List.mem_singleton.mp member]
  exact within

theorem meet {failures : List Diagnostic}
    (within : ∀ failure ∈ failures, Within stream start failure) :
    Steady stream start (meet failures) fun _ => True :=
  fun _ orderly => ⟨⟨orderly, fun _ _ _ => rfl, ⟨[], rfl, by simp⟩, Nat.le_refl _, rfl, rfl,
    failures, rfl, within⟩, trivial⟩

theorem noteAny {failure : Option Diagnostic}
    (within : ∀ known, failure = some known → Within stream start known) :
    Steady stream start (noteAny failure) fun _ => True := by
  cases failure with
  | none => exact pure trivial
  | some known => exact note (within known rfl)

theorem abort {fault : Fault} (excused : Excused stream fault) :
    Steady stream start (abort fault : Engine α) P :=
  fun _ _ => excused

end Steady

namespace Confined

variable {α β : Type} {stream : TokenStream} {start middle : Nat}
  {attempt : Attempt α} {next : α → Attempt β} {P : α → Prop} {Q : β → Prop}

theorem pure {value : α} (post : P value) : Confined stream start (pure value : Attempt α) P := by
  have answers : Answers stream start P (.ok value) := post
  exact Steady.pure answers

theorem throw {failure : Diagnostic} (within : Within stream start failure) :
    Confined stream start (throw failure : Attempt α) P := by
  have answers : Answers stream start P (.error failure) := within
  exact Steady.pure answers

theorem lift {compute : Engine α} (steady : Steady stream start compute P) :
    Confined stream start (liftM compute : Attempt α) P := by
  change Steady stream start (compute >>= fun value => Pure.pure (.ok value))
    (Answers stream start P)
  exact Steady.bind steady fun value post => pure post

theorem bind (first : Confined stream start attempt P)
    (second : ∀ value, P value → Confined stream start (next value) Q) :
    Confined stream start (attempt >>= next) Q := by
  change Steady stream start (attempt.run >>= ExceptT.bindCont next) (Answers stream start Q)
  refine Steady.bind first ?_
  intro outcome answers
  cases outcome with
  | ok value => exact second value answers
  | error failure => exact throw answers

theorem mono {weaker : α → Prop} (confined : Confined stream start attempt P)
    (implies : ∀ value, P value → weaker value) : Confined stream start attempt weaker :=
  Steady.mono confined fun _ => Answers.mono implies

theorem from_later (reached : Reaches stream start middle)
    (confined : Confined stream middle attempt P) : Confined stream start attempt P := by
  refine (Steady.from_later reached confined).mono ?_
  intro outcome answers
  cases outcome with
  | ok value => exact answers
  | error failure => exact Within.from_inner reached.encloses answers

theorem ran {before after : State} {outcome : Except Diagnostic α}
    (confined : Confined stream start attempt P)
    (run : attempt.run before = .ok outcome after) (orderly : Orderly stream before.memo) :
    Effect stream start before after ∧ Answers stream start P outcome := by
  have alone := confined before orderly
  rw [run] at alone
  exact alone

end Confined

end MiniC.Parser
