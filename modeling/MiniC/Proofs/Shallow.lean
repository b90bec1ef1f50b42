import MiniC.Parser.Statement
import MiniC.Proofs.ConfinedStatement
import MiniC.Proofs.Lockstep

/-!
# Nesting close to the limit

Two facts about the last levels of nesting.  As long as expressions may nest two levels
deep, a token that no expression starts with is refused because of what it is and not
because of the nesting.  And a statement that may not nest as deep remembers nothing: its
expressions are recalled or nest too deep.
-/

namespace MiniC.Parser

section Hopeless

variable {input : Input} {start budget : Nat} {before after : State} {outcome : Outcome Expr}
  {entry : Memo.Entry}

theorem expression_recalled (caching : input.caching = true) {stratum : Stratum}
    (known : before.memo.find? stratum start = some entry)
    (run : (expression input budget stratum start).run before = .ok outcome after) :
    outcome = entry.outcome := by
  have recalled : recalled? input before.memo stratum start = some entry := by
    unfold recalled?
    rw [if_pos caching, known]
  have answered : ∀ {compute : Attempt (Match Expr)},
      (supervise input start (remembered input stratum start compute)).run before =
        .ok outcome after → outcome = entry.outcome := by
    intro compute run
    obtain ⟨between, ran, -⟩ := supervise_ok run
    rcases remembered_ok ran with ⟨other, found, rfl, -⟩ | ⟨_, missed, -⟩
    · rw [recalled] at found
      cases found
      rfl
    · rw [recalled] at missed
      cases missed
  cases budget with
  | zero => exact answered run
  | succ budget => exact answered run

variable (caching : input.caching = true)
  (hopeless : startsExpression (input.stream.kindAt start) = false)
  (orderly : Orderly input.stream before.memo)

include caching hopeless orderly

theorem unary_hopeless (admits : Admits input before.nesting 1)
    (run : (expression input (budget + 1) .unary start).run before = .ok outcome after) :
    Mild outcome ∧ ∃ entry, after.memo.find? .unary start = some entry := by
  obtain ⟨final, ran, rfl⟩ := supervise_ok run
  rcases remembered_ok ran with
    ⟨entry, recalled, rfl, rfl⟩ | ⟨between, -, computed, rfl⟩
  · unfold recalled? at recalled
    rw [if_pos caching] at recalled
    exact ⟨(orderly .unary start entry recalled).mild hopeless, entry, by simpa using recalled⟩
  · obtain ⟨inner, bodyRun, rfl⟩ := guarded_inside computed admits
    have noOperator : UnaryOperator.ofKind? (input.kindAt start) = none :=
      unaryOperator_hopeless hopeless
    unfold expressionBody at bodyRun
    dsimp only at bodyRun
    rw [noOperator] at bodyRun
    obtain ⟨answered, ruleRun, rfl⟩ := supervise_ok bodyRun
    rcases bind_ok ruleRun with ⟨first, _, matched, -⟩ | ⟨failure, failed, rfl⟩
    · exact nomatch (primary_hopeless hopeless matched).1
    · obtain ⟨missing, same⟩ := primary_hopeless hopeless failed
      have unfelt : answered.limitFelt = false := by simp [same, State.entered]
      refine ⟨?_, ⟨.error failure, answered.superseded⟩, ?_⟩
      · intro other equal
        cases equal
        cases missing
        exact nofun
      · simp [State.left, State.superseded, unfelt, Memo.find?_insert]

theorem cast_hopeless (admits : Admits input before.nesting 1)
    (known : before.memo.find? .unary start = some entry)
    (run : (expression input (budget + 1) .cast start).run before = .ok outcome after) :
    Mild outcome := by
  obtain ⟨final, ran, -⟩ := supervise_ok run
  rcases remembered_ok ran with
    ⟨other, recalled, rfl, -⟩ | ⟨between, -, computed, -⟩
  · unfold recalled? at recalled
    rw [if_pos caching] at recalled
    exact (orderly .cast start other recalled).mild hopeless
  · obtain ⟨inner, bodyRun, -⟩ := guarded_inside computed admits
    unfold expressionBody at bodyRun
    dsimp only at bodyRun
    split at bodyRun
    · rename_i both
      have opens : input.stream.kindAt start = .leftParen := both.1
      rw [opens] at hopeless
      cases hopeless
    · have kept : ({ before with noted := [], limitFelt := false } : State).entered.memo.find?
          .unary start = some entry := known
      rw [expression_recalled caching kept bodyRun]
      exact (orderly .unary start entry known).mild hopeless

theorem assignment_hopeless (inside : start ≤ input.stream.lastIndex)
    (admits : Admits input before.nesting 2)
    (run : (expression input (budget + 2) .assignment start).run before = .ok outcome after) :
    Mild outcome := by
  obtain ⟨final, ran, -⟩ := supervise_ok run
  rcases remembered_ok ran with
    ⟨other, recalled, rfl, -⟩ | ⟨between, -, computed, -⟩
  · unfold recalled? at recalled
    rw [if_pos caching] at recalled
    exact (orderly .assignment start other recalled).mild hopeless
  · obtain ⟨inner, bodyRun, -⟩ := guarded_inside computed admits
    let entered : State := ({ before with noted := [], limitFelt := false } : State).entered
    have nestedConfined := expression_confined input (budget + 1)
    have refuses := nestedConfined.refuses inside hopeless
    have started : Orderly input.stream entered.memo := orderly
    have below : Admits input entered.nesting 1 := admits.succ
    -- the unary operand fails first, and the failure of the cast is found remembered
    have form : ∀ {answer : Outcome Expr} {last : State},
        (assignmentForm input (expression input (budget + 1)) start).run entered =
            .ok answer last →
          Mild answer ∧ ∃ entry, last.memo.find? .unary start = some entry := by
      intro answer last ran
      obtain ⟨answered, ruleRun, rfl⟩ := supervise_ok ran
      rcases bind_ok ruleRun with ⟨target, _, matched, -⟩ | ⟨failure, failed, rfl⟩
      · exact ((refuses .unary).ran matched started).2.elim
      · obtain ⟨mild, kept⟩ := unary_hopeless caching hopeless started below failed
        refine ⟨fun other same => ?_, by simpa using kept⟩
        cases same
        exact mild failure rfl
    rcases firstOf_pair_ok bodyRun with
      ⟨only, -⟩ | ⟨failure, middle, answer, last, failed, failureMild, ran, chosen⟩
    · exact (form only).1
    · obtain ⟨-, entry, known⟩ := form failed
      obtain ⟨effect, -⟩ := (assignmentForm_confined nestedConfined inside).ran failed started
      have castMild : Mild answer := by
        obtain ⟨answered, ruleRun, -⟩ := supervise_ok ran
        rcases bind_ok ruleRun with ⟨first, _, matched, -⟩ | ⟨other, castFailed, rfl⟩
        · exact ((refuses .cast).ran matched effect.orderly).2.elim
        · have mild := cast_hopeless caching hopeless effect.orderly
            (by rwa [effect.nesting]) known castFailed
          intro deepest same
          cases same
          exact mild other rfl
      cases chosen with
      | found found => exact fun _ impossible => nomatch impossible
      | tooDeep tooDeep => exact castMild
      | deepest mild =>
          intro deepest same
          cases same
          exact deepest_mild failureMild mild

/-- With two levels left, an expression statement is not refused because of nesting. -/
theorem expressionStatement_mild (inside : start ≤ input.stream.lastIndex)
    (enough : 2 ≤ budget) (admits : Admits input before.nesting 2) {outcome : Outcome Statement}
    (run : (expressionStatement input (expression input budget) start).run before =
      .ok outcome after) : Mild outcome := by
  obtain ⟨rest, rfl⟩ : ∃ rest, budget = rest + 2 := ⟨budget - 2, by omega⟩
  obtain ⟨answered, ruleRun, -⟩ := supervise_ok run
  rcases bind_ok ruleRun with ⟨value, _, matched, -⟩ | ⟨failure, failed, rfl⟩
  · exact (((expression_confined input (rest + 2)).refuses inside hopeless .assignment).ran
      matched orderly).2.elim
  · have mild := assignment_hopeless caching hopeless orderly inside admits failed
    intro other same
    cases same
    exact mild failure rfl

end Hopeless

/-- A computation that leaves what is remembered as it is, at some nesting. -/
def Still {α : Type} (active : Nat) (compute : Engine α) : Prop :=
  ∀ before, before.nesting = active →
    (finalState (compute before)).memo = before.memo ∧
      (finalState (compute before)).nesting = active

/-- A step of a rule that leaves what is remembered as it is. -/
def Idle {α : Type} (active : Nat) (attempt : Attempt α) : Prop :=
  Still active attempt.run

namespace Still

variable {α β : Type} {active : Nat} {compute : Engine α} {next : α → Engine β}

theorem pure {value : α} : Still active (pure value : Engine α) :=
  fun _ here => ⟨rfl, here⟩

theorem abort {fault : Fault} : Still active (abort fault : Engine α) :=
  fun _ here => ⟨rfl, here⟩

theorem change {edit : State → State} (kept : ∀ state, (edit state).memo = state.memo)
    (nesting : ∀ state, (edit state).nesting = state.nesting) : Still active (modify edit) :=
  fun before here => ⟨kept before, (nesting before).trans here⟩

theorem bind (first : Still active compute) (second : ∀ value, Still active (next value)) :
    Still active (compute >>= next) := by
  intro before here
  have firstRun := first before here
  change (finalState (EStateM.bind compute next before)).memo = _ ∧
    (finalState (EStateM.bind compute next before)).nesting = _
  unfold EStateM.bind
  cases run : compute before with
  | error fault after =>
      rw [run] at firstRun
      exact firstRun
  | ok value after =>
      rw [run] at firstRun
      obtain ⟨memo, nesting⟩ := second value after firstRun.2
      exact ⟨memo.trans firstRun.1, nesting⟩

theorem ite {test : Prop} [Decidable test] {other : Engine α} (yes : Still active compute)
    (no : Still active other) : Still active (if test then compute else other) := by
  split
  · exact yes
  · exact no

end Still

namespace Idle

variable {α β : Type} {active : Nat} {attempt : Attempt α} {next : α → Attempt β}

theorem pure {value : α} : Idle active (pure value : Attempt α) :=
  Still.pure

theorem throw {failure : Diagnostic} : Idle active (throw failure : Attempt α) :=
  Still.pure

theorem lift {compute : Engine α} (still : Still active compute) :
    Idle active (liftM compute : Attempt α) := by
  change Still active (compute >>= fun value => Pure.pure (Except.ok value))
  exact Still.bind still fun _ => Still.pure

theorem bind (first : Idle active attempt) (second : ∀ value, Idle active (next value)) :
    Idle active (attempt >>= next) := by
  change Still active (attempt.run >>= ExceptT.bindCont next)
  refine Still.bind first fun outcome => ?_
  cases outcome with
  | ok value => exact second value
  | error failure => exact throw

theorem ite {test : Prop} [Decidable test] {other : Attempt α} (yes : Idle active attempt)
    (no : Idle active other) : Idle active (if test then attempt else other) := by
  split
  · exact yes
  · exact no

theorem firstOf {first : Attempt (Match α)} {others : List (Attempt (Match α))}
    (firstIdle : Idle active first) (idle : ∀ other ∈ others, Idle active other) :
    Idle active (firstOf first others) := by
  have continued : ∀ best,
      Still active (Choice.continueWith note best (others.map ExceptT.run)) := by
    induction others with
    | nil => exact fun _ => Still.pure
    | cons other others induction =>
        intro best
        refine Still.bind (idle other (by simp)) fun outcome => ?_
        cases outcome with
        | ok found => exact Still.bind (.change (fun _ => rfl) fun _ => rfl) fun _ => .pure
        | error failure =>
            exact Still.ite .pure
              (induction (fun other member => idle other (by simp [member])) _)
  refine Still.bind firstIdle fun outcome => ?_
  cases outcome with
  | ok found => exact .pure
  | error failure => exact Still.ite .pure (continued failure)

end Idle

section Idleness

variable {α : Type} {input : Input} {active start : Nat}

theorem supervise_idle {rule : Attempt (Match α)} (idle : Idle active rule) :
    Idle active (supervise input start rule) := by
  unfold supervise
  split
  · exact Still.ite .abort
      (.bind idle fun _ =>
        .ite (.bind (.change (fun _ => rfl) fun _ => rfl) fun _ => .pure) .abort)
  · exact idle

theorem expect_idle {kind : Kind} : Idle active (expect input kind start) :=
  .ite .pure .throw

theorem tooDeep_idle {levels : Nat} : Idle active (tooDeep start levels : Attempt α) :=
  fun _ here => ⟨rfl, here⟩

theorem guarded_idle {rule : Attempt (Match α)}
    (idle : refusal? input active = none → Idle (active + 1) rule) :
    Idle active (guarded input start rule) := by
  rintro before rfl
  cases refusal : refusal? input before.nesting with
  | some levels =>
      rw [guarded_refused refusal]
      exact ⟨rfl, rfl⟩
  | none =>
      obtain ⟨memo, nesting⟩ := idle refusal before.entered rfl
      rw [guarded_admitted refusal, finalState_deeper]
      exact ⟨memo, congrArg (· - 1) nesting⟩

theorem tokenAt_idle : Idle active (liftM (tokenAt input start) : Attempt Token) := by
  refine .lift ?_
  unfold tokenAt
  split
  · exact .pure
  · exact .abort

theorem specifiers_idle : Idle active (specifiers input start) :=
  supervise_idle (.bind tokenAt_idle fun _ => .ite .throw .pure)

theorem attempt_idle {scanned : Scanned} : Idle active scanned.attempt := by
  unfold Scanned.attempt
  split
  · exact .lift .abort
  · exact .throw
  · exact .pure

/-- Nested rules are used up within a budget, or refused at a nesting. -/
def UsedUp (input : Input) (budget active : Nat) : Prop :=
  budget = 0 ∨ ∃ levels, refusal? input active = some levels

/-- Where no level is left, an expression is recalled or nests too deep. -/
theorem expression_idle {budget : Nat} (used : UsedUp input budget active) {stratum : Stratum} :
    Idle active (expression input budget stratum start) := by
  have refused : ∀ {compute : Attempt (Match Expr)},
      (∀ before, before.nesting = active → ∃ failure after,
        compute.run before = .ok (.error failure) after ∧ after.memo = before.memo ∧
          after.nesting = before.nesting ∧ after.limitFelt = true) →
      Idle active (supervise input start (remembered input stratum start compute)) := by
    intro compute fails
    refine supervise_idle fun before here => ?_
    rw [remembered_run]
    cases recalled? input before.memo stratum start with
    | some entry =>
        dsimp only
        rw [replay_run]
        exact ⟨State.meeting_memo .., (State.meeting_nesting ..).trans here⟩
    | none =>
        obtain ⟨failure, after, run, memo, nesting, felt⟩ :=
          fails { before with noted := [], limitFelt := false } here
        dsimp only
        rw [anew_ok run, felt]
        exact ⟨memo, nesting.trans here⟩
  cases budget with
  | zero => exact refused fun before _ => exhausted_run input start _ before
  | succ budget =>
      obtain ⟨levels, refuses⟩ := used.resolve_left (Nat.succ_ne_zero budget)
      refine refused fun before here =>
        ⟨nestingFailure start levels, _, guarded_refused ?_, rfl, rfl, rfl⟩
      rwa [here]

theorem declarator_idle {budget : Nat} (used : UsedUp input budget active) :
    Idle active (declarator input budget start) := by
  refine supervise_idle (.bind attempt_idle fun stop => .ite .throw (.bind ?_ fun _ => .pure))
  cases budget with
  | zero => exact supervise_idle (guarded_idle fun _ => tooDeep_idle)
  | succ budget =>
      obtain ⟨levels, refuses⟩ := used.resolve_left (Nat.succ_ne_zero budget)
      exact supervise_idle (guarded_idle fun admitted => nomatch refuses.symm.trans admitted)

section Declarations

variable {nested : Nested} {declared : Nat → Attempt (Match Declarator)}
  (nestedIdle : ∀ stratum start, Idle active (nested stratum start))
  (declaredIdle : ∀ start, Idle active (declared start))

include nestedIdle

theorem initialValue_idle : Idle active (initialValue input nested start) :=
  .ite (.bind (nestedIdle _ _) fun _ => .pure) .pure

include declaredIdle

theorem initDeclarators_idle {fuel : Nat} :
    Idle active (initDeclarators input nested declared fuel start) := by
  induction fuel generalizing start with
  | zero => exact .lift .abort
  | succ fuel induction =>
      refine .bind (declaredIdle start) fun first => .bind (initialValue_idle nestedIdle) ?_
      exact fun found => .ite (.bind induction fun _ => .pure) .pure

theorem plainDeclaration_idle : Idle active (plainDeclaration input nested declared start) := by
  refine supervise_idle (.bind specifiers_idle fun types => ?_)
  refine .bind (.ite .pure (initDeclarators_idle nestedIdle declaredIdle)) fun list => ?_
  exact .bind expect_idle fun _ => .pure

end Declarations

theorem watched_still {rule : Attempt (Match α)} (idle : Idle active rule) :
    Still active (watched rule) := by
  intro before here
  have run := idle { before with noted := [] } here
  cases result : rule.run { before with noted := [] } with
  | error fault after =>
      rw [result] at run
      rw [watched_fault result]
      exact run
  | ok outcome after =>
      rw [result] at run
      rw [watched_ok result]
      exact run

theorem itemsFrom_still {item : Nat → Attempt (Match α)} {description : String}
    {limit fuel index : Nat} (idle : ∀ index, Idle active (item index)) :
    Still active (itemsFrom input item description limit fuel index) := by
  induction fuel generalizing index with
  | zero => exact .abort
  | succ fuel induction =>
      unfold itemsFrom
      refine .ite .pure (.bind (fun _ here => ⟨rfl, here⟩) fun state => ?_)
      refine .ite (.bind (.change (fun _ => rfl) fun _ => rfl) fun _ => .pure) ?_
      refine .bind (watched_still (idle index)) fun result => ?_
      obtain ⟨outcome, superseded⟩ := result
      cases outcome with
      | ok found =>
          exact .bind (.change (fun _ => rfl) fun _ => rfl) fun _ =>
            .bind induction fun _ => .pure
      | error failure =>
          refine .bind (.change (fun _ => rfl) fun _ => rfl) fun _ => ?_
          split
          · exact .abort
          · exact .bind (.change (fun _ => rfl) fun _ => rfl) fun _ =>
              .bind induction fun _ => .pure

end Idleness

section Statements

variable {input : Input} {nested : Nested} {inner : Nat → Attempt (Match Statement)}
  {declarations : Nat → Attempt (Match Declaration)} {active start : Nat}

theorem condition_idle (nestedIdle : ∀ stratum start, Idle active (nested stratum start)) :
    Idle active (condition input nested start) := by
  refine supervise_idle (.bind expect_idle fun first => ?_)
  exact .bind (nestedIdle _ _) fun value => .bind expect_idle fun _ => .pure

theorem anyForm_idle (nestedIdle : ∀ stratum start, Idle active (nested stratum start))
    (innerIdle : ∀ start, Idle active (inner start))
    (declarationsIdle : ∀ start, Idle active (declarations start)) :
    Idle active (anyForm input nested inner declarations start) := by
  have itemIdle : ∀ index, Idle active (blockItem inner declarations index) := by
    refine fun index => .firstOf (.bind (declarationsIdle index) fun _ => .pure) ?_
    simpa using innerIdle index
  refine .firstOf ?_ ?_
  · refine supervise_idle (.bind expect_idle fun _ => .bind (condition_idle nestedIdle) ?_)
    refine fun test => .bind (innerIdle _) fun thenBranch => ?_
    exact .ite (.bind (innerIdle _) fun _ => .pure) .pure
  · simp only [List.mem_cons, List.not_mem_nil, or_false, forall_eq_or_imp, forall_eq]
    refine ⟨?_, ?_, ?_, ?_, ?_, ?_, ?_⟩
    · refine supervise_idle (.bind expect_idle fun _ => .bind (condition_idle nestedIdle) ?_)
      exact fun test => .bind (innerIdle _) fun _ => .pure
    · refine supervise_idle (.bind expect_idle fun _ => .ite .pure ?_)
      exact .bind (nestedIdle _ _) fun _ => .ite .pure .pure
    · exact supervise_idle (.bind expect_idle fun _ => .bind expect_idle fun _ => .pure)
    · exact supervise_idle (.bind expect_idle fun _ => .bind expect_idle fun _ => .pure)
    · refine .bind (supervise_idle (.bind expect_idle fun _ => ?_)) fun _ => .pure
      exact .bind (.lift (itemsFrom_still itemIdle)) fun _ => .ite .pure .pure
    · exact supervise_idle (.bind expect_idle fun _ => .pure)
    · refine supervise_idle (.bind (nestedIdle _ _) fun _ => ?_)
      exact .bind expect_idle fun _ => .pure

theorem statementBody_idle (nestedIdle : ∀ stratum start, Idle active (nested stratum start))
    (innerIdle : ∀ start, Idle active (inner start))
    (declarationsIdle : ∀ start, Idle active (declarations start)) :
    Idle active (statementBody input nested inner declarations start) := by
  refine Still.bind (anyForm_idle nestedIdle innerIdle declarationsIdle) fun outcome => ?_
  cases outcome with
  | ok found => exact .pure
  | error failure => exact .pure

/-- A statement that may not nest two levels deep remembers nothing. -/
theorem statement_idle {budget : Nat} (shallow : ¬ (2 ≤ budget ∧ Admits input active 2)) :
    Idle active (statement input budget start) := by
  cases budget with
  | zero => exact supervise_idle (guarded_idle fun _ => tooDeep_idle)
  | succ budget =>
      refine supervise_idle (guarded_idle fun admitted => ?_)
      have used : UsedUp input budget (active + 1) := by
        by_cases zero : budget = 0
        · exact .inl zero
        cases refusal : refusal? input (active + 1) with
        | some levels => exact .inr ⟨levels, refusal⟩
        | none =>
            obtain ⟨below, room⟩ := refusal?_eq_none.mp refusal
            exact (shallow ⟨by omega, below, room⟩).elim
      refine statementBody_idle (fun _ _ => expression_idle used) (fun start => ?_) fun _ =>
        plainDeclaration_idle (fun _ _ => expression_idle used) fun _ => declarator_idle used
      cases budget with
      | zero => exact supervise_idle (guarded_idle fun _ => tooDeep_idle)
      | succ budget =>
          obtain ⟨levels, refuses⟩ := used.resolve_left (Nat.succ_ne_zero budget)
          exact supervise_idle (guarded_idle fun admitted =>
            nomatch refuses.symm.trans admitted)

end Statements

end MiniC.Parser
