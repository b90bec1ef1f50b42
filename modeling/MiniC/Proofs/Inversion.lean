import MiniC.Parser.State

/-!
# What a run that ended has done

A run that ended can be taken apart: the steps of a rule ended one after the
other, an ordered choice ended with one of its alternatives, and a supervised
rule ended as the rule itself.  From the runs of its parts the run of a rule is put
together again.
-/

namespace MiniC.Parser

variable {α β : Type} {before after : State}

theorem bind_ok {first : Attempt α} {next : α → Attempt β} {outcome : Except Diagnostic β}
    (run : (first >>= next).run before = .ok outcome after) :
    (∃ value between, first.run before = .ok (.ok value) between ∧
        (next value).run between = .ok outcome after) ∨
      ∃ failure, first.run before = .ok (.error failure) after ∧ outcome = .error failure := by
  change EStateM.bind first.run (ExceptT.bindCont next) before = _ at run
  unfold EStateM.bind at run
  cases firstRun : first.run before with
  | error fault between =>
      rw [firstRun] at run
      cases run
  | ok firstOutcome between =>
      rw [firstRun] at run
      cases firstOutcome with
      | ok value => exact .inl ⟨value, between, rfl, run⟩
      | error failure =>
          cases run
          exact .inr ⟨failure, rfl, rfl⟩

theorem bind_match {first : Attempt α} {next : α → Attempt β} {result : β}
    (run : (first >>= next).run before = .ok (.ok result) after) :
    ∃ value between, first.run before = .ok (.ok value) between ∧
      (next value).run between = .ok (.ok result) after := by
  rcases bind_ok run with matched | ⟨failure, -, impossible⟩
  · exact matched
  · cases impossible

/-- The state after failures were met, if rules are supervised. -/
def State.meeting (input : Input) (failures : List Diagnostic) (state : State) : State :=
  if input.supervised then { state with met := failures ++ state.met } else state

section Meeting

variable (input : Input) (failures : List Diagnostic) (state : State)

@[simp]
theorem State.meeting_memo : (state.meeting input failures).memo = state.memo := by
  unfold meeting
  split <;> rfl

@[simp]
theorem State.meeting_noted : (state.meeting input failures).noted = state.noted := by
  unfold meeting
  split <;> rfl

@[simp]
theorem State.meeting_limitFelt :
    (state.meeting input failures).limitFelt = state.limitFelt := by
  unfold meeting
  split <;> rfl

@[simp]
theorem State.meeting_errorCount :
    (state.meeting input failures).errorCount = state.errorCount := by
  unfold meeting
  split <;> rfl

@[simp]
theorem State.meeting_reported :
    (state.meeting input failures).reported = state.reported := by
  unfold meeting
  split <;> rfl

@[simp]
theorem State.meeting_nesting : (state.meeting input failures).nesting = state.nesting := by
  unfold meeting
  split <;> rfl

@[simp]
theorem State.meeting_peak : (state.meeting input failures).peak = state.peak := by
  unfold meeting
  split <;> rfl

end Meeting

theorem supervise_ok {input : Input} {start : Nat} {rule : Attempt (Match α)}
    {outcome : Outcome α}
    (run : (supervise input start rule).run before = .ok outcome after) :
    ∃ between, rule.run before = .ok outcome between ∧
      after = between.meeting input (failure? outcome).toList := by
  unfold supervise at run
  split at run
  · rename_i supervised
    change (if input.stream.lastIndex < start then abort .pastEnd
      else rule.run >>= fun outcome =>
        if Outcome.Inside input.stream start outcome then
          meet (failure? outcome).toList >>= fun _ => pure outcome
        else abort .pastEnd : Engine (Outcome α)) before = _ at run
    split at run
    · cases run
    · change EStateM.bind rule.run _ before = _ at run
      unfold EStateM.bind at run
      cases ruleRun : rule.run before with
      | error fault between =>
          rw [ruleRun] at run
          cases run
      | ok ruleOutcome between =>
          simp only [ruleRun] at run
          split at run
          · cases run
            exact ⟨between, rfl, by simp [State.meeting, supervised]⟩
          · cases run
  · rename_i plain
    exact ⟨after, run, by simp [State.meeting, plain]⟩

theorem lift_ok {compute : Engine α} {outcome : Except Diagnostic α}
    (run : (liftM compute : Attempt α).run before = .ok outcome after) :
    ∃ value, compute before = .ok value after ∧ outcome = .ok value := by
  change EStateM.bind compute (fun value => pure (Except.ok value)) before = _ at run
  unfold EStateM.bind at run
  cases computed : compute before with
  | error fault between =>
      rw [computed] at run
      cases run
  | ok value between =>
      rw [computed] at run
      cases run
      exact ⟨value, rfl, rfl⟩

/-- A rule whose failures are described answers as the rule itself, but for the
failure. -/
theorem describe_ok {attempt : Attempt α} {handle : Diagnostic → Diagnostic}
    {outcome : Except Diagnostic α}
    (run : (tryCatch attempt fun failure => throw (handle failure)).run before =
      .ok outcome after) :
    ∃ answer, attempt.run before = .ok answer after ∧ outcome = answer.mapError handle := by
  change EStateM.bind attempt.run _ before = _ at run
  unfold EStateM.bind at run
  cases ran : attempt.run before with
  | error fault between =>
      rw [ran] at run
      cases run
  | ok answer between =>
      rw [ran] at run
      cases answer with
      | error failure =>
          cases run
          exact ⟨_, rfl, rfl⟩
      | ok value =>
          cases run
          exact ⟨_, rfl, rfl⟩

theorem describe_match {attempt : Attempt α} {handle : Diagnostic → Diagnostic} {value : α}
    (run : (tryCatch attempt fun failure => throw (handle failure)).run before =
      .ok (.ok value) after) : attempt.run before = .ok (.ok value) after := by
  obtain ⟨answer, ran, same⟩ := describe_ok run
  cases answer with
  | error failure => cases same
  | ok known =>
      cases same
      exact ran

theorem tokenAt_ok {input : Input} {index : Nat} {token : Token}
    (run : tokenAt input index before = .ok token after) :
    input.stream.get? index = some token ∧ after = before := by
  unfold tokenAt at run
  cases found : input.stream.get? index with
  | none =>
      rw [found] at run
      cases run
  | some known =>
      rw [found] at run
      cases run
      exact ⟨rfl, rfl⟩

theorem expect_ok {input : Input} {kind : Kind} {index : Nat} {outcome : Except Diagnostic Nat}
    (run : (expect input kind index).run before = .ok outcome after) :
    after = before ∧
      ((input.kindAt index = kind ∧ outcome = .ok (index + 1)) ∨
        (input.kindAt index ≠ kind ∧ outcome = .error (.missing index (.kind kind)))) := by
  unfold expect at run
  split at run
  · rename_i kindEq
    cases run
    exact ⟨rfl, .inl ⟨kindEq, rfl⟩⟩
  · rename_i different
    cases run
    exact ⟨rfl, .inr ⟨different, rfl⟩⟩

/-- The end of a search among alternatives after one of them answered. -/
def Searched (best : Diagnostic) (rest : List (Attempt (Match α))) (outcome : Outcome α)
    (after : State) : Outcome α → State → Prop
  | .ok found, between =>
      outcome = .ok found ∧ after = { between with noted := best :: between.noted }
  | .error failure, between =>
      if failure.kind = .nestingTooDeep then outcome = .error failure ∧ after = between
      else
        Choice.continueWith note (best.deepest failure) (rest.map ExceptT.run) between =
          .ok outcome after

theorem continueWith_ok {best : Diagnostic} {alternative : Attempt (Match α)}
    {rest : List (Attempt (Match α))} {outcome : Outcome α}
    (run : Choice.continueWith note best ((alternative :: rest).map ExceptT.run) before =
      .ok outcome after) :
    ∃ answer between, alternative.run before = .ok answer between ∧
      Searched best rest outcome after answer between := by
  change EStateM.bind alternative.run _ before = _ at run
  unfold EStateM.bind at run
  cases ran : alternative.run before with
  | error fault between =>
      rw [ran] at run
      cases run
  | ok answer between =>
      simp only [ran] at run
      refine ⟨answer, between, rfl, ?_⟩
      cases answer with
      | ok found =>
          cases run
          exact ⟨rfl, rfl⟩
      | error failure =>
          unfold Searched
          dsimp only at run ⊢
          split at run
          · rename_i tooDeep
            cases run
            rw [if_pos tooDeep]
            exact ⟨rfl, rfl⟩
          · rename_i mild
            rw [if_neg mild]
            exact run

theorem firstOf_ok {first : Attempt (Match α)} {others : List (Attempt (Match α))}
    {outcome : Outcome α}
    (run : (firstOf first others).run before = .ok outcome after) :
    (first.run before = .ok outcome after ∧
        ∀ failure, outcome = .error failure → failure.kind = .nestingTooDeep) ∨
      ∃ failure between, first.run before = .ok (.error failure) between ∧
        failure.kind ≠ .nestingTooDeep ∧
          Choice.continueWith note failure (others.map ExceptT.run) between =
            .ok outcome after := by
  change EStateM.bind first.run _ before = _ at run
  unfold EStateM.bind at run
  cases ran : first.run before with
  | error fault between =>
      rw [ran] at run
      cases run
  | ok answer between =>
      simp only [ran] at run
      cases answer with
      | ok found =>
          cases run
          exact .inl ⟨rfl, fun _ impossible => nomatch impossible⟩
      | error failure =>
          dsimp only at run
          split at run
          · rename_i tooDeep
            cases run
            refine .inl ⟨rfl, fun other same => ?_⟩
            cases same
            exact tooDeep
          · rename_i mild
            exact .inr ⟨failure, between, rfl, mild, run⟩

/-- How a choice ends with its last alternative after a failure: the match, with the
failure noted, a failure because of too deep nesting, or the deepest failure. -/
inductive Chosen (failure : Diagnostic) (last : State) : Outcome α → Outcome α → State → Prop
  | found (found : Match α) :
      Chosen failure last (.ok found) (.ok found)
        { last with noted := failure :: last.noted }
  | tooDeep {other : Diagnostic} (tooDeep : other.kind = .nestingTooDeep) :
      Chosen failure last (.error other) (.error other) last
  | deepest {other : Diagnostic} (mild : other.kind ≠ .nestingTooDeep) :
      Chosen failure last (.error other) (.error (failure.deepest other)) last

theorem firstOf_pair_ok {first second : Attempt (Match α)} {outcome : Outcome α}
    (run : (firstOf first [second]).run before = .ok outcome after) :
    (first.run before = .ok outcome after ∧
        ∀ failure, outcome = .error failure → failure.kind = .nestingTooDeep) ∨
      ∃ failure between answer last, first.run before = .ok (.error failure) between ∧
        failure.kind ≠ .nestingTooDeep ∧ second.run between = .ok answer last ∧
          Chosen failure last answer outcome after := by
  rcases firstOf_ok run with only | ⟨failure, between, failed, mild, searched⟩
  · exact .inl only
  · obtain ⟨answer, last, ran, ended⟩ := continueWith_ok searched
    refine .inr ⟨failure, between, answer, last, failed, mild, ran, ?_⟩
    cases answer with
    | ok found =>
        obtain ⟨rfl, rfl⟩ := ended
        exact .found found
    | error other =>
        unfold Searched at ended
        dsimp only at ended
        split at ended
        · rename_i tooDeep
          obtain ⟨rfl, rfl⟩ := ended
          exact .tooDeep tooDeep
        · rename_i otherMild
          cases ended
          exact .deepest otherMild

theorem remembered_run (input : Input) (stratum : Stratum) (start : Nat)
    (compute : Attempt (Match Expr)) (state : State) :
    (remembered input stratum start compute).run state =
      match recalled? input state.memo stratum start with
      | some entry => replay input entry state
      | none => anew stratum start compute state := by
  change (match recalled? input state.memo stratum start with
      | some entry => replay input entry
      | none => anew stratum start compute : Engine (Outcome Expr)) state = _
  cases recalled? input state.memo stratum start <;> rfl

theorem anew_fault {stratum : Stratum} {start : Nat} {compute : Attempt (Match Expr)}
    {state : State} {fault : Fault}
    (run : compute.run { state with noted := [], limitFelt := false } = .error fault after) :
    anew stratum start compute state =
      .error fault
        { after with noted := state.noted, limitFelt := state.limitFelt || after.limitFelt } := by
  change EStateM.bind (isolated compute.run) _ state = _
  simp only [EStateM.bind, isolated, run]

theorem anew_ok {stratum : Stratum} {start : Nat} {compute : Attempt (Match Expr)}
    {state : State} {outcome : Outcome Expr}
    (run : compute.run { state with noted := [], limitFelt := false } = .ok outcome after) :
    anew stratum start compute state =
      .ok outcome
        { after with
          noted := after.superseded.toList ++ state.noted
          limitFelt := state.limitFelt || after.limitFelt
          memo :=
            if after.limitFelt then after.memo
            else after.memo.insert stratum start ⟨outcome, after.superseded⟩ } := by
  change EStateM.bind (isolated compute.run) _ state = _
  simp only [EStateM.bind, isolated, run]
  cases after.superseded <;> cases after.limitFelt <;> rfl

theorem replay_run (input : Input) (entry : Memo.Entry) (state : State) :
    replay input entry state =
      .ok entry.outcome
        (State.meeting input entry.superseded.toList
          { state with noted := entry.superseded.toList ++ state.noted }) := by
  unfold replay State.meeting
  cases entry.superseded <;> cases input.supervised <;> rfl

/-- A run of a remembered rule recalled a result, or it ran the rule on its own and
remembered the result unless it met the nesting limit. -/
theorem remembered_ok {input : Input} {stratum : Stratum} {start : Nat}
    {compute : Attempt (Match Expr)} {outcome : Outcome Expr}
    (run : (remembered input stratum start compute).run before = .ok outcome after) :
    (∃ entry, recalled? input before.memo stratum start = some entry ∧ outcome = entry.outcome ∧
        after = State.meeting input entry.superseded.toList
          { before with noted := entry.superseded.toList ++ before.noted }) ∨
      ∃ between, recalled? input before.memo stratum start = none ∧
        compute.run { before with noted := [], limitFelt := false } = .ok outcome between ∧
        after =
          { between with
            noted := between.superseded.toList ++ before.noted
            limitFelt := before.limitFelt || between.limitFelt
            memo :=
              if between.limitFelt then between.memo
              else between.memo.insert stratum start ⟨outcome, between.superseded⟩ } := by
  rw [remembered_run] at run
  cases recalled : recalled? input before.memo stratum start with
  | some entry =>
      simp only [recalled, replay_run] at run
      cases run
      exact .inl ⟨entry, rfl, rfl, rfl⟩
  | none =>
      simp only [recalled] at run
      cases computed : compute.run { before with noted := [], limitFelt := false } with
      | error fault between =>
          rw [anew_fault computed] at run
          cases run
      | ok answer between =>
          rw [anew_ok computed] at run
          cases run
          exact .inr ⟨between, rfl, rfl, rfl⟩

/-! ## Guarded rules -/

section Guarded

variable {input : Input} {start : Nat} {rule : Attempt (Match α)} {outcome : Outcome α}

/-- How a guarded rule ended: it was refused, or it was run with one more rule active. -/
inductive Guarding (input : Input) (start : Nat) (rule : Attempt (Match α)) (before : State) :
    Outcome α → State → Prop
  | refused {levels : Nat} (refuses : refusal? input before.nesting = some levels) :
      Guarding input start rule before (.error (nestingFailure start levels))
        { before with limitFelt := true }
  | admitted {outcome : Outcome α} {between : State}
      (admits : refusal? input before.nesting = none)
      (ran : rule.run before.entered = .ok outcome between) :
      Guarding input start rule before outcome between.left

theorem get_ok (state : State) : (get : Engine State) state = .ok state state :=
  rfl

theorem guarded_refused {levels : Nat} (refuses : refusal? input before.nesting = some levels) :
    (guarded input start rule).run before =
      .ok (.error (nestingFailure start levels)) { before with limitFelt := true } := by
  unfold guarded
  simp only [ExceptT.run_mk, bind, EStateM.bind, get_ok, refuses]
  rfl

theorem guarded_admitted (admits : refusal? input before.nesting = none) :
    (guarded input start rule).run before = deeper rule.run before := by
  unfold guarded
  simp only [ExceptT.run_mk, bind, EStateM.bind, get_ok, admits]

theorem refusal?_le {active levels : Nat} (refuses : refusal? input active = some levels) :
    levels ≤ input.options.maxNesting := by
  unfold refusal? at refuses
  split at refuses
  · cases refuses
    exact Nat.le_refl _
  · rename_i below
    split at refuses
    · cases refuses
      omega
    · cases refuses

/-- A rule is refused when as many are active as the limit or the stack allow. -/
theorem refusal?_eq_none {active : Nat} :
    refusal? input active = none ↔
      active < input.options.maxNesting ∧ ∀ room ∈ input.stack, active < room := by
  unfold refusal?
  split
  · rename_i full
    exact iff_of_false nofun fun room => Nat.not_lt_of_le full room.1
  · rename_i below
    cases input.stack with
    | none => simp; omega
    | some room => simp; omega

/-- So many more guarded rules are admitted, one inside another. -/
structure Admits (input : Input) (active levels : Nat) : Prop where
  limit : active + levels ≤ input.options.maxNesting
  stack : ∀ room ∈ input.stack, active + levels ≤ room

namespace Admits

variable {active levels : Nat}

theorem admitted (admits : Admits input active (levels + 1)) : refusal? input active = none :=
  refusal?_eq_none.mpr ⟨Nat.lt_of_lt_of_le (by omega) admits.limit, fun room known =>
    Nat.lt_of_lt_of_le (by omega) (admits.stack room known)⟩

theorem succ (admits : Admits input active (levels + 1)) : Admits input (active + 1) levels := by
  refine ⟨?_, fun room known => ?_⟩
  · have limit := admits.limit
    omega
  · have enough := admits.stack room known
    omega

end Admits

theorem deeper_ok {compute : Engine α} {value : α}
    (ran : compute before.entered = .ok value after) :
    deeper compute before = .ok value after.left := by
  unfold deeper
  rw [ran]

theorem deeper_fault {compute : Engine α} {fault : Fault}
    (ran : compute before.entered = .error fault after) :
    deeper compute before = .error fault after.left := by
  unfold deeper
  rw [ran]

theorem guarded_ok (run : (guarded input start rule).run before = .ok outcome after) :
    Guarding input start rule before outcome after := by
  cases refusal : refusal? input before.nesting with
  | some levels =>
      rw [guarded_refused refusal] at run
      cases run
      exact .refused refusal
  | none =>
      rw [guarded_admitted refusal] at run
      cases ran : rule.run before.entered with
      | error fault between =>
          rw [deeper_fault ran] at run
          cases run
      | ok answer between =>
          rw [deeper_ok ran] at run
          cases run
          exact .admitted refusal ran

/-- A guarded rule whose budget is used up fails, whether it is refused or not, and leaves
behind that it did. -/
theorem exhausted_run (input : Input) (start levels : Nat) (before : State) :
    ∃ failure after,
      (guarded input start (tooDeep start levels : Attempt (Match α))).run before =
        .ok (.error failure) after ∧
      after.memo = before.memo ∧ after.nesting = before.nesting ∧ after.limitFelt = true := by
  cases refusal : refusal? input before.nesting with
  | some refused => exact ⟨_, _, guarded_refused refusal, rfl, rfl, rfl⟩
  | none => exact ⟨_, _, (guarded_admitted refusal).trans (deeper_ok rfl), rfl, rfl, rfl⟩

theorem guarded_inside {levels : Nat}
    (run : (guarded input start rule).run before = .ok outcome after)
    (admits : Admits input before.nesting (levels + 1)) :
    ∃ between, rule.run before.entered = .ok outcome between ∧ after = between.left := by
  cases guarded_ok run with
  | refused refuses => exact nomatch admits.admitted.symm.trans refuses
  | admitted _ ran => exact ⟨_, ran, rfl⟩

end Guarded

section Assembly

variable {between : State} {failure : Diagnostic}

theorem bind_found {first : Attempt α} {next : α → Attempt β} {value : α}
    (ran : first.run before = .ok (.ok value) between) :
    (first >>= next).run before = (next value).run between := by
  change EStateM.bind first.run (ExceptT.bindCont next) before = _
  simp only [EStateM.bind, ran]
  rfl

theorem bind_failed {first : Attempt α} {next : α → Attempt β}
    (ran : first.run before = .ok (.error failure) after) :
    (first >>= next).run before = .ok (.error failure) after := by
  change EStateM.bind first.run (ExceptT.bindCont next) before = _
  simp only [EStateM.bind, ran]
  rfl

theorem lift_found {compute : Engine α} {value : α} (ran : compute before = .ok value after) :
    (liftM compute : Attempt α).run before = .ok (.ok value) after := by
  change EStateM.bind compute (fun value => pure (Except.ok value)) before = _
  simp only [EStateM.bind, ran]
  rfl

theorem describe_run {attempt : Attempt α} {handle : Diagnostic → Diagnostic}
    {answer : Except Diagnostic α} (ran : attempt.run before = .ok answer after) :
    (tryCatch attempt fun failure => throw (handle failure)).run before =
      .ok (answer.mapError handle) after := by
  change EStateM.bind attempt.run _ before = _
  simp only [EStateM.bind, ran]
  cases answer <;> rfl

variable {first : Attempt (Match α)} {others : List (Attempt (Match α))}

theorem firstOf_found {found : Match α} (ran : first.run before = .ok (.ok found) after) :
    (firstOf first others).run before = .ok (.ok found) after := by
  change EStateM.bind first.run _ before = _
  simp only [EStateM.bind, ran]
  rfl

theorem firstOf_failed (ran : first.run before = .ok (.error failure) between)
    (mild : failure.kind ≠ .nestingTooDeep) :
    (firstOf first others).run before =
      Choice.continueWith note failure (others.map ExceptT.run) between := by
  change EStateM.bind first.run _ before = _
  simp only [EStateM.bind, ran, if_neg mild]

theorem firstOf_tooDeep (ran : first.run before = .ok (.error failure) after)
    (tooDeep : failure.kind = .nestingTooDeep) :
    (firstOf first others).run before = .ok (.error failure) after := by
  change EStateM.bind first.run _ before = _
  simp only [EStateM.bind, ran, if_pos tooDeep]
  rfl

theorem continueWith_found {best : Diagnostic} {found : Match α}
    (ran : first.run before = .ok (.ok found) between) :
    Choice.continueWith note best ((first :: others).map ExceptT.run) before =
      .ok (.ok found) { between with noted := best :: between.noted } := by
  change EStateM.bind first.run _ before = _
  simp only [EStateM.bind, ran]
  rfl

theorem continueWith_failed {best : Diagnostic}
    (ran : first.run before = .ok (.error failure) between)
    (mild : failure.kind ≠ .nestingTooDeep) :
    Choice.continueWith note best ((first :: others).map ExceptT.run) before =
      Choice.continueWith note (best.deepest failure) (others.map ExceptT.run) between := by
  change EStateM.bind first.run _ before = _
  simp only [EStateM.bind, ran, if_neg mild]

theorem continueWith_tooDeep {best : Diagnostic}
    (ran : first.run before = .ok (.error failure) after)
    (tooDeep : failure.kind = .nestingTooDeep) :
    Choice.continueWith note best ((first :: others).map ExceptT.run) before =
      .ok (.error failure) after := by
  change EStateM.bind first.run _ before = _
  simp only [EStateM.bind, ran, if_pos tooDeep]
  rfl

end Assembly

end MiniC.Parser
