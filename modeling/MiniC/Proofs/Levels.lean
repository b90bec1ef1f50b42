import MiniC.Proofs.Supervision

/-!
# How many levels a step needs

A guarded rule counts as active until it is left, and so the nesting after a step is
the one before it.  What a step does beyond that is bounded by the levels it needs:
no more guarded rules than these become active in it, each of them is admitted, and where
all of them are admitted none is refused.
-/

namespace MiniC.Parser

/-- What a computation within a budget did that needs so many levels. -/
structure Levels (input : Input) (budget need : Nat) (before after : State) : Prop where
  nesting : after.nesting = before.nesting
  peak : after.peak ≤ before.peak ∨ ∃ active, active < before.nesting + need ∧
    after.peak ≤ active + 1 ∧ refusal? input active = none
  unfelt : need ≤ budget → Admits input before.nesting need → after.limitFelt = before.limitFelt

/-- A computation needs no more than so many levels, whether it is broken off or not. -/
def RunNeeds {α : Type} (input : Input) (budget need : Nat) (compute : Engine α) : Prop :=
  ∀ state, Orderly input.stream state.memo →
    Levels input budget need state (finalState (compute state))

/-- A step of a rule needs no more than so many levels. -/
def Needs {α : Type} (input : Input) (budget need : Nat) (attempt : Attempt α) : Prop :=
  RunNeeds input budget need attempt.run

namespace Levels

variable {input : Input} {budget need : Nat} {before between after : State}

theorem of_same (nesting : after.nesting = before.nesting) (peak : after.peak = before.peak)
    (felt : after.limitFelt = before.limitFelt) : Levels input budget need before after :=
  ⟨nesting, .inl (Nat.le_of_eq peak), fun _ _ => felt⟩

theorem refl : Levels input budget need before before :=
  of_same rfl rfl rfl

theorem trans (first : Levels input budget need before between)
    (second : Levels input budget need between after) :
    Levels input budget need before after := by
  have nesting := first.nesting
  refine ⟨second.nesting.trans nesting, ?_, fun enough admits => ?_⟩
  · rcases second.peak with kept | ⟨active, below, reached, admitted⟩
    · exact first.peak.imp (Nat.le_trans kept) fun ⟨active, below, reached, admitted⟩ =>
        ⟨active, below, Nat.le_trans kept reached, admitted⟩
    · exact .inr ⟨active, by omega, reached, admitted⟩
  · exact (second.unfelt enough (by rwa [nesting])).trans (first.unfelt enough admits)

/-- A rule that is entered and left, one level above what it needs itself. -/
theorem entered (levels : Levels input budget need before.entered after)
    (admitted : refusal? input before.nesting = none) :
    Levels input (budget + 1) (need + 1) before after.left := by
  have nesting : after.nesting = before.nesting + 1 := levels.nesting
  refine ⟨?_, ?_, fun enough admits => levels.unfelt (Nat.le_of_succ_le_succ enough) admits.succ⟩
  · change after.nesting - 1 = before.nesting
    omega
  · have own : after.peak ≤ max before.peak (before.nesting + 1) ∨ ∃ active,
        active < before.nesting + 1 + need ∧ after.peak ≤ active + 1 ∧
          refusal? input active = none := levels.peak
    change after.peak ≤ before.peak ∨ ∃ active, active < before.nesting + (need + 1) ∧
      after.peak ≤ active + 1 ∧ refusal? input active = none
    rcases own with kept | ⟨active, below, reached, admitted⟩
    · by_cases raised : after.peak ≤ before.peak
      · exact .inl raised
      · exact .inr ⟨before.nesting, by omega, by omega, admitted⟩
    · exact .inr ⟨active, by omega, reached, admitted⟩

end Levels

namespace RunNeeds

variable {α β : Type} {input : Input} {budget need start : Nat} {compute : Engine α}
  {next : α → Engine β}

theorem of_same (nesting : ∀ state, (finalState (compute state)).nesting = state.nesting)
    (peak : ∀ state, (finalState (compute state)).peak = state.peak)
    (felt : ∀ state, (finalState (compute state)).limitFelt = state.limitFelt) :
    RunNeeds input budget need compute :=
  fun state _ => .of_same (nesting state) (peak state) (felt state)

theorem pure {value : α} : RunNeeds input budget need (pure value : Engine α) :=
  fun _ _ => .refl

theorem bind {P : α → Prop} (first : RunNeeds input budget need compute)
    (steady : Steady input.stream start compute P)
    (rest : ∀ value, P value → RunNeeds input budget need (next value)) :
    RunNeeds input budget need (compute >>= next) := by
  intro state orderly
  have levels := first state orderly
  have known := steady state orderly
  change Levels input budget need state (finalState (EStateM.bind compute next state))
  unfold EStateM.bind
  cases run : compute state with
  | error fault after =>
      rw [run] at levels
      exact levels
  | ok value after =>
      rw [run] at levels known
      exact levels.trans (rest value known.2 after known.1.orderly)

theorem andThen (first : RunNeeds input budget need compute)
    (rest : ∀ value state, Levels input budget need state (finalState (next value state))) :
    RunNeeds input budget need (compute >>= next) := by
  intro state orderly
  have levels := first state orderly
  change Levels input budget need state (finalState (EStateM.bind compute next state))
  unfold EStateM.bind
  cases run : compute state with
  | error fault after =>
      rw [run] at levels
      exact levels
  | ok value after =>
      rw [run] at levels
      exact levels.trans (rest value after)

end RunNeeds

namespace Needs

variable {α β : Type} {input : Input} {budget need start : Nat} {attempt : Attempt α}
  {next : α → Attempt β}

theorem pure {value : α} : Needs input budget need (pure value : Attempt α) :=
  fun _ _ => .refl

theorem throw {failure : Diagnostic} : Needs input budget need (throw failure : Attempt α) :=
  fun _ _ => .refl

theorem abort {fault : Fault} :
    Needs input budget need (liftM (abort fault : Engine α) : Attempt α) :=
  fun _ _ => .refl

theorem scanned {scanned : Scanned} : Needs input budget need scanned.attempt := by
  unfold Scanned.attempt
  split
  · exact abort
  · exact throw
  · exact pure

theorem bind {Ends : α → Prop} (first : Needs input budget need attempt)
    (confined : Confined input.stream start attempt Ends)
    (rest : ∀ value, Ends value → Needs input budget need (next value)) :
    Needs input budget need (attempt >>= next) := by
  refine RunNeeds.bind first confined fun outcome answers => ?_
  cases outcome with
  | ok value => exact rest value answers
  | error failure => exact RunNeeds.pure

theorem token {next : Token → Attempt β} (inside : start ≤ input.stream.lastIndex)
    (rest : ∀ token, input.stream.get? start = some token →
      Needs input budget need (next token)) :
    Needs input budget need ((liftM (tokenAt input start) : Attempt Token) >>= next) := by
  refine bind (fun state _ => ?_) (@tokenAt_confined input start inside start) rest
  change Levels input budget need state (finalState (EStateM.bind (tokenAt input start) _ state))
  unfold EStateM.bind tokenAt
  cases input.stream.get? start <;> exact .refl

theorem expect {kind : Kind} {index : Nat} {next : Nat → Attempt β}
    (reached : Reaches input.stream start index)
    (rest : input.kindAt index = kind → Needs input budget need (next (index + 1))) :
    Needs input budget need (expect input kind index >>= next) := by
  refine bind ?_ (expect_confined reached) ?_
  · unfold Parser.expect
    split
    · exact pure
    · exact throw
  · rintro value ⟨rfl, found⟩
    exact rest found

theorem ite {test : Prop} [Decidable test] {other : Attempt α}
    (yes : test → Needs input budget need attempt)
    (no : ¬ test → Needs input budget need other) :
    Needs input budget need (if test then attempt else other) := by
  split
  · exact yes ‹_›
  · exact no ‹_›

theorem describe {handle : Diagnostic → Diagnostic} (needs : Needs input budget need attempt) :
    Needs input budget need
      (tryCatch attempt fun failure => MonadExcept.throw (handle failure)) := by
  refine RunNeeds.andThen needs fun outcome state => ?_
  cases outcome <;> exact .refl

theorem supervise {rule : Attempt (Match α)} (needs : Needs input budget need rule) :
    Needs input budget need (supervise input start rule) := by
  unfold Parser.supervise
  split
  · by_cases beyond : input.stream.lastIndex < start
    · simp only [if_pos beyond]
      exact fun _ _ => .refl
    · simp only [if_neg beyond]
      refine RunNeeds.andThen needs fun outcome state => ?_
      split
      · exact .of_same rfl rfl rfl
      · exact .refl
  · exact needs

/-- A guarded rule needs one level more than it needs below it, within one more. -/
theorem guarded {rule : Attempt (Match α)} (needs : Needs input budget need rule) :
    Needs input (budget + 1) (need + 1) (guarded input start rule) := by
  intro state orderly
  cases refusal : refusal? input state.nesting with
  | some levels =>
      rw [guarded_refused refusal]
      exact ⟨rfl, .inl (Nat.le_refl _), fun _ admits =>
        nomatch refusal.symm.trans admits.admitted⟩
  | none =>
      rw [guarded_admitted refusal, finalState_deeper]
      exact (needs state.entered orderly).entered refusal

/-- A guarded rule whose budget is used up needs one level, and fails with it or without. -/
theorem exhausted {levels : Nat} :
    Needs input 0 (need + 1)
      (Parser.guarded input start (tooDeep start levels : Attempt (Match α))) := by
  intro state _
  cases refusal : refusal? input state.nesting with
  | some refused =>
      rw [guarded_refused refusal]
      exact ⟨rfl, .inl (Nat.le_refl _), nofun⟩
  | none =>
      rw [guarded_admitted refusal, finalState_deeper]
      refine ⟨rfl, ?_, nofun⟩
      change max state.peak (state.nesting + 1) ≤ state.peak ∨ ∃ active,
        active < state.nesting + (need + 1) ∧
          max state.peak (state.nesting + 1) ≤ active + 1 ∧ refusal? input active = none
      by_cases raised : state.nesting + 1 ≤ state.peak
      · exact .inl (Nat.max_le.mpr ⟨Nat.le_refl _, raised⟩)
      · exact .inr ⟨state.nesting, by omega, by omega, refusal⟩

/-- A rule that is remembered is run in a state that remembers the same. -/
theorem remembered {stratum : Stratum} {compute : Attempt (Match Expr)}
    (needs : Needs input budget need compute) :
    Needs input budget need (remembered input stratum start compute) := by
  intro state orderly
  rw [remembered_run]
  cases recalled? input state.memo stratum start with
  | some entry =>
      dsimp only
      rw [replay_run]
      exact .of_same (by simp [finalState]) (by simp [finalState]) (by simp [finalState])
  | none =>
      have levels := needs { state with noted := [], limitFelt := false } orderly
      dsimp only
      cases run : compute.run { state with noted := [], limitFelt := false } with
      | error fault after =>
          rw [run] at levels
          rw [anew_fault run]
          refine ⟨levels.nesting, levels.peak, fun enough admits => ?_⟩
          have unfelt : after.limitFelt = false := levels.unfelt enough admits
          simp [finalState, unfelt]
      | ok outcome after =>
          rw [run] at levels
          rw [anew_ok run]
          refine ⟨levels.nesting, levels.peak, fun enough admits => ?_⟩
          have unfelt : after.limitFelt = false := levels.unfelt enough admits
          simp [finalState, unfelt]

theorem search {Ends : Match α → Prop} {best : Diagnostic} {others : List (Attempt (Match α))}
    (needs : ∀ other ∈ others, Needs input budget need other ∧
      Confined input.stream start other Ends) :
    RunNeeds input budget need (Choice.continueWith note best (others.map ExceptT.run)) := by
  induction others generalizing best with
  | nil => exact RunNeeds.pure
  | cons other others induction =>
      rw [List.forall_mem_cons] at needs
      obtain ⟨⟨otherNeeds, confined⟩, rest⟩ := needs
      refine RunNeeds.bind otherNeeds confined fun outcome _ => ?_
      cases outcome with
      | ok found => exact .of_same (fun _ => rfl) (fun _ => rfl) fun _ => rfl
      | error failure =>
          dsimp only
          split
          · exact .pure
          · exact induction rest

theorem firstOf {Ends : Match α → Prop} {first : Attempt (Match α)}
    {others : List (Attempt (Match α))} (firstNeeds : Needs input budget need first)
    (confined : Confined input.stream start first Ends)
    (needs : ∀ other ∈ others, Needs input budget need other ∧
      Confined input.stream start other Ends) :
    Needs input budget need (firstOf first others) := by
  refine RunNeeds.bind firstNeeds confined fun outcome _ => ?_
  cases outcome with
  | ok found => exact RunNeeds.pure
  | error failure =>
      dsimp only
      split
      · exact RunNeeds.pure
      · exact search needs

theorem firstOf_pair {Ends : Match α → Prop} {first second : Attempt (Match α)}
    (firstNeeds : Needs input budget need first)
    (confined : Confined input.stream start first Ends)
    (secondNeeds : Needs input budget need second)
    (secondConfined : Confined input.stream start second Ends) :
    Needs input budget need (Parser.firstOf first [second]) :=
  firstOf firstNeeds confined (by simpa using ⟨secondNeeds, secondConfined⟩)

end Needs

theorem finalState_mapValue {α β : Type} (change : α → β) (result : EStateM.Result Fault State α) :
    finalState (mapValue change result) = finalState result := by
  cases result <;> rfl

/-- A loop needs as many levels as its items do. -/
theorem itemsFrom_needs {α : Type} {input : Input} {budget need : Nat}
    {item : Nat → Attempt (Match α)} {description : String} {first limit : Nat}
    (limitInside : limit ≤ input.stream.lastIndex)
    (confined : ∀ index, index ≤ input.stream.lastIndex →
      Confined input.stream index (item index) (SpansKept input.stream index))
    (needs : ∀ index, first ≤ index → index < limit → Needs input budget need (item index))
    {fuel index : Nat} (lower : first ≤ index) :
    RunNeeds input budget need (itemsFrom input item description limit fuel index) := by
  induction fuel generalizing index with
  | zero => exact fun _ _ => .refl
  | succ fuel induction =>
      intro state orderly
      by_cases done : limit ≤ index
      · rw [itemsFrom_done done]
        exact .refl
      · have more : index < limit := Nat.lt_of_not_le done
        by_cases reached : limitReached input state = true
        · rw [itemsFrom_limit done reached]
          exact .of_same rfl rfl rfl
        · have below : limitReached input state = false := by simpa using reached
          have own := needs index lower more { state with noted := [] } orderly
          cases run : (item index).run { state with noted := [] } with
          | error fault after =>
              rw [run] at own
              rw [itemsFrom_fault done below run]
              exact ⟨own.nesting, own.peak, own.unfelt⟩
          | ok outcome after =>
              rw [run] at own
              have levels : Levels input budget need state after :=
                ⟨own.nesting, own.peak, own.unfelt⟩
              obtain ⟨effect, answers⟩ := (confined index (by omega)).ran run orderly
              cases outcome with
              | ok found =>
                  rw [itemsFrom_kept done below run, finalState_mapValue]
                  have ahead : index < found.stop := Spans.lt answers.toSpans
                  have rest := induction (show first ≤ found.stop by omega)
                    { after with
                      noted := state.noted
                      errorCount := state.errorCount + found.recovered.length } effect.orderly
                  exact levels.trans ⟨rest.nesting, rest.peak, rest.unfelt⟩
              | error failure =>
                  let chosen := itemFailure index description failure after.superseded
                  obtain ⟨resume, sync, ahead, -⟩ : ∃ resume,
                      synchronize input index chosen.depth.toNat limit = .ok resume ∧
                        index < resume ∧ _ :=
                    synchronize_ok more limitInside
                  rw [itemsFrom_skipped done below run rfl sync, finalState_mapValue]
                  have rest := induction (show first ≤ resume by omega)
                    { after with
                      noted := state.noted
                      errorCount := state.errorCount + 1
                      trace := after.trace.push
                        (.recovered chosen.kind chosen.position index resume) } effect.orderly
                  exact levels.trans ⟨rest.nesting, rest.peak, rest.unfelt⟩

end MiniC.Parser
