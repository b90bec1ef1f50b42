import MiniC.Parser.Recovery
import MiniC.Proofs.Stream

/-!
# Rounds of the recovery loop

What one round of the recovery loop does to a state, case by case: the limit of
the sequence or the error limit ends the loop, a match is kept, and a failure is
recorded and skipped up to the next synchronisation point.
-/

namespace MiniC.Parser

/-- The result of a run with another value. -/
def mapValue {α β : Type} (change : α → β) :
    EStateM.Result Fault State α → EStateM.Result Fault State β
  | .ok value state => .ok (change value) state
  | .error fault state => .error fault state

theorem mapValue_ok {α β : Type} {change : α → β} {result : EStateM.Result Fault State α}
    {changed : β} {after : State} (run : mapValue change result = .ok changed after) :
    ∃ value, result = .ok value after ∧ changed = change value := by
  cases result with
  | error fault state => cases run
  | ok value state =>
      cases run
      exact ⟨value, rfl, rfl⟩

section Rounds

variable {α : Type} {input : Input} {item : Nat → Attempt (Match α)} {description : String}
  {limit fuel index : Nat} {state : State}

/-- Put a match before the items that follow it. -/
def keepItem (found : Match α) (rest : Match (List α)) : Match (List α) :=
  { node := found.node :: rest.node
    stop := rest.stop
    recovered := found.recovered ++ rest.recovered }

/-- Put an error before those of the items that follow. -/
def skipItem (diagnostic : Diagnostic) (rest : Match (List α)) : Match (List α) :=
  { rest with recovered := diagnostic :: rest.recovered }

theorem itemsFrom_done (done : limit ≤ index) :
    itemsFrom input item description limit (fuel + 1) index state =
      .ok { node := [], stop := index } state := by
  change (if limit ≤ index then _ else _ : Engine (Match (List α))) state = _
  rw [if_pos done]
  rfl

theorem itemsFrom_limit (more : ¬ limit ≤ index) (reached : limitReached input state = true) :
    itemsFrom input item description limit (fuel + 1) index state =
      .ok { node := [], stop := limit }
        { state with trace := state.trace.push (.limitReached index limit) } := by
  change (if limit ≤ index then _ else _ : Engine (Match (List α))) state = _
  rw [if_neg more]
  change (if limitReached input state then _ else _ : Engine (Match (List α))) state = _
  rw [if_pos reached]
  rfl

theorem watched_fault {fault : Fault} {after : State} {rule : Attempt (Match α)}
    (run : rule.run { state with noted := [] } = .error fault after) :
    watched rule state = .error fault after := by
  change EStateM.bind rule.run _ { state with noted := [] } = _
  simp only [EStateM.bind, run]

theorem watched_ok {outcome : Outcome α} {after : State} {rule : Attempt (Match α)}
    (run : rule.run { state with noted := [] } = .ok outcome after) :
    watched rule state =
      .ok (outcome, after.superseded) { after with noted := state.noted } := by
  change EStateM.bind rule.run _ { state with noted := [] } = _
  simp only [EStateM.bind, run]
  rfl

theorem itemsFrom_fault {fault : Fault} {after : State} (more : ¬ limit ≤ index)
    (below : limitReached input state = false)
    (run : (item index).run { state with noted := [] } = .error fault after) :
    itemsFrom input item description limit (fuel + 1) index state = .error fault after := by
  change (if limit ≤ index then _ else _ : Engine (Match (List α))) state = _
  rw [if_neg more]
  change (if limitReached input state then _ else _ : Engine (Match (List α))) state = _
  rw [if_neg (by simp [below])]
  change EStateM.bind (watched (item index)) _ state = _
  simp only [EStateM.bind, watched_fault run]

theorem itemsFrom_kept {found : Match α} {after : State} (more : ¬ limit ≤ index)
    (below : limitReached input state = false)
    (run : (item index).run { state with noted := [] } = .ok (.ok found) after) :
    itemsFrom input item description limit (fuel + 1) index state =
      mapValue (keepItem found)
        (itemsFrom input item description limit fuel found.stop
          { after with
            noted := state.noted
            errorCount := state.errorCount + found.recovered.length }) := by
  change (if limit ≤ index then _ else _ : Engine (Match (List α))) state = _
  rw [if_neg more]
  change (if limitReached input state then _ else _ : Engine (Match (List α))) state = _
  rw [if_neg (by simp [below])]
  change EStateM.bind (watched (item index)) _ state = _
  simp only [EStateM.bind, watched_ok run]
  change EStateM.bind (itemsFrom input item description limit fuel found.stop) _ _ = _
  unfold EStateM.bind mapValue
  cases itemsFrom input item description limit fuel found.stop
    { after with
      noted := state.noted
      errorCount := state.errorCount + found.recovered.length } <;> rfl

theorem itemsFrom_skipped {failure : Diagnostic} {after : State} {resume : Nat}
    {diagnostic : Diagnostic} (more : ¬ limit ≤ index)
    (below : limitReached input state = false)
    (run : (item index).run { state with noted := [] } = .ok (.error failure) after)
    (chosen : itemFailure index description failure after.superseded = diagnostic)
    (sync : synchronize input index diagnostic.depth.toNat limit = .ok resume) :
    itemsFrom input item description limit (fuel + 1) index state =
      mapValue (skipItem diagnostic)
        (itemsFrom input item description limit fuel resume
          { after with
            noted := state.noted
            errorCount := state.errorCount + 1
            trace := after.trace.push
              (.recovered diagnostic.kind diagnostic.position index resume) }) := by
  subst chosen
  change (if limit ≤ index then _ else _ : Engine (Match (List α))) state = _
  rw [if_neg more]
  change (if limitReached input state then _ else _ : Engine (Match (List α))) state = _
  rw [if_neg (by simp [below])]
  change EStateM.bind (watched (item index)) _ state = _
  simp only [EStateM.bind, watched_ok run]
  change EStateM.bind (modify _) _ _ = _
  simp only [EStateM.bind, sync]
  change EStateM.bind (itemsFrom input item description limit fuel resume) _ _ = _
  unfold EStateM.bind mapValue
  cases itemsFrom input item description limit fuel resume
    { after with
      noted := state.noted
      errorCount := state.errorCount + 1
      trace := after.trace.push
        (.recovered (itemFailure index description failure after.superseded).kind
          (itemFailure index description failure after.superseded).position index resume) } <;> rfl

theorem synchronizeFrom_ok {stream : TokenStream} {count index : Nat} (positive : 0 < index)
    (inside : index + count ≤ stream.size) :
    ∃ resume, synchronizeFrom stream count index = .ok resume ∧ index ≤ resume ∧
      resume ≤ index + count := by
  have sizeEq := stream.size_eq
  induction count generalizing index with
  | zero => exact ⟨index, rfl, Nat.le_refl _, by omega⟩
  | succ count induction =>
      have beforeInside : index - 1 ≤ stream.lastIndex := by omega
      have hereInside : index ≤ stream.lastIndex := by omega
      obtain ⟨previous, previousFound⟩ := TokenStream.get?_isSome_of_le beforeInside
      obtain ⟨token, found⟩ := TokenStream.get?_isSome_of_le hereInside
      unfold synchronizeFrom
      simp only [previousFound, found]
      split
      · exact ⟨index, rfl, Nat.le_refl _, by omega⟩
      · split
        · exact ⟨index, rfl, Nat.le_refl _, by omega⟩
        · obtain ⟨resume, run, lower, upper⟩ := induction (Nat.succ_pos index) (by omega)
          exact ⟨resume, run, by omega, by omega⟩

/-- Recovery moves ahead, past the failure as far as the sequence goes. -/
theorem synchronize_ok {start failedAt : Nat} (more : start < limit)
    (inside : limit ≤ input.stream.lastIndex) :
    ∃ resume, synchronize input start failedAt limit = .ok resume ∧ start < resume ∧
      resume ≤ limit ∧ min failedAt limit ≤ resume := by
  have sizeEq := input.stream.size_eq
  unfold synchronize
  dsimp only
  split
  · exact ⟨limit, rfl, more, Nat.le_refl _, Nat.min_le_right _ _⟩
  · rename_i before
    have fits : max failedAt (start + 1) + (limit - max failedAt (start + 1)) ≤
        input.stream.size := by omega
    obtain ⟨resume, run, lower, upper⟩ := synchronizeFrom_ok (by omega) fits
    exact ⟨resume, run, by omega, by omega, by omega⟩

theorem synchronize_bounds {start failedAt resume : Nat} (more : start < limit)
    (inside : limit ≤ input.stream.lastIndex)
    (sync : synchronize input start failedAt limit = .ok resume) :
    start < resume ∧ resume ≤ limit ∧ min failedAt limit ≤ resume := by
  obtain ⟨found, run, bounds⟩ :
      ∃ found, synchronize input start failedAt limit = .ok found ∧ _ := synchronize_ok more inside
  cases sync.symm.trans run
  exact bounds

/-- The first round of a loop that ended, and how the loop goes on after it. -/
inductive FirstRound (input : Input) (item : Nat → Attempt (Match α)) (description : String)
    (limit fuel index : Nat) (state : State) : Match (List α) → State → Prop
  | done (done : limit ≤ index) :
      FirstRound input item description limit fuel index state { node := [], stop := index } state
  | full (more : index < limit) (reached : limitReached input state = true) :
      FirstRound input item description limit fuel index state { node := [], stop := limit }
        { state with trace := state.trace.push (.limitReached index limit) }
  | kept {between last : State} {found : Match α} {rest : Match (List α)}
      (more : index < limit) (below : limitReached input state = false)
      (run : (item index).run { state with noted := [] } = .ok (.ok found) between)
      (tail : itemsFrom input item description limit fuel found.stop
        { between with
          noted := state.noted
          errorCount := state.errorCount + found.recovered.length } = .ok rest last) :
      FirstRound input item description limit fuel index state (keepItem found rest) last
  | skipped {resume : Nat} {between last : State} {failure : Diagnostic} {rest : Match (List α)}
      (more : index < limit) (below : limitReached input state = false)
      (run : (item index).run { state with noted := [] } = .ok (.error failure) between)
      (sync : synchronize input index
        (itemFailure index description failure between.superseded).depth.toNat limit = .ok resume)
      (tail : itemsFrom input item description limit fuel resume
        { between with
          noted := state.noted
          errorCount := state.errorCount + 1
          trace := between.trace.push
            (.recovered (itemFailure index description failure between.superseded).kind
              (itemFailure index description failure between.superseded).position index
              resume) } = .ok rest last) :
      FirstRound input item description limit fuel index state
        (skipItem (itemFailure index description failure between.superseded) rest) last

theorem itemsFrom_firstRound {found : Match (List α)} {after : State}
    (limitInside : limit ≤ input.stream.lastIndex)
    (run : itemsFrom input item description limit (fuel + 1) index state = .ok found after) :
    FirstRound input item description limit fuel index state found after := by
  by_cases done : limit ≤ index
  · rw [itemsFrom_done done] at run
    cases run
    exact .done done
  have more : index < limit := Nat.lt_of_not_le done
  by_cases reached : limitReached input state = true
  · rw [itemsFrom_limit done reached] at run
    cases run
    exact .full more reached
  have below : limitReached input state = false := by simpa using reached
  cases itemRun : (item index).run { state with noted := [] } with
  | error fault between =>
      rw [itemsFrom_fault done below itemRun] at run
      cases run
  | ok outcome between =>
      cases outcome with
      | ok kept =>
          rw [itemsFrom_kept done below itemRun] at run
          obtain ⟨rest, tail, rfl⟩ := mapValue_ok run
          exact .kept more below itemRun tail
      | error failure =>
          obtain ⟨resume, sync, -⟩ :
              ∃ resume, synchronize input index
                (itemFailure index description failure between.superseded).depth.toNat limit =
                  .ok resume ∧ _ :=
            synchronize_ok more limitInside
          rw [itemsFrom_skipped done below itemRun rfl sync] at run
          obtain ⟨rest, tail, rfl⟩ := mapValue_ok run
          exact .skipped more below itemRun sync tail

/-- The rounds of a loop that ended, from an index and a state on: the items that it
kept, the errors that it recorded, and the state it left behind. -/
inductive Rounds (input : Input) (item : Nat → Attempt (Match α)) (description : String)
    (limit : Nat) : Nat → State → Match (List α) → State → Prop
  | done {index : Nat} {state : State} (done : limit ≤ index) :
      Rounds input item description limit index state { node := [], stop := index } state
  | full {index : Nat} {state : State} (more : index < limit)
      (reached : limitReached input state = true) :
      Rounds input item description limit index state { node := [], stop := limit }
        { state with trace := state.trace.push (.limitReached index limit) }
  | kept {index : Nat} {state between last : State} {found : Match α} {rest : Match (List α)}
      (more : index < limit) (below : limitReached input state = false)
      (run : (item index).run { state with noted := [] } = .ok (.ok found) between)
      (tail : Rounds input item description limit found.stop
        { between with
          noted := state.noted
          errorCount := state.errorCount + found.recovered.length } rest last) :
      Rounds input item description limit index state (keepItem found rest) last
  | skipped {index resume : Nat} {state between last : State} {failure : Diagnostic}
      {rest : Match (List α)} (more : index < limit) (below : limitReached input state = false)
      (run : (item index).run { state with noted := [] } = .ok (.error failure) between)
      (ahead : index < resume) (inside : resume ≤ limit)
      (beyond : min (itemFailure index description failure between.superseded).depth.toNat limit
        ≤ resume)
      (tail : Rounds input item description limit resume
        { between with
          noted := state.noted
          errorCount := state.errorCount + 1
          trace := between.trace.push
            (.recovered (itemFailure index description failure between.superseded).kind
              (itemFailure index description failure between.superseded).position index
              resume) } rest last) :
      Rounds input item description limit index state
        (skipItem (itemFailure index description failure between.superseded) rest) last

theorem itemsFrom_rounds {found : Match (List α)} {after : State}
    (limitInside : limit ≤ input.stream.lastIndex)
    (run : itemsFrom input item description limit fuel index state = .ok found after) :
    Rounds input item description limit index state found after := by
  induction fuel generalizing index state found with
  | zero => cases run
  | succ fuel induction =>
      cases itemsFrom_firstRound limitInside run with
      | done done => exact .done done
      | full more reached => exact .full more reached
      | kept more below itemRun tail => exact .kept more below itemRun (induction tail)
      | skipped more below itemRun sync tail =>
          obtain ⟨ahead, inside, beyond⟩ := synchronize_bounds more limitInside sync
          exact .skipped more below itemRun ahead inside beyond (induction tail)

theorem Rounds.count {found : Match (List α)} {after : State}
    (rounds : Rounds input item description limit index state found after) :
    after.errorCount = state.errorCount + found.recovered.length := by
  induction rounds with
  | done => rfl
  | full => rfl
  | kept _ _ _ _ induction =>
      rw [induction]
      simp [keepItem, Nat.add_assoc]
  | skipped _ _ _ _ _ _ _ induction =>
      rw [induction]
      simp [skipItem]
      omega

end Rounds

end MiniC.Parser
