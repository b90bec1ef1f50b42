import MiniC.Proofs.GenuineMemory
import MiniC.Proofs.Soundness

/-!
# Climbing is a cascade of levels

Binary operators can be parsed by a cascade: each level parses operands of the next
tighter level and folds them to the left, for as long as an operator of the level itself
follows.  Climbing treats all levels in one loop instead.  What it takes from a level on
is what it takes from the next tighter level on, followed by more from the level itself;
and where the next operator is no tighter than the level, that is the fold of the level.
-/

namespace MiniC.Parser

section Cascade

variable (input : Input)

/-- Fold operators of one level to the left, with operands of the levels above it, after a
left operand that goes from `start` to `index`. -/
def foldLevel (tighter : Nat → Attempt (Match Expr)) (level : Nat) :
    (fuel start : Nat) → (left : Expr) → (index : Nat) → Attempt (Match Expr)
  | 0, _, _, _ => abort .stalled
  | fuel + 1, start, left, index =>
      match BinaryOperator.ofKind? (input.kindAt index) with
      | none => return { node := left, stop := index }
      | some operator =>
          if operator.level = level then do
            let right ← tighter (index + 1)
            foldLevel tighter level fuel start
              (.binary (covering start right.stop) operator left right.node) right.stop
          else
            return { node := left, stop := index }

/-- The cascade of the `count` tightest levels over an operand. -/
def cascade (operand : Nat → Attempt (Match Expr)) : (count start : Nat) → Attempt (Match Expr)
  | 0, start => operand start
  | count + 1, start => do
      let first ← cascade operand count start
      foldLevel input (cascade operand count) (BinaryOperator.levels - (count + 1)) input.fuel
        start first.node first.stop

end Cascade

/-- From every orderly state two steps end alike. -/
def SameRuns {α : Type} (stream : TokenStream) (first second : Attempt α) : Prop :=
  ∀ state, Orderly stream state.memo → first.run state = second.run state

namespace SameRuns

variable {α β : Type} {stream : TokenStream} {start : Nat} {first second third : Attempt α}

theorem refl (first : Attempt α) : SameRuns stream first first :=
  fun _ _ => rfl

theorem trans (same : SameRuns stream first second) (further : SameRuns stream second third) :
    SameRuns stream first third :=
  fun state orderly => (same state orderly).trans (further state orderly)

theorem bind {Ends : α → Prop} {next otherNext : α → Attempt β}
    (same : SameRuns stream first second) (confined : Confined stream start first Ends)
    (rest : ∀ value, Ends value → SameRuns stream (next value) (otherNext value)) :
    SameRuns stream (first >>= next) (second >>= otherNext) := by
  intro state orderly
  have known := confined state orderly
  change EStateM.bind first.run (ExceptT.bindCont next) state =
    EStateM.bind second.run (ExceptT.bindCont otherNext) state
  unfold EStateM.bind
  rw [← same state orderly]
  cases run : first.run state with
  | error fault after => rfl
  | ok outcome after =>
      rw [run] at known
      cases outcome with
      | error failure => rfl
      | ok value => exact rest value known.2 after known.1.orderly

end SameRuns

/-- An operand at a start index with all operators of at least `minLevel` after it. -/
def ascent (input : Input) (operand : Nat → Attempt (Match Expr)) (fuel minLevel start : Nat) :
    Attempt (Match Expr) := do
  let first ← operand start
  climb input operand fuel minLevel start first.node first.stop

section Climbing

variable {input : Input} {operand : Nat → Attempt (Match Expr)} {start index minLevel level : Nat}
  {fuel more : Nat} {left : Expr}

theorem operatorBelow_or (stream : TokenStream) (bound index : Nat) :
    OperatorBelow stream bound index ∨
      ∃ operator, BinaryOperator.ofKind? (stream.kindAt index) = some operator ∧
        bound ≤ operator.level := by
  cases denotes : BinaryOperator.ofKind? (stream.kindAt index) with
  | none => exact .inl fun operator impossible => nomatch denotes.symm.trans impossible
  | some operator =>
      by_cases below : operator.level < bound
      · left
        intro other otherDenotes
        cases denotes.symm.trans otherDenotes
        exact below
      · exact .inr ⟨operator, rfl, Nat.le_of_not_lt below⟩

theorem lt_lastIndex_of_operator {stream : TokenStream} {operator : BinaryOperator}
    (denotes : BinaryOperator.ofKind? (stream.kindAt index) = some operator) :
    index < stream.lastIndex := by
  apply TokenStream.lt_lastIndex_of_kindAt
  intro atEnd
  rw [atEnd] at denotes
  cases denotes

theorem climb_ended (below : OperatorBelow input.stream minLevel index) :
    climb input operand (fuel + 1) minLevel start left index =
      pure { node := left, stop := index } := by
  unfold climb
  cases denotes : BinaryOperator.ofKind? (input.kindAt index) with
  | none => rfl
  | some operator => exact if_pos (below operator denotes)

/-- Climbing takes an operator of at least the least level with a right operand of tighter
levels. -/
theorem climb_taken {operator : BinaryOperator}
    (denotes : BinaryOperator.ofKind? (input.stream.kindAt index) = some operator)
    (enough : minLevel ≤ operator.level) :
    climb input operand (fuel + 1) minLevel start left index = (do
      let right ← ascent input operand fuel (operator.level + 1) (index + 1)
      climb input operand fuel minLevel start
        (.binary (covering start right.stop) operator left right.node) right.stop) := by
  rw [climb, Input.kindAt, denotes]
  simp only [if_neg (Nat.not_lt.mpr enough), ascent, bind_assoc]

/-- Climbing goes on until the next operator is below the least level. -/
theorem climb_stops :
    Yields (climb input operand fuel minLevel start left index) fun found =>
      OperatorBelow input.stream minLevel found.stop := by
  induction fuel generalizing start left index minLevel with
  | zero => exact fun _ _ _ run => nomatch run
  | succ fuel induction =>
      rcases operatorBelow_or input.stream minLevel index with below | ⟨operator, denotes, enough⟩
      · rw [climb_ended below]
        exact .pure below
      · rw [climb_taken denotes enough]
        exact .andThen fun _ => induction

variable (operandConfined : ∀ index, index ≤ input.stream.lastIndex →
  Confined input.stream index (operand index) (SpansExpr input.stream index))

include operandConfined

theorem ascent_confined (inside : start ≤ input.stream.lastIndex)
    (enough : input.stream.lastIndex ≤ start + fuel) :
    Confined input.stream start (ascent input operand fuel minLevel start) fun found =>
      Spans input.stream start found ∧ OperatorBelow input.stream minLevel found.stop := by
  refine Confined.bind (operandConfined start inside) fun first spans => ?_
  have ahead := spans.lt
  refine ((climb_confined operandConfined spans.reaches (by omega)).and_yields climb_stops).mono
    fun found ends => ?_
  obtain ⟨⟨later, reaches⟩, below⟩ := ends
  exact ⟨⟨by omega, reaches⟩, below⟩

/-- The bound on the loop makes no difference, as long as it suffices. -/
theorem climb_fuel (inside : index ≤ input.stream.lastIndex)
    (enough : input.stream.lastIndex < index + fuel)
    (enoughMore : input.stream.lastIndex < index + more) :
    SameRuns input.stream (climb input operand fuel minLevel start left index)
      (climb input operand more minLevel start left index) := by
  induction fuel generalizing more start left index minLevel with
  | zero => omega
  | succ fuel induction =>
      obtain ⟨more, rfl⟩ : ∃ less, more = less + 1 := ⟨more - 1, by omega⟩
      rcases operatorBelow_or input.stream minLevel index with below | ⟨operator, denotes, least⟩
      · rw [climb_ended below, climb_ended below]
        exact .refl _
      · rw [climb_taken denotes least, climb_taken denotes least]
        have before := lt_lastIndex_of_operator denotes
        have ascents : SameRuns input.stream
            (ascent input operand fuel (operator.level + 1) (index + 1))
            (ascent input operand more (operator.level + 1) (index + 1)) :=
          SameRuns.bind (.refl _) (operandConfined (index + 1) before) fun first spans => by
            have ahead := spans.lt
            exact induction spans.inside (by omega) (by omega)
        refine ascents.bind (ascent_confined operandConfined before (by omega))
          fun right ends => ?_
        have ahead := ends.1.lt
        exact induction ends.1.inside (by omega) (by omega)

/-- Climbing from a level on is climbing from the next level on, and then some more. -/
theorem climb_loosened (inside : index ≤ input.stream.lastIndex)
    (enough : input.stream.lastIndex < index + fuel) :
    SameRuns input.stream (climb input operand fuel level start left index)
      (do
        let tight ← climb input operand fuel (level + 1) start left index
        climb input operand fuel level start tight.node tight.stop) := by
  induction fuel generalizing start left index with
  | zero => omega
  | succ fuel induction =>
      rcases operatorBelow_or input.stream (level + 1) index with
        below | ⟨operator, denotes, tighter⟩
      · rw [@climb_ended _ _ _ _ (level + 1) _ _ below, pure_bind]
        exact .refl _
      · rw [climb_taken denotes (Nat.le_of_succ_le tighter), climb_taken denotes tighter,
          bind_assoc]
        have before := lt_lastIndex_of_operator denotes
        refine SameRuns.bind (.refl _) (ascent_confined operandConfined before (by omega))
          fun right ends => ?_
        have ahead := ends.1.lt
        refine (induction ends.1.inside (by omega)).trans ?_
        refine SameRuns.bind (.refl _) (climb_confined operandConfined (.refl ends.1.inside)
          (by omega)) fun tight tightEnds => ?_
        have later := tightEnds.1
        exact climb_fuel operandConfined tightEnds.2.inside (by omega) (by omega)

end Climbing

/-- A match without the errors that were recovered from. -/
def Match.bare {α : Type} (found : Match α) : Match α :=
  { node := found.node, stop := found.stop }

/-- A rule whose matches are handed on without the errors that were recovered from. -/
def bared {α : Type} (rule : Attempt (Match α)) : Attempt (Match α) := do
  return (← rule).bare

section Levels

variable {input : Input} {operand tighter : Nat → Attempt (Match Expr)} {start index level : Nat}
  {fuel : Nat} {left : Expr}

theorem foldLevel_ended (below : OperatorBelow input.stream level index) :
    foldLevel input tighter level (fuel + 1) start left index =
      pure { node := left, stop := index } := by
  unfold foldLevel
  cases denotes : BinaryOperator.ofKind? (input.kindAt index) with
  | none => rfl
  | some operator => exact if_neg (Nat.ne_of_lt (below operator denotes))

theorem foldLevel_taken {operator : BinaryOperator}
    (denotes : BinaryOperator.ofKind? (input.stream.kindAt index) = some operator)
    (same : operator.level = level) :
    foldLevel input tighter level (fuel + 1) start left index = (do
      let right ← bared (tighter (index + 1))
      foldLevel input tighter level fuel start
        (.binary (covering start right.stop) operator left right.node) right.stop) := by
  rw [foldLevel, Input.kindAt, denotes]
  simp only [if_pos same, bared, bind_assoc, pure_bind, Match.bare]

theorem bared_foldLevel :
    bared (foldLevel input tighter level fuel start left index) =
      foldLevel input tighter level fuel start left index := by
  induction fuel generalizing left index with
  | zero => rfl
  | succ fuel induction =>
      unfold foldLevel
      split
      · rfl
      · split
        · simp only [bared, bind_assoc]
          exact congrArg _ (funext fun _ => induction)
        · rfl

theorem cascade_succ (count : Nat) :
    cascade input operand (count + 1) start = (do
      let first ← bared (cascade input operand count start)
      foldLevel input (cascade input operand count) (BinaryOperator.levels - (count + 1)) input.fuel
        start first.node first.stop) := by
  rw [cascade]
  simp only [bared, bind_assoc, pure_bind, Match.bare]

theorem bared_cascade_succ (count : Nat) :
    bared (cascade input operand (count + 1) start) = cascade input operand (count + 1) start := by
  rw [cascade]
  change (_ >>= _) >>= _ = _
  rw [bind_assoc]
  exact congrArg _ (funext fun _ => bared_foldLevel)

variable (operandConfined : ∀ index, index ≤ input.stream.lastIndex →
  Confined input.stream index (operand index) (SpansExpr input.stream index))

include operandConfined

theorem ascent_fuel (inside : start ≤ input.stream.lastIndex)
    (enough : input.stream.lastIndex ≤ start + fuel) :
    SameRuns input.stream (ascent input operand fuel level start)
      (ascent input operand input.fuel level start) := by
  refine SameRuns.bind (.refl _) (operandConfined start inside) fun first spans => ?_
  have ahead := spans.lt
  exact climb_fuel operandConfined spans.inside (by omega) (fuel_enough input _)

/-- Where the next operator is no tighter than a level, climbing from it on is its fold. -/
theorem climb_foldLevel
    (ascents : ∀ index, index ≤ input.stream.lastIndex → SameRuns input.stream
      (ascent input operand input.fuel (level + 1) index) (bared (tighter index)))
    (inside : index ≤ input.stream.lastIndex) (enough : input.stream.lastIndex < index + fuel)
    (next : OperatorBelow input.stream (level + 1) index) :
    SameRuns input.stream (climb input operand fuel level start left index)
      (foldLevel input tighter level fuel start left index) := by
  induction fuel generalizing left index with
  | zero => omega
  | succ fuel induction =>
      rcases operatorBelow_or input.stream level index with below | ⟨operator, denotes, least⟩
      · rw [climb_ended below, foldLevel_ended below]
        exact .refl _
      · obtain rfl : operator.level = level :=
          Nat.le_antisymm (Nat.le_of_lt_succ (next operator denotes)) least
        rw [climb_taken denotes least, foldLevel_taken denotes rfl]
        have before := lt_lastIndex_of_operator denotes
        have operands : SameRuns input.stream
            (ascent input operand fuel (operator.level + 1) (index + 1))
            (bared (tighter (index + 1))) :=
          (ascent_fuel operandConfined before (by omega)).trans (ascents (index + 1) before)
        refine operands.bind (ascent_confined operandConfined before (by omega))
          fun right ends => ?_
        have ahead := ends.1.lt
        exact induction ends.1.inside (by omega) ends.2

/-- An operand with the operators of the tightest levels after it is their cascade. -/
theorem ascent_cascade {count : Nat} (inside : start ≤ input.stream.lastIndex)
    (bound : count ≤ BinaryOperator.levels) :
    SameRuns input.stream (ascent input operand input.fuel (BinaryOperator.levels - count) start)
      (bared (cascade input operand count start)) := by
  induction count generalizing start with
  | zero =>
      refine SameRuns.bind (.refl _) (operandConfined start inside) fun first spans => ?_
      unfold Input.fuel
      rw [Nat.sub_zero, climb_ended operatorBelow_levels]
      exact .refl _
  | succ count induction =>
      have levelEq : BinaryOperator.levels - count = BinaryOperator.levels - (count + 1) + 1 := by
        omega
      have ascents : ∀ index, index ≤ input.stream.lastIndex → SameRuns input.stream
          (ascent input operand input.fuel (BinaryOperator.levels - (count + 1) + 1) index)
          (bared (cascade input operand count index)) := by
        intro index indexInside
        rw [← levelEq]
        exact induction indexInside (by omega)
      have loosened : SameRuns input.stream
          (ascent input operand input.fuel (BinaryOperator.levels - (count + 1)) start)
          (do
            let tight ←
              ascent input operand input.fuel (BinaryOperator.levels - (count + 1) + 1) start
            climb input operand input.fuel (BinaryOperator.levels - (count + 1)) start tight.node
              tight.stop) := by
        simp only [ascent, bind_assoc]
        exact SameRuns.bind (.refl _) (operandConfined start inside) fun first spans =>
          climb_loosened operandConfined spans.inside (fuel_enough input _)
      rw [bared_cascade_succ, cascade_succ]
      refine loosened.trans ((ascents start inside).bind
        (ascent_confined operandConfined inside (by have := fuel_enough input start; omega))
        fun tight ends => ?_)
      exact climb_foldLevel operandConfined ascents ends.1.inside (fuel_enough input _) ends.2

end Levels

section Clean

variable {input : Input} {nested : Nested} {start : Nat}

theorem suffixes_clean {fuel index : Nat} {node : Expr} :
    Yields (suffixes input nested fuel start node index) fun found => found.recovered = [] := by
  induction fuel generalizing node index with
  | zero => exact fun _ _ _ run => nomatch run
  | succ fuel induction =>
      unfold suffixes
      split
      · exact .andThen fun _ => .andThen fun _ => induction
      · exact .andThen fun _ => induction
      · exact .pure rfl

theorem unaryBody_clean :
    Yields (expressionBody input nested .unary start) fun found => found.recovered = [] := by
  unfold expressionBody
  dsimp only
  split
  · exact .supervise (.andThen fun _ => suffixes_clean)
  · exact .andThen fun _ => .pure rfl

theorem castForm_clean :
    Yields (castForm input nested start) fun found => found.recovered = [] :=
  .supervise (.andThen fun _ => .andThen fun _ => .andThen fun _ => .pure rfl)

/-- What is recalled at an index, in a memory of some kind, has recovered from no errors. -/
def RecallsClean (input : Input) (Remembered : Memo → Prop) (stratum : Stratum) (start : Nat) :
    Prop :=
  ∀ memo entry found, Remembered memo → recalled? input memo stratum start = some entry →
    entry.outcome = .ok found → found.recovered = []

variable {Remembered : Memo → Prop} {budget : Nat} {before after : State} {found : Match Expr}

theorem expression_matched {stratum : Stratum}
    (run : (expression input budget stratum start).run before = .ok (.ok found) after) :
    (∃ entry, recalled? input before.memo stratum start = some entry ∧
        entry.outcome = .ok found) ∨
      ∃ less first last, budget = less + 1 ∧ first.memo = before.memo ∧
        (expressionBody input (expression input less) stratum start).run first =
          .ok (.ok found) last := by
  cases budget with
  | zero =>
      obtain ⟨between, ran, -⟩ := supervise_ok run
      rcases remembered_ok ran with ⟨entry, recalled, same, -⟩ | ⟨last, -, computed, -⟩
      · exact .inl ⟨entry, recalled, same.symm⟩
      · cases guarded_ok computed with
        | admitted _ body => cases body
  | succ budget =>
      obtain ⟨between, ran, -⟩ := supervise_ok run
      rcases remembered_ok ran with ⟨entry, recalled, same, -⟩ | ⟨last, -, computed, -⟩
      · exact .inl ⟨entry, recalled, same.symm⟩
      · cases guarded_ok computed with
        | @admitted _ inner _ body =>
            exact .inr ⟨budget, _, inner, rfl, (rfl : (State.entered { before with
              noted := [], limitFelt := false }).memo = before.memo), body⟩

theorem unary_clean (recalls : RecallsClean input Remembered .unary start)
    (known : Remembered before.memo)
    (run : (expression input budget .unary start).run before = .ok (.ok found) after) :
    found.recovered = [] := by
  rcases expression_matched run with ⟨entry, recalled, same⟩ | ⟨less, first, last, -, -, computed⟩
  · exact recalls before.memo entry found known recalled same
  · exact unaryBody_clean _ found last computed

theorem castBody_clean (recalls : RecallsClean input Remembered .unary start)
    (kept : ∀ (before after : State) outcome, Remembered before.memo →
      (castForm input (expression input budget) start).run before = .ok outcome after →
        Remembered after.memo)
    (known : Remembered before.memo)
    (run : (expressionBody input (expression input budget) .cast start).run before =
      .ok (.ok found) after) : found.recovered = [] := by
  unfold expressionBody at run
  dsimp only at run
  split at run
  · rcases firstOf_ok run with ⟨only, -⟩ | ⟨failure, between, failed, -, searched⟩
    · exact castForm_clean before found after only
    · obtain ⟨answer, last, ran, ended⟩ := continueWith_ok searched
      cases answer with
      | ok other =>
          obtain ⟨same, -⟩ := ended
          cases same
          exact unary_clean recalls (kept before between _ known failed) ran
      | error other =>
          unfold Searched at ended
          dsimp only at ended
          split at ended
          · cases ended.1
          · cases ended
  · exact unary_clean recalls known run

end Clean

section Remembered

variable {stream : TokenStream} {options : ParserOptions} {stack : Option Nat}
  {start budget : Nat}

theorem genuine_unary_clean {entry : Memo.Entry} {found : Match Expr}
    (genuine : Genuine stream .unary start entry) (same : entry.outcome = .ok found) :
    found.recovered = [] := by
  obtain ⟨options, stack, -, -, budget, before, after, -, -, run, -⟩ := genuine
  rw [same] at run
  exact unaryBody_clean _ found after run

theorem genuine_cast_clean {entry : Memo.Entry} {found : Match Expr}
    (genuine : Genuine stream .cast start entry) (same : entry.outcome = .ok found) :
    found.recovered = [] := by
  obtain ⟨options, stack, -, -, budget, before, after, -, -, run, -⟩ := genuine
  rw [same] at run
  have recalls : RecallsClean { stream, options, stack, caching := false } (fun _ => True) .unary
      start :=
    fun _ _ _ _ recalled => nomatch recalled
  exact castBody_clean recalls (fun _ _ _ _ _ => trivial) trivial run

/-- A cast that a parser with a genuine memory matches has recovered from no errors. -/
theorem cast_clean {before after : State} {found : Match Expr}
    (kept : Kept stream before.memo)
    (run : (expression { stream, options, stack } budget .cast start).run before =
      .ok (.ok found) after) : found.recovered = [] := by
  rcases expression_matched run with ⟨entry, recalled, same⟩ |
    ⟨less, first, last, -, sameMemo, computed⟩
  · exact genuine_cast_clean (kept.faithful .cast start entry recalled) same
  · have unaries : RecallsClean { stream, options, stack } (Kept stream) .unary start :=
      fun _ entry _ known recalled same =>
        genuine_unary_clean (known.faithful .unary start entry recalled) same
    let pair := Pairing.keeping stream options stack
    have further : pair.Open (start + 1) :=
      ⟨Passage.within_of_whole (Passage.itself_whole stream), fun _ _ _ => trivial⟩
    have nested := Pairing.keeping_expressions stream options stack less less (.inr ⟨rfl, rfl, rfl⟩)
    have forms := Pairing.follows_castForm_open nested further
    refine castBody_clean unaries (fun _ _ _ known ran => forms.kept known ran) ?_ computed
    rw [sameMemo]
    exact kept

end Remembered

theorem run_bared {α : Type} {rule : Attempt (Match α)} {state : State}
    (clean : ∀ found after, rule.run state = .ok (.ok found) after → found.recovered = []) :
    (bared rule).run state = rule.run state := by
  change EStateM.bind rule.run _ state = _
  unfold EStateM.bind
  cases run : rule.run state with
  | error fault after => rfl
  | ok outcome after =>
      cases outcome with
      | error failure => rfl
      | ok found =>
          have none := clean found after run
          cases found
          cases none
          rfl

/-- Climbing is the cascade of the levels.  In every reachable state, from every start in the
stream and at any nesting, climbing from a level on and the cascade of the levels from it on
end alike: with the same match or failure, and with the same state.  Neither ever runs out of
the bound on its loops. -/
theorem binary_eq_cascade {stream : TokenStream} {options : ParserOptions}
    {stack : Option Nat} {state : State} {start budget level : Nat}
    (reachable : Reachable { stream, options, stack } state)
    (inside : start ≤ stream.lastIndex) (bound : level ≤ BinaryOperator.levels) :
    let input : Input := { stream, options, stack }
    let operand := expression input budget .cast
    (binary input (expression input budget) level start).run state =
        (cascade input operand (BinaryOperator.levels - level) start).run state ∧
      ∀ fault after,
        (cascade input operand (BinaryOperator.levels - level) start).run state =
          .error fault after → fault = .constantTooLarge := by
  intro input operand
  have confined := expression_confined input budget
  have count : BinaryOperator.levels - (BinaryOperator.levels - level) = level := by omega
  have climbed : (binary input (expression input budget) level start).run state =
      (bared (cascade input operand (BinaryOperator.levels - level) start)).run state := by
    have alike := @ascent_cascade input operand start (confined .cast)
      (BinaryOperator.levels - level) inside (by omega) state reachable.orderly
    rwa [count] at alike
  have clean : (bared (cascade input operand (BinaryOperator.levels - level) start)).run state =
      (cascade input operand (BinaryOperator.levels - level) start).run state := by
    cases BinaryOperator.levels - level with
    | zero => exact run_bared fun found after ran => cast_clean reachable.kept ran
    | succ less => rw [bared_cascade_succ]
  refine ⟨climbed.trans clean, fun fault after broken => ?_⟩
  have bounded : Confined input.stream start (binary input (expression input budget) level start)
      (SpansExpr input.stream start) := binary_confined confined inside
  have alone := bounded state reachable.orderly
  rw [climbed.trans clean, broken] at alone
  exact alone.1

/-- Operators of three levels: `a - b * c < d`. -/
def mixedStream : TokenStream :=
  { tokens := #[
      { kind := .identifier, lexeme := "a", line := 1 },
      { kind := .minus, lexeme := "-", line := 1 },
      { kind := .identifier, lexeme := "b", line := 1 },
      { kind := .star, lexeme := "*", line := 1 },
      { kind := .identifier, lexeme := "c", line := 1 },
      { kind := .less, lexeme := "<", line := 1 },
      { kind := .identifier, lexeme := "d", line := 1 },
      { kind := .endOfInput, lexeme := "", line := 1 }]
    terminated := rfl }

/-- From the level of sums on, the comparison is left over, and an operand was remembered
before. -/
theorem binary_eq_cascade_mixed :
    let input : Input := { stream := mixedStream, options := {} }
    ∃ state found after, Reachable input state ∧ (state.memo.find? .cast 2).isSome = true ∧
      (binary input (expression input 9) 8 0).run state = .ok (.ok found) after ∧
      (cascade input (expression input 9 .cast) 2 0).run state = .ok (.ok found) after ∧
      found.stop = 5 := by
  intro input
  have representable : Representable mixedStream := by decide +kernel
  obtain ⟨outcome, state, run⟩ : ∃ outcome state,
      (expression input 4 .cast 2).run {} = .ok outcome state :=
    (expression_confined input 4 .cast 2 (by decide)).answers representable
      (orderly_empty mixedStream)
  have reachable : Reachable input state :=
    .answered (.fresh rfl) (.expression 4 .cast 2) (by decide) run
  have same := @binary_eq_cascade mixedStream {} none state 0 9 8 reachable (by decide) (by decide)
  obtain ⟨answer, after, ran⟩ : ∃ answer after,
      (binary input (expression input 9) 8 0).run state = .ok answer after :=
    (binary_confined (expression_confined input 9) (Nat.zero_le _)).answers representable
      reachable.orderly
  have remembers : ((finalState ((expression input 4 .cast 2).run {})).memo.find? .cast 2).isSome =
      true := by
    decide +kernel
  have stops : (EStateM.run' (binary input (expression input 9) 8 0).run
      (finalState ((expression input 4 .cast 2).run {}))).map
        (fun answer => answer.toOption.map Match.stop) = some (some 5) := by
    decide +kernel
  rw [run] at remembers stops
  have value : ∀ result, (binary input (expression input 9) 8 0).run state = result →
      EStateM.run' (binary input (expression input 9) 8 0).run state =
        EStateM.run' (fun _ => result) state := by
    rintro _ rfl
    rfl
  have stopped : answer.toOption.map Match.stop = some 5 :=
    Option.some.inj ((congrArg (Option.map _) (value _ ran)).symm.trans stops)
  cases answer with
  | error failure => cases stopped
  | ok found =>
      exact ⟨state, found, after, reachable, remembers, ran, same.1.symm.trans ran,
        Option.some.inj stopped⟩

end MiniC.Parser
