import MiniC.Proofs.BlockRecovery
import MiniC.Proofs.NestingDepth

/-!
# What a reachable parser remembers

A result is remembered only if the nesting limit was not met on the way to it, whatever
the nesting at which it was computed.  So every result that a reachable parser remembers
is genuine: a parser that recalls nothing computes it too, once its nesting limit is high
enough.  After the end of the stream nothing is remembered, since no expression started
there comes to an answer of its own.
-/

namespace MiniC.Parser

/-- Nothing is remembered for indices after the end of a stream. -/
def NoneBeyond (stream : TokenStream) (memo : Memo) : Prop :=
  ∀ stratum start, stream.lastIndex < start → memo.find? stratum start = none

/-- A step that only ever ends because nesting is too deep, and leaves nothing behind after
the end of a stream. -/
def Stuck {α : Type} (stream : TokenStream) (attempt : Attempt α) : Prop :=
  ∀ before outcome after, NoneBeyond stream before.memo → attempt.run before = .ok outcome after →
    NoneBeyond stream after.memo ∧ after.limitFelt = true ∧
      ∃ failure, outcome = .error failure ∧ failure.kind = .nestingTooDeep

namespace Stuck

variable {α β : Type} {stream : TokenStream} {input : Input} {start : Nat}

theorem tooDeep {levels : Nat} : Stuck stream (tooDeep start levels : Attempt α) := by
  intro before outcome after none run
  cases run
  exact ⟨none, rfl, _, rfl, rfl⟩

theorem guarded {rule : Attempt (Match α)} (stuck : Stuck stream rule) :
    Stuck stream (guarded input start rule) := by
  intro before outcome after none run
  cases guarded_ok run with
  | refused => exact ⟨none, rfl, _, rfl, rfl⟩
  | @admitted _ between _ ran => exact stuck before.entered outcome between none ran

theorem andThen {first : Attempt α} {next : α → Attempt β} (stuck : Stuck stream first) :
    Stuck stream (first >>= next) := by
  intro before outcome after none run
  rcases bind_ok run with ⟨value, between, ran, -⟩ | ⟨failure, ran, rfl⟩
  · obtain ⟨-, -, failure, impossible, -⟩ := stuck before _ between none ran
    cases impossible
  · obtain ⟨kept, felt, known, same, deep⟩ := stuck before _ after none ran
    cases same
    exact ⟨kept, felt, failure, rfl, deep⟩

theorem firstOf {first : Attempt (Match α)} {others : List (Attempt (Match α))}
    (stuck : Stuck stream first) : Stuck stream (firstOf first others) := by
  intro before outcome after none run
  rcases firstOf_ok run with ⟨only, -⟩ | ⟨failure, between, failed, mild, -⟩
  · exact stuck before outcome after none only
  · obtain ⟨-, -, known, same, deep⟩ := stuck before _ between none failed
    cases same
    exact absurd deep mild

theorem supervise {rule : Attempt (Match α)} (stuck : Stuck stream rule) :
    Stuck stream (supervise input start rule) := by
  intro before outcome after none run
  obtain ⟨between, ran, rfl⟩ := supervise_ok run
  simpa using stuck before outcome between none ran

theorem remembered {stratum : Stratum} {compute : Attempt (Match Expr)}
    (beyond : stream.lastIndex < start) (stuck : Stuck stream compute) :
    Stuck stream (remembered input stratum start compute) := by
  intro before outcome after none run
  rcases remembered_ok run with ⟨entry, recalled, -⟩ | ⟨between, -, ran, rfl⟩
  · unfold recalled? at recalled
    rw [none stratum start beyond] at recalled
    split at recalled <;> cases recalled
  · obtain ⟨kept, felt, failed⟩ :=
      stuck { before with noted := [], limitFelt := false } outcome between none ran
    simp only [felt, Bool.or_true, if_true]
    exact ⟨kept, trivial, failed⟩

theorem primary {nested : Nested} (beyond : input.stream.lastIndex < start) :
    Stuck input.stream (primary input nested start) := by
  apply supervise
  intro before outcome after _ run
  rcases bind_ok run with ⟨token, between, looked, -⟩ | ⟨failure, looked, -⟩
  · obtain ⟨known, found, -⟩ := lift_ok looked
    have inside := TokenStream.le_of_get? (tokenAt_ok found).1
    omega
  · obtain ⟨known, -, impossible⟩ := lift_ok looked
    cases impossible

theorem expressionBody {nested : Nested} (beyond : input.stream.lastIndex < start)
    (stuck : ∀ stratum, Stuck input.stream (nested stratum start)) (stratum : Stratum) :
    Stuck input.stream (expressionBody input nested stratum start) := by
  have atEnd : input.kindAt start = .endOfInput :=
    TokenStream.kindAt_of_lastIndex_le (Nat.le_of_lt beyond)
  cases stratum with
  | assignment => exact .firstOf (.supervise (.andThen (stuck .unary)))
  | cast =>
      unfold Parser.expressionBody
      simp only [atEnd, reduceCtorEq, false_and, if_false]
      exact stuck .unary
  | unary =>
      unfold Parser.expressionBody
      simp only [atEnd, UnaryOperator.ofKind?]
      exact .supervise (.andThen (.primary beyond))

theorem expression (beyond : input.stream.lastIndex < start) (budget : Nat) (stratum : Stratum) :
    Stuck input.stream (expression input budget stratum start) := by
  induction budget generalizing stratum with
  | zero => exact .supervise (.remembered beyond (.guarded .tooDeep))
  | succ budget induction =>
      exact .supervise (.remembered beyond (.guarded (.expressionBody beyond induction stratum)))

end Stuck

namespace Pairing

/-- Both runs recall the same results, and nothing is asked after the nesting limit. -/
def deepened (stream : TokenStream) (options roomy : ParserOptions) (stack : Option Nat) :
    Pairing :=
  { passage := .itself stream, leadOptions := options, trailOptions := roomy,
    leadStack := stack, trailStack := none, leadCaching := true, trailCaching := true,
    limited := true, Memos := fun memo other => other = memo, Ledgers := fun _ _ => True,
    partly := fun part => absurd part (Passage.itself_whole stream) }

theorem deepened_expressions (stream : TokenStream) (options roomy : ParserOptions)
    (stack : Option Nat) : (deepened stream options roomy stack).ExpressionsFollow := by
  refine Remembers.expressions ⟨?_, ?_, ?_⟩
  · rintro memo _ stratum start rfl _
    exact (Movable.moved_still _).symm
  · intro memo other stratum start entry _ _ unlimited
    cases unlimited
  · rintro _ memo _ _ stratum start entry _ _ rfl _ _
    exact congrArg (Memo.insert _ stratum start) (Movable.moved_still entry)

end Pairing

section Genuine

variable {stream : TokenStream} {options : ParserOptions} {stack : Option Nat}
  {stratum : Stratum} {start budget : Nat}

/-- Where what an expression needs is admitted, the nesting limit is not met. -/
theorem expressionBody_unfelt {input : Input} (stratum : Stratum)
    (inside : start ≤ input.stream.lastIndex)
    (enough : exprNeed input.stream stratum start ≤ budget) {state : State}
    (admits : Admits input state.nesting (exprNeed input.stream stratum start))
    (orderly : Orderly input.stream state.memo) :
    (finalState ((expressionBody input (expression input budget) stratum start).run
      state)).limitFelt = state.limitFelt := by
  have below := rules_need input budget (exprNeed input.stream stratum start)
  exact (expressionBody_needs (expression_confined input budget) below.expr stratum inside
    (Nat.le_succ _) state orderly).unfelt enough admits

/-- What is computed from genuine results without meeting the nesting limit is genuine. -/
theorem Computed.genuine {entry : Memo.Entry} {first last : Memo}
    (computed : Computed { stream, options, stack } stratum start entry first last)
    (inside : start ≤ stream.lastIndex) (faithful : Faithful stream first) :
    Genuine stream stratum start entry := by
  obtain ⟨budget, before, after, rfl, alone, run, superseded, unfelt, -⟩ := computed
  let need := exprNeed stream stratum start
  let roomy := roomier options need
  let deep := max budget need
  let recalling : Input := { stream, options := roomy }
  let bare : Input := { stream, options := roomy, caching := false }
  let free : State := { before with nesting := 0 }
  have ready : ∀ {pair : Pairing}, ¬ pair.passage.Partial → pair.limited = true →
      pair.Ready start := fun whole limited =>
    ⟨Passage.within_of_whole whole, fun unlimited => nomatch unlimited.symm.trans limited⟩
  obtain ⟨between, ran, betweenEq, betweenUnfelt⟩ : ∃ between,
      (expressionBody recalling (expression recalling deep) stratum start).run free =
        .ok entry.outcome between ∧
      between.superseded = after.superseded ∧ between.limitFelt = false := by
    let pair := Pairing.deepened stream options roomy stack
    have nested := Pairing.deepened_expressions stream options roomy stack budget deep
      (.inl ⟨rfl, Nat.le_max_left _ _⟩)
    have whole : ¬ pair.passage.Partial := Passage.itself_whole stream
    have follows := Pairing.follows_expressionBody nested stratum (ready whole rfl)
    have linked : pair.Linked { nesting := before.nesting } {} before free :=
      ⟨⟨⟨rfl, trivial⟩, rfl, rfl⟩, ⟨[], alone.noted, alone.noted⟩, false, alone.unfelt,
        alone.unfelt⟩
    have allows : pair.Allows before.nesting 0 :=
      .inl ⟨rfl, Nat.zero_le _, Nat.le_trans (le_roomier options need) (Nat.le_add_right _ _),
        .inl rfl⟩
    obtain ⟨last, ran, -, ended⟩ :=
      follows.same rfl allows linked run fun gaveUp => nomatch unfelt.symm.trans gaveUp.2
    exact ⟨last, ran, ended.superseded.trans (Movable.moved_still _),
      (ended.sameFelt rfl).trans unfelt⟩
  -- there a parser that recalls nothing does not meet its limit, so it leads
  have bareUnfelt : (finalState ((expressionBody bare (expression bare deep) stratum start).run
      {})).limitFelt = false :=
    expressionBody_unfelt stratum inside (Nat.le_max_right _ _)
      ⟨Nat.le_trans (Nat.le_of_eq (Nat.zero_add _)) (levels_le_roomier options need), nofun⟩
      (orderly_empty stream)
  let pair := Pairing.recalling stream roomy roomy none none true fun _ _ => True
  have nested := Pairing.recalling_expressions stream roomy roomy none none true
    (fun _ _ => True) deep deep (.inl ⟨rfl, Nat.le_refl _⟩)
  have whole : ¬ pair.passage.Partial := Passage.itself_whole stream
  have follows := Pairing.follows_expressionBody nested stratum (ready whole rfl)
  have linked : pair.Linked {} {} {} free :=
    ⟨⟨⟨faithful, trivial⟩, rfl, rfl⟩, ⟨[], rfl, alone.noted⟩, false, rfl, alone.unfelt⟩
  have alike := (follows.alike {} {} {} free (.inr ⟨rfl, rfl, rfl⟩) linked).resolve_left
    fun lost => nomatch bareUnfelt.symm.trans ((Pairing.lost_iff rfl rfl rfl).mp lost)
  change pair.Alike {} {} _
    ((expressionBody bare (expression bare deep) stratum start).run {})
    ((expressionBody recalling (expression recalling deep) stratum start).run free) at alike
  rw [ran] at alike
  obtain ⟨bareAfter, bareRun, ended⟩ := alike.ledSame rfl
  rw [bareRun] at bareUnfelt
  refine ⟨roomy, none, _, _, deep, {}, bareAfter, rfl, ⟨rfl, rfl⟩, bareRun, ?_, bareUnfelt, rfl⟩
  have same : between.superseded = bareAfter.superseded :=
    ended.superseded.trans (Movable.moved_still _)
  exact same.symm.trans (betweenEq.trans superseded)

end Genuine

/-- What a memory that is kept up holds: genuine results, none after the end of the stream,
and matches that begin with tokens that expressions start with. -/
structure Kept (stream : TokenStream) (memo : Memo) : Prop where
  faithful : Faithful stream memo
  none : NoneBeyond stream memo
  begins : ∀ stratum start entry, memo.find? stratum start = some entry →
    Pairing.OnMatch (fun found : Match Expr =>
      start < found.stop ∧ startsExpression (stream.kindAt start) = true) entry.outcome

namespace Kept

variable {stream : TokenStream} {memo : Memo}

theorem empty (stream : TokenStream) : Kept stream .empty := by
  refine ⟨faithful_empty stream, fun stratum start _ => Memo.find?_empty stratum start, ?_⟩
  intro stratum start entry found
  rw [Memo.find?_empty] at found
  cases found

theorem insert (kept : Kept stream memo) {stratum : Stratum} {start : Nat}
    {entry : Memo.Entry} (inside : start ≤ stream.lastIndex)
    (genuine : Genuine stream stratum start entry)
    (begins : Pairing.OnMatch (fun found : Match Expr =>
      start < found.stop ∧ startsExpression (stream.kindAt start) = true) entry.outcome) :
    Kept stream (memo.insert stratum start entry) := by
  refine ⟨kept.faithful.insert genuine, ?_, ?_⟩
  · intro other place beyond
    rw [Memo.find?_insert, if_neg (by omega)]
    exact kept.none other place beyond
  · intro other place known found
    rw [Memo.find?_insert] at found
    split at found
    · rename_i same
      obtain ⟨-, rfl⟩ := same
      cases found
      exact begins
    · exact kept.begins other place known found

end Kept

namespace Pairing

/-- A parser beside itself, with a memory that is kept up. -/
def keeping (stream : TokenStream) (options : ParserOptions) (stack : Option Nat) : Pairing :=
  { passage := .itself stream, leadOptions := options, trailOptions := options,
    leadStack := stack, trailStack := stack, leadCaching := true, trailCaching := true,
    Memos := fun memo other => other = memo ∧ Kept stream memo,
    Ledgers := fun first second => second = first,
    partly := fun part => absurd part (Passage.itself_whole stream) }

section Keeping

variable {stream : TokenStream} {options : ParserOptions} {stack : Option Nat}

theorem uniform_keeping : (keeping stream options stack).Uniform :=
  ⟨rfl, Passage.itself_whole stream, rfl, fun _ _ => Iff.rfl, fun _ => trivial⟩

/-- What is computed without meeting the nesting limit is computed inside the stream. -/
theorem computed_inside {stratum : Stratum} {start : Nat} {entry : Memo.Entry}
    {first last : Memo} (computed : Computed { stream, options, stack } stratum start entry first
      last) (none : NoneBeyond stream first) : start ≤ stream.lastIndex := by
  obtain ⟨budget, before, after, rfl, -, run, -, unfelt, -⟩ := computed
  apply Nat.le_of_not_lt
  intro beyond
  let input : Input := { stream, options, stack }
  have stuck : Stuck input.stream (expressionBody input (expression input budget) stratum start) :=
    .expressionBody beyond (.expression beyond budget) stratum
  exact nomatch unfelt.symm.trans (stuck before _ after none run).2.1

theorem keeping_expressions (stream : TokenStream) (options : ParserOptions)
    (stack : Option Nat) : (keeping stream options stack).ExpressionsFollow := by
  refine Remembers.expressions ⟨?_, ?_, ?_⟩
  · rintro memo _ stratum start ⟨rfl, -⟩ _
    exact (Movable.moved_still _).symm
  · rintro memo other stratum start entry ⟨-, kept⟩ _ _ found value matched
    obtain ⟨ahead, starts⟩ := kept.begins stratum start entry found value matched
    exact ⟨ahead, starts, Passage.within_of_whole (Passage.itself_whole stream)⟩
  · rintro first memo firstOther _ stratum start entry ⟨-, firstKept⟩ computed ⟨rfl, kept⟩ _ begins
    have inside := computed_inside computed firstKept.none
    refine ⟨congrArg (Memo.insert _ stratum start) (Movable.moved_still entry),
      kept.insert inside (computed.genuine inside firstKept.faithful) fun value matched => ?_⟩
    have begun := begins rfl value matched
    exact ⟨begun.lt, begun.starts⟩

theorem Follows.kept {α : Type} [Movable α] {rule : Attempt α} {P : α → Prop}
    {before after : State} {outcome : Except Diagnostic α}
    (follows : (keeping stream options stack).Follows rule rule P)
    (kept : Kept stream before.memo) (run : rule.run before = .ok outcome after) :
    Kept stream after.memo := by
  have akin : (keeping stream options stack).Akin before before := ⟨⟨rfl, kept⟩, rfl⟩
  obtain ⟨last, -, -, linked⟩ :=
    follows.answered (.inr ⟨rfl, rfl, rfl⟩) akin.linked run fun gaveUp => nomatch gaveUp.1
  exact linked.memos.2

end Keeping

end Pairing

theorem Rule.keeps {stream : TokenStream} {options : ParserOptions} {stack : Option Nat}
    {α : Type} {start : Nat} {rule : Attempt (Match α)}
    (named : Rule { stream, options, stack } α start rule) {before after : State}
    {outcome : Outcome α} (kept : Kept stream before.memo)
    (run : rule.run before = .ok outcome after) : Kept stream after.memo := by
  have expressions := Pairing.keeping_expressions stream options stack
  have grounds := Pairing.uniform_keeping.grounds expressions
  have matched : ∀ budget, (Pairing.keeping stream options stack).Matched budget budget :=
    fun _ => .inr ⟨rfl, rfl, rfl⟩
  have within : (Pairing.keeping stream options stack).passage.Within start :=
    Passage.within_of_whole (Passage.itself_whole stream)
  have isOpen : (Pairing.keeping stream options stack).Open start :=
    ⟨within, fun _ _ _ => trivial⟩
  cases named with
  | expression budget stratum =>
      exact (expressions budget budget (matched budget) stratum start isOpen.ready).kept kept run
  | declarator budget =>
      exact (Pairing.follows_declarator expressions (matched budget) start isOpen).kept kept run
  | declaration budget =>
      exact (Pairing.declarations_follow grounds (matched budget) start within).kept kept run
  | statement budget =>
      exact (Pairing.statements_follow grounds (matched budget) start
        (Passage.enclosed_of_partial fun part => absurd part (Passage.itself_whole stream))).kept
          kept run
  | block budget =>
      exact (Pairing.follows_block grounds (matched budget) start within).kept kept run
  | functionDefinition budget =>
      exact (Pairing.follows_functionDefinition grounds (matched budget) within).kept kept run

theorem Reachable.kept {stream : TokenStream} {options : ParserOptions} {stack : Option Nat}
    {state : State} (reachable : Reachable { stream, options, stack } state) :
    Kept stream state.memo := by
  induction reachable with
  | fresh nothing =>
      rw [nothing]
      exact .empty stream
  | answered _ named _ run induction => exact named.keeps induction run
  | changed _ kept induction =>
      rw [kept]
      exact induction

end MiniC.Parser
