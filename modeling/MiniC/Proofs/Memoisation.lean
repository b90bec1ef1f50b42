import MiniC.Proofs.LockstepMemory
import MiniC.Proofs.LockstepStatement

/-!
# Remembered results are not noticed

A parser that never meets the nesting limit answers the same whether it uses
remembered results or not.  That holds for whole units, and for any sequence of
calls of expression rules on one parser: each call answers, and notes, what it
would on a fresh parser.
-/

namespace MiniC.Parser

/-- The rules of expressions.  A stratum has a rule that is guarded and remembered, and the
rule inside it, which is neither. -/
inductive ExpressionRule where
  | stratum (stratum : Stratum)
  | body (stratum : Stratum)
  | assignmentForm
  | binary (minLevel : Nat)
  | castForm
  | arguments
  | primary
  | suffixed

/-- A call of a rule of expressions at a start index, within a nesting budget. -/
structure Call where
  rule : ExpressionRule
  budget : Nat
  start : Nat

/-- What rules of expressions build: an expression, or the arguments of a call. -/
abbrev Part := Expr ⊕ List Expr

/-- The step that a call takes. -/
def Call.attempt (input : Input) (call : Call) : Attempt (Match Part) :=
  let nested := expression input call.budget
  match call.rule with
  | .stratum stratum => return (← nested stratum call.start).map .inl
  | .body stratum => return (← expressionBody input nested stratum call.start).map .inl
  | .assignmentForm => return (← assignmentForm input nested call.start).map .inl
  | .binary minLevel => return (← binary input nested minLevel call.start).map .inl
  | .castForm => return (← castForm input nested call.start).map .inl
  | .arguments => return (← arguments input nested call.start).map .inr
  | .primary => return (← primary input nested call.start).map .inl
  | .suffixed => return (← suffixed input nested call.start).map .inl

theorem Call.follows {pair : Pairing} (expressions : pair.ExpressionsFollow) (call : Call)
    (matched : pair.Matched call.budget call.budget) (isOpen : pair.Open call.start)
    (further : pair.Open (call.start + 1)) :
    pair.Follows (call.attempt pair.lead)
      ({ call with start := call.start + pair.offset : Call }.attempt pair.trail)
      fun _ => True := by
  have ready : pair.Ready call.start := isOpen.ready
  have nested := expressions call.budget call.budget matched
  have answers : ∀ {α : Type} [Movable α] {lead trail : Attempt (Match α)} {P : Match α → Prop}
      (part : α → Part), (∀ node, part (moved pair.shift node) = moved pair.shift (part node)) →
      pair.Follows lead trail P →
      pair.Follows (lead >>= fun found => pure (found.map part))
        (trail >>= fun found => pure (found.map part)) fun _ => True :=
    fun part same follows => .bind follows fun found _ =>
      .pure (congrArg (Match.mk · _ _) (same found.node)) fun _ => trivial
  unfold Call.attempt
  cases call.rule with
  | stratum stratum => exact answers .inl (fun _ => rfl) (nested stratum call.start ready)
  | body stratum =>
      exact answers .inl (fun _ => rfl) (Pairing.follows_expressionBody nested stratum ready)
  | assignmentForm =>
      exact answers .inl (fun _ => rfl) (Pairing.follows_assignmentForm nested ready)
  | binary minLevel => exact answers .inl (fun _ => rfl) (Pairing.follows_binary nested ready)
  | castForm => exact answers .inl (fun _ => rfl) (Pairing.follows_castForm_open nested further)
  | arguments => exact answers .inr (fun _ => rfl) (Pairing.follows_arguments nested further)
  | primary => exact answers .inl (fun _ => rfl) (Pairing.follows_primary nested ready)
  | suffixed => exact answers .inl (fun _ => rfl) (Pairing.follows_suffixed nested ready)

/-- What a call hands back: its answer with the failures it noted, unless it is broken
off. -/
abbrev Report := Except Fault (Outcome Part × List Diagnostic)

/-- Make a call on a parser. -/
def Call.perform (input : Input) (call : Call) (state : State) : Report × State :=
  match (call.attempt input).run state with
  | .ok outcome after =>
      (.ok (outcome, after.noted.take (after.noted.length - state.noted.length)), after)
  | .error fault after => (.error fault, after)

/-- Make calls on one parser, one after the other. -/
def performAll (input : Input) : List Call → State → List Report × State
  | [], state => ([], state)
  | call :: rest, state =>
      let (report, after) := call.perform input state
      let (reports, last) := performAll input rest after
      (report :: reports, last)

section Calls

variable {stream : TokenStream} {options : ParserOptions} {stack : Option Nat}

/-- The calls of a parser that recalls results beside those of one that does not. -/
abbrev besideForgetful (stream : TokenStream) (options : ParserOptions) (stack : Option Nat) :
    Pairing :=
  .recalling stream options options stack stack true fun _ _ => True

theorem besideForgetful_follows (call : Call) :
    (besideForgetful stream options stack).Follows
      (call.attempt (besideForgetful stream options stack).lead)
      (call.attempt (besideForgetful stream options stack).trail) fun _ => True := by
  have isOpen : ∀ start, (besideForgetful stream options stack).Open start := fun start =>
    ⟨Passage.within_of_whole (Passage.itself_whole stream), fun unlimited => nomatch unlimited⟩
  exact call.follows (Pairing.recalling_expressions stream options options stack stack true _)
    (.inr ⟨rfl, rfl, rfl⟩) (isOpen _) (isOpen _)

/-- Outside of guarded rules the two parsers have the same room. -/
theorem besideForgetful_allows {nesting : Nat} :
    (besideForgetful stream options stack).Allows nesting nesting :=
  .inr ⟨rfl, rfl, rfl⟩

theorem perform_limitFelt {call : Call} {state : State} (felt : state.limitFelt = true) :
    (call.perform (besideForgetful stream options stack).lead state).2.limitFelt = true := by
  have lost : (besideForgetful stream options stack).Lost
      ((call.attempt (besideForgetful stream options stack).lead).run state) :=
    (besideForgetful_follows call).givesUp state ⟨rfl, felt⟩
  unfold Call.perform
  cases run : (call.attempt (besideForgetful stream options stack).lead).run state with
  | ok outcome after =>
      rw [run] at lost
      exact lost.2
  | error fault after =>
      rw [run] at lost
      rcases lost with (impossible | impossible) | gaveUp
      · exact nomatch impossible
      · exact nomatch impossible.1
      · exact gaveUp.2

theorem performAll_limitFelt {calls : List Call} {state : State}
    (felt : state.limitFelt = true) :
    (performAll (besideForgetful stream options stack).lead calls state).2.limitFelt = true := by
  induction calls generalizing state with
  | nil => exact felt
  | cons call rest induction => exact induction (perform_limitFelt felt)

/-- A call on a parser that recalls results, beside the same call on one that does
not and does not meet the nesting limit. -/
theorem perform_alike {call : Call} {before other : State}
    (returned : (besideForgetful stream options stack).Returned {} {} before other)
    (unfelt : (call.perform (besideForgetful stream options stack).lead before).2.limitFelt =
      false) :
    let free := call.perform (besideForgetful stream options stack).lead before
    let recalled := call.perform (besideForgetful stream options stack).trail other
    recalled.1 = free.1 ∧
      (besideForgetful stream options stack).Returned {} {} free.2 recalled.2 := by
  have sameNesting : other.nesting = before.nesting :=
    returned.trailNesting.trans returned.leadNesting.symm
  have allows : (besideForgetful stream options stack).Allows before.nesting other.nesting := by
    rw [sameNesting]
    exact besideForgetful_allows
  unfold Call.perform at unfelt ⊢
  cases leadRun : (call.attempt (besideForgetful stream options stack).lead).run before with
  | error fault after =>
      have run := (besideForgetful_follows call).alike (.of before) (.of other) before other allows
        returned.toAkin.linked
      rw [leadRun] at run unfelt
      rcases run with ((impossible | impossible) | gaveUp) | alike
      · exact nomatch impossible
      · exact nomatch impossible.1
      · exact nomatch unfelt.symm.trans gaveUp.2
      · obtain ⟨last, trailRun, back⟩ := alike.broken
        rw [trailRun]
        exact ⟨rfl, back.toAkin, back.leadNesting.trans returned.leadNesting,
          back.trailNesting.trans returned.trailNesting⟩
  | ok outcome after =>
      rw [leadRun] at unfelt
      obtain ⟨last, trailRun, -, ended⟩ :=
        (besideForgetful_follows call).same rfl allows returned.toAkin.linked leadRun
          fun gaveUp => nomatch unfelt.symm.trans gaveUp.2
      rw [trailRun]
      obtain ⟨added, leadEq, trailEq⟩ := ended.sameNoted rfl
      exact ⟨by simp [leadEq, trailEq, Pairing.Background.of], ended.toAkin,
        ended.leadNesting.trans returned.leadNesting,
        ended.trailNesting.trans returned.trailNesting⟩

/-- Calls on one parser that recalls results answer as the same calls do on one that
does not, and as each of them does on a fresh parser. -/
theorem performAll_alike {calls : List Call} {before other : State}
    (returned : (besideForgetful stream options stack).Returned {} {} before other)
    (unfelt : (performAll (besideForgetful stream options stack).lead calls before).2.limitFelt =
      false) :
    (performAll (besideForgetful stream options stack).trail calls other).1 =
        (performAll (besideForgetful stream options stack).lead calls before).1 ∧
      (performAll (besideForgetful stream options stack).trail calls other).1 =
        calls.map fun call =>
          (call.perform (besideForgetful stream options stack).trail {}).1 := by
  induction calls generalizing before other with
  | nil => exact ⟨rfl, rfl⟩
  | cons call rest induction =>
      have unfeltCall :
          (call.perform (besideForgetful stream options stack).lead before).2.limitFelt =
            false := by
        rw [← Bool.not_eq_true]
        intro felt
        have met : (performAll (besideForgetful stream options stack).lead (call :: rest)
            before).2.limitFelt = true := by
          simp only [performAll]
          exact performAll_limitFelt felt
        exact nomatch unfelt.symm.trans met
      have fresh : (besideForgetful stream options stack).Returned {} {} before {} :=
        ⟨⟨faithful_empty stream, trivial⟩, returned.leadNesting, rfl⟩
      obtain ⟨sameReport, afterReturned⟩ := perform_alike returned unfeltCall
      obtain ⟨freshReport, -⟩ := perform_alike fresh unfeltCall
      obtain ⟨sameRest, freshRest⟩ := induction afterReturned unfelt
      refine ⟨?_, ?_⟩
      · simp only [performAll]
        rw [sameReport, sameRest]
      · simp only [performAll, List.map_cons]
        rw [freshRest, sameReport, freshReport]

end Calls

section Units

variable {stream : TokenStream} {options : ParserOptions} {stack : Option Nat}

/-- A parser that remembers, with the same or a larger nesting limit, answers like one that
does not and does not meet the nesting limit, even after a run that met it. -/
theorem answer_forgetful_from {larger : ParserOptions} {state other : State}
    (maxNesting : options.maxNesting ≤ larger.maxNesting)
    (maxErrors : larger.maxErrors = options.maxErrors)
    (filename : larger.filename = options.filename) (sameNesting : other.nesting = state.nesting)
    (sameTrace : other.trace = state.trace)
    (unfelt : (finalState (parse { stream, options, stack, caching := false } state)).limitFelt =
      false) :
    answer (parse { stream, options := larger, stack } other) =
      answer (parse { stream, options, stack, caching := false } state) := by
  let pair := Pairing.recalling stream options larger stack stack true
    fun first second => second = first
  have uniform : pair.Uniform :=
    ⟨rfl, Passage.itself_whole stream, maxErrors, fun _ _ => Iff.rfl, fun _ => trivial⟩
  have allows : pair.Allows state.nesting other.nesting := by
    rw [sameNesting]
    exact .inl ⟨rfl, Nat.le_refl _, Nat.add_le_add_right maxNesting _, .inr rfl⟩
  have alike := (Pairing.parse_lockstep_from uniform (Pairing.recalling_expressions _ _ _ _ _ _ _)
    (.inl ⟨rfl, maxNesting⟩) filename (faithful_empty stream) allows sameTrace).resolve_left
      fun lost => nomatch unfelt.symm.trans ((Pairing.lost_iff rfl rfl rfl).mp lost)
  exact alike.answer_eq uniform

theorem answer_forgetful {state : State}
    (unfelt : (finalState (parse { stream, options, stack, caching := false } state)).limitFelt =
      false) :
    answer (parse { stream, options, stack } state) =
      answer (parse { stream, options, stack, caching := false } state) :=
  answer_forgetful_from (Nat.le_refl _) rfl rfl rfl rfl unfelt

/-- Remembered results are not noticed by a parser that, without them, does not meet
the nesting limit: whole units come out the same, and each of any calls on one parser
answers and notes what it does on a fresh parser. -/
theorem remembering_unnoticed (stream : TokenStream) (options : ParserOptions)
    (stack : Option Nat) :
    let forgetful : Input := { stream, options, stack, caching := false }
    let remembering : Input := { stream, options, stack }
    (∀ state, (finalState (parse forgetful state)).limitFelt = false →
        answer (parse remembering state) = answer (parse forgetful state)) ∧
      ∀ calls, (performAll forgetful calls {}).2.limitFelt = false →
        (performAll remembering calls {}).1 = (performAll forgetful calls {}).1 ∧
          (performAll remembering calls {}).1 =
            calls.map fun call => (call.perform remembering {}).1 := by
  intro forgetful remembering
  refine ⟨fun state unfelt => answer_forgetful unfelt, fun calls unfelt => ?_⟩
  have fresh : (besideForgetful stream options stack).Returned {} {} {} {} :=
    ⟨⟨faithful_empty stream, trivial⟩, rfl, rfl⟩
  exact performAll_alike fresh unfelt

end Units

/-- A declaration whose initial value is a sum of a name and a number. -/
def sumStream : TokenStream :=
  { tokens := #[
      { kind := .intWord, lexeme := "int", line := 1 },
      { kind := .identifier, lexeme := "a", line := 1 },
      { kind := .assign, lexeme := "=", line := 1 },
      { kind := .identifier, lexeme := "b", line := 1 },
      { kind := .plus, lexeme := "+", line := 1 },
      { kind := .integerConstant, lexeme := "1", line := 1 },
      { kind := .semicolon, lexeme := ";", line := 1 },
      { kind := .endOfInput, lexeme := "", line := 1 }]
    terminated := rfl }

/-- Two calls of which the second finds results of the first. -/
def sumCalls : List Call :=
  [⟨.stratum .assignment, 64, 3⟩, ⟨.binary 0, 64, 3⟩]

theorem remembering_unnoticed_sum :
    ((finalState (parse { stream := sumStream, options := {}, caching := false } {})).limitFelt =
        false ∧
      answer (parse { stream := sumStream, options := {} } {}) =
        answer (parse { stream := sumStream, options := {}, caching := false } {})) ∧
      (performAll { stream := sumStream, options := {}, caching := false } sumCalls
        {}).2.limitFelt = false ∧
      (performAll { stream := sumStream, options := {} } sumCalls {}).1 =
        sumCalls.map fun call =>
          (call.perform { stream := sumStream, options := {} } {}).1 := by
  have unfelt :
      (finalState (parse { stream := sumStream, options := {}, caching := false } {})).limitFelt =
        false := by
    decide +kernel
  have unfeltCalls :
      (performAll { stream := sumStream, options := {}, caching := false } sumCalls
        {}).2.limitFelt = false := by
    decide +kernel
  have unnoticed := remembering_unnoticed sumStream {} none
  exact ⟨⟨unfelt, unnoticed.1 {} unfelt⟩, unfeltCalls, (unnoticed.2 sumCalls unfeltCalls).2⟩

end MiniC.Parser
