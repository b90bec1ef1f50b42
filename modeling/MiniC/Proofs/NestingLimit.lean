import MiniC.Proofs.TandemStatements

/-!
# Raising the nesting limit

An error from the nesting limit inside a block is recovered from there, so a statement
around the block may match or fail all the same.  Where it ends, or how it fails, does
not depend on the limit.  If none of the errors of a match comes from the limit, and
the error limit is not reached, the match itself does not depend on it either.  So a
run that reports no error from the nesting limit is the run with any higher limit.
-/

namespace MiniC.Parser

/-- Errors after `count` others that come to less than a limit, none of them from the
nesting limit, as long as the runs are `even`. -/
structure Untroubled (limit count : Nat) (even : Prop) (errors : List Diagnostic) : Prop where
  even : even
  mild : ∀ error ∈ errors, error.kind ≠ .nestingTooDeep
  few : count + errors.length < limit

namespace Untroubled

variable {limit count : Nat} {even : Prop} {errors more : List Diagnostic}

theorem append_left (untroubled : Untroubled limit count even (errors ++ more)) :
    Untroubled limit count even errors := by
  have few := untroubled.few
  rw [List.length_append] at few
  exact ⟨untroubled.even,
    fun error member => untroubled.mild error (List.mem_append.mpr (.inl member)), by omega⟩

theorem append_right (untroubled : Untroubled limit count even (errors ++ more)) :
    Untroubled limit (count + errors.length) (Untroubled limit count even errors) more := by
  have few := untroubled.few
  rw [List.length_append] at few
  exact ⟨untroubled.append_left,
    fun error member => untroubled.mild error (List.mem_append.mpr (.inr member)), by omega⟩

end Untroubled

/-- Errors are compared as long as none comes from the nesting limit and the error limit is
not reached.  A mark is a bound on how many there are so far, and whether the runs are even. -/
def trouble (limit : Nat) : Tally where
  Mark := Nat × Prop
  after mark errors := (mark.1 + errors.length, Untroubled limit mark.1 mark.2 errors)
  Counts mark count other := count ≤ mark.1 ∧ (mark.2 → other = count)
  Agree mark errors other := Untroubled limit mark.1 mark.2 errors → other = errors
  Exact mark errors := Untroubled limit mark.1 mark.2 errors
  later _ counts := ⟨Nat.le_trans counts.1 (Nat.le_add_right _ _), fun untroubled =>
    counts.2 untroubled.even⟩
  joined counts := by
    refine ⟨?_, fun untroubled => counts.2 untroubled.append_right⟩
    rw [List.length_append, ← Nat.add_assoc]
    exact counts.1
  itself _ _ _ := rfl
  append first second untroubled := by
    rw [first untroubled.append_left, second untroubled.append_right]
  exact_left := Untroubled.append_left
  exact_right := Untroubled.append_right

/-- A stream with settings, and a nesting limit that is higher. -/
structure Raise where
  stream : TokenStream
  options : ParserOptions
  stack : Option Nat
  high : Nat
  le : options.maxNesting ≤ high
  representable : Representable stream

/-- The run with the low limit leads. -/
def Raise.tandem (raise : Raise) : Tandem :=
  { trouble raise.options.maxErrors with
    stream := raise.stream
    leadOptions := raise.options
    trailOptions :=
      { raise.options with
        maxNesting := raise.high
        maxNesting_pos := Nat.lt_of_lt_of_le raise.options.maxNesting_pos raise.le }
    stack := raise.stack
    raised := true
    higher := raise.le
    level := nofun }

section Loop

variable {α : Type} {raise : Raise} {active first limit index : Nat} {Shared : Nat → Prop}
  {leadItem trailItem : Nat → Attempt (Match α)} {description : String}
  {before other after : State} {found : Match (List α)}

/-- An error that is recorded for an item comes from the nesting limit if its failure does. -/
theorem itemFailure_mild {failure : Diagnostic} {superseded : Option Diagnostic}
    (mild : (itemFailure index description failure superseded).kind ≠ .nestingTooDeep) :
    failure.kind ≠ .nestingTooDeep := by
  intro tooDeep
  apply mild
  unfold itemFailure describeAt
  cases superseded with
  | none =>
      dsimp only
      rw [if_neg (by simp [tooDeep])]
      exact tooDeep
  | some other =>
      dsimp only
      rw [if_pos tooDeep, if_neg (by simp [tooDeep])]
      exact tooDeep

/-- Where the runs are even they reach the error limit together. -/
theorem limitReached_even
    (together :
      raise.tandem.Together active (fun count other => other = count) Shared before other) :
    limitReached raise.tandem.trail other = limitReached raise.tandem.lead before := by
  unfold limitReached
  rw [together.unreported.1, together.unreported.2, together.counts]
  rfl

theorem Tandem.Corresponds.untroubled {mark : Nat × Prop} {found other : Match α}
    (corresponds : raise.tandem.Corresponds mark found other)
    (untroubled : Untroubled raise.options.maxErrors mark.1 mark.2 found.recovered) :
    other = found := by
  cases found
  cases other
  obtain rfl : _ = _ := corresponds.stop
  obtain rfl : _ = _ := corresponds.recovered untroubled
  obtain rfl : _ = _ := corresponds.node untroubled
  rfl

/-- A loop whose errors are untroubled goes through the same rounds under the high limit. -/
theorem itemsFrom_untroubled
    (sequence : raise.tandem.Sequence active first limit Shared leadItem trailItem) {fuel : Nat}
    (lower : first ≤ index) (upper : index ≤ limit)
    (together : raise.tandem.Together active (fun count other => other = count)
      (Ahead first limit index Shared) before other)
    (run : itemsFrom raise.tandem.lead leadItem description limit fuel index before =
      .ok found after)
    (untroubled : Untroubled raise.options.maxErrors before.errorCount True found.recovered) :
    ∃ otherAfter, itemsFrom raise.tandem.trail trailItem description limit fuel index other =
      .ok found otherAfter := by
  induction fuel generalizing index before other found with
  | zero => cases run
  | succ fuel induction =>
      have inLead : limit ≤ raise.tandem.lead.stream.lastIndex := sequence.inside
      have sameLimit := limitReached_even together
      have counts : raise.tandem.Counts (before.errorCount, True) before.errorCount
          other.errorCount := ⟨Nat.le_refl _, fun _ => together.counts⟩
      cases itemsFrom_firstRound inLead run with
      | done done => exact ⟨other, itemsFrom_done done⟩
      | full more reached =>
          exact ⟨_, itemsFrom_limit (Nat.not_le_of_lt more) (sameLimit.trans reached)⟩
      | @kept _ _ item rest more below itemRun tail =>
          obtain ⟨otherItem, otherBetween, otherRun, ⟨later, itemUpper⟩, corresponds, next⟩ :=
            sequence.kept lower more together counts itemRun
          obtain rfl : otherItem = item := corresponds.untroubled untroubled.append_left
          have restUntroubled : Untroubled raise.options.maxErrors
              (before.errorCount + otherItem.recovered.length) True rest.recovered :=
            { untroubled.append_right with even := trivial }
          obtain ⟨otherAfter, otherRest⟩ := induction (by omega) itemUpper
            (next.recounted together.noted rfl) tail restUntroubled
          rw [itemsFrom_kept (Nat.not_le_of_lt more) (sameLimit.trans below) otherRun,
            together.counts, otherRest]
          exact ⟨otherAfter, rfl⟩
      | @skipped resume between _ failure rest more below itemRun sync tail =>
          have split : Untroubled raise.options.maxErrors before.errorCount True
              ([itemFailure index description failure between.superseded] ++ rest.recovered) :=
            untroubled
          obtain ⟨otherBetween, otherRun, sameNoted, ⟨later, resumeLe⟩, next⟩ :=
            sequence.skipped lower more together counts itemRun (fun _ =>
              itemFailure_mild (split.append_left.mild _ (List.mem_singleton_self _))) sync
          have restUntroubled : Untroubled raise.options.maxErrors (before.errorCount + 1) True
              rest.recovered := { split.append_right with even := trivial }
          obtain ⟨otherAfter, otherRest⟩ := induction (by omega) resumeLe
            (next.recounted together.noted rfl) tail restUntroubled
          rw [itemsFrom_skipped (Nat.not_le_of_lt more) (sameLimit.trans below) otherRun
            (by rw [sameNoted]) sync, together.counts, otherRest]
          exact ⟨otherAfter, rfl⟩

end Loop

/-- The recovery loops end under either limit, and untroubled they do the same. -/
theorem Raise.loops (raise : Raise) : raise.tandem.LoopsSustain := by
  intro α leadItem trailItem active first limit Shared description fuel (mark : Nat × Prop) before
    other after found sequence enough together run
  obtain ⟨bounded, counts⟩ : before.errorCount ≤ mark.1 ∧
    (mark.2 → other.errorCount = before.errorCount) := together.counts
  have inLead : limit ≤ raise.tandem.lead.stream.lastIndex := sequence.inside
  have inTrail : limit ≤ raise.tandem.trail.stream.lastIndex := sequence.inside
  have loop : LoopConfined raise.stream first limit before
      (itemsFrom raise.tandem.lead leadItem description limit fuel first before) :=
    itemsFrom_confined sequence.leadConfined inLead sequence.bounded (Nat.le_refl _)
      sequence.ordered enough before together.orderly
  have otherLoop : LoopConfined raise.stream first limit other
      (itemsFrom raise.tandem.trail trailItem description limit fuel first other) :=
    itemsFrom_confined sequence.trailConfined inTrail sequence.bounded (Nat.le_refl _)
      sequence.ordered enough other together.otherOrderly
  rw [run] at loop
  cases otherRun : itemsFrom raise.tandem.trail trailItem description limit fuel first other with
  | error fault otherAfter =>
      rw [otherRun] at otherLoop
      exact absurd otherLoop raise.representable.not_excused
  | ok otherFound otherAfter =>
      rw [otherRun] at otherLoop
      obtain ⟨effect, stopEq, -⟩ := loop
      obtain ⟨otherEffect, otherStopEq, -⟩ := otherLoop
      have count := (itemsFrom_rounds inLead run).count
      have otherCount := (itemsFrom_rounds inTrail otherRun).count
      have same : Untroubled raise.options.maxErrors mark.1 mark.2 found.recovered →
          otherFound = found := by
        intro untroubled
        have few := untroubled.few
        obtain ⟨_, again⟩ := itemsFrom_untroubled sequence (Nat.le_refl _) sequence.ordered
          { together with counts := counts untroubled.even } run
          ⟨trivial, untroubled.mild, by omega⟩
        exact (EStateM.Result.ok.inj (otherRun.symm.trans again)).1
      refine ⟨otherFound, otherAfter, rfl, ⟨otherStopEq.trans stopEq.symm, ?_, ?_⟩,
        effect.orderly, otherEffect.orderly, ?_, ?_, ⟨?_, ?_⟩, ?_, ?_, ?_⟩
      · exact fun untroubled => congrArg Match.recovered (same untroubled)
      · exact fun untroubled => congrArg Match.node (same untroubled)
      · intro stratum place member
        obtain ⟨shared, outside⟩ := member.behind
        rw [otherEffect.frame stratum place (by omega), effect.frame stratum place (by omega)]
        exact together.agree stratum place ⟨shared, by omega⟩
      · rw [otherEffect.noted, effect.noted]
        exact together.noted
      · rw [count]
        exact Nat.add_le_add_right bounded _
      · intro untroubled
        have untroubled : Untroubled raise.options.maxErrors mark.1 mark.2 found.recovered :=
          untroubled
        rw [count, otherCount, same untroubled, counts untroubled.even]
      · rw [otherEffect.reported, effect.reported]
        exact together.unreported
      · exact effect.nesting.trans together.nesting
      · exact otherEffect.nesting.trans together.otherNesting

/-- Raising the nesting limit changes nothing unless the limit was felt.  A run that reports
fewer errors than the error limit allows, none of them because of too deep nesting, gives the
same unit and the same errors under every higher nesting limit. -/
theorem nestingLimit_raised {stream : TokenStream} {options : ParserOptions}
    {stack : Option Nat} {high : Nat} (le : options.maxNesting ≤ high)
    (representable : Representable stream) {state after : State} {unit : CompilationUnit}
    (run : parse { stream, options, stack } state = .ok unit after)
    (few : after.reported.length < options.maxErrors)
    (mild : ∀ error ∈ after.reported, error.kind ≠ .nestingTooDeep) :
    ∃ otherAfter,
      parse
          { stream
            options :=
              { options with
                maxNesting := high
                maxNesting_pos := Nat.lt_of_lt_of_le options.maxNesting_pos le }
            stack }
          state = .ok unit otherAfter ∧
        otherAfter.reported = after.reported := by
  let raise : Raise := { stream, options, stack, high, le, representable }
  have leadParse : unitResult raise.tandem.lead (unitItems raise.tandem.lead state) =
      .ok unit after := (parse_run raise.tandem.lead state).symm.trans run
  cases computed : unitItems raise.tandem.lead state with
  | error fault final =>
      rw [computed] at leadParse
      cases leadParse
  | ok found final =>
      rw [computed] at leadParse
      have fromStart : raise.tandem.Counts ((0, True) : Nat × Prop) 0 0 :=
        ⟨Nat.le_refl 0, fun _ => rfl⟩
      obtain ⟨otherFound, otherFinal, trailRun, corresponds⟩ :=
        raise.tandem.unitItems_sustained raise.loops fromStart computed
      have trailParse := parse_run raise.tandem.trail state
      rw [trailRun] at trailParse
      cases leadParse
      have short : found.recovered.length < options.maxErrors := by
        have taken : (found.recovered.take options.maxErrors).length < options.maxErrors := few
        simp only [List.length_take] at taken
        omega
      have whole : found.recovered.take options.maxErrors = found.recovered :=
        List.take_of_length_le (Nat.le_of_lt short)
      have untroubled : Untroubled options.maxErrors 0 True found.recovered := by
        refine ⟨trivial, fun error member => mild error ?_, by omega⟩
        change error ∈ found.recovered.take options.maxErrors
        rwa [whole]
      rw [unitResult, corresponds.untroubled untroubled] at trailParse
      exact ⟨_, trailParse, rfl⟩

/-- A conditional whose first branch is nested deeper than its second branch, which fails. -/
def unevenStream : TokenStream :=
  { tokens := #[
      { kind := .intWord, lexeme := "int", line := 1 },
      { kind := .identifier, lexeme := "f", line := 1 },
      { kind := .leftParen, lexeme := "(", line := 1 },
      { kind := .rightParen, lexeme := ")", line := 1 },
      { kind := .leftBrace, lexeme := "\x7b", line := 1 },
      { kind := .ifWord, lexeme := "if", line := 1 },
      { kind := .leftParen, lexeme := "(", line := 1 },
      { kind := .identifier, lexeme := "a", line := 1 },
      { kind := .rightParen, lexeme := ")", line := 1 },
      { kind := .leftBrace, lexeme := "\x7b", line := 1 },
      { kind := .leftParen, lexeme := "(", line := 1 },
      { kind := .leftParen, lexeme := "(", line := 1 },
      { kind := .identifier, lexeme := "b", line := 1 },
      { kind := .rightParen, lexeme := ")", line := 1 },
      { kind := .rightParen, lexeme := ")", line := 1 },
      { kind := .semicolon, lexeme := ";", line := 1 },
      { kind := .rightBrace, lexeme := "\x7d", line := 1 },
      { kind := .elseWord, lexeme := "else", line := 1 },
      { kind := .rightParen, lexeme := ")", line := 1 },
      { kind := .rightBrace, lexeme := "\x7d", line := 1 },
      { kind := .endOfInput, lexeme := "", line := 1 }]
    terminated := rfl }

/-- The first branch is too deep for the low limit, but it is abandoned with the second one,
whose error is the one reported under either limit. -/
theorem nestingLimit_raised_uneven :
    ∃ unit after otherAfter,
      parse { stream := unevenStream, options := { maxNesting := 4 } } {} = .ok unit after ∧
        after.reported.map Diagnostic.kind = [.expectedToken] ∧
        parse { stream := unevenStream, options := { maxNesting := 9 } } {} =
          .ok unit otherAfter ∧
        otherAfter.reported = after.reported := by
  have reports :
      (answer (parse { stream := unevenStream, options := { maxNesting := 4 } } {})).toOption.map
        (fun found => found.2.map Diagnostic.kind) = some [.expectedToken] := by
    decide +kernel
  have representable : Representable unevenStream := by decide
  cases run : parse { stream := unevenStream, options := { maxNesting := 4 } } {} with
  | error fault after =>
      rw [run] at reports
      cases reports
  | ok unit after =>
      rw [run] at reports
      have kinds : after.reported.map Diagnostic.kind = [.expectedToken] :=
        Option.some.inj reports
      have few : after.reported.length < 100 := by
        rw [← List.length_map Diagnostic.kind, kinds]
        decide
      have mild : ∀ error ∈ after.reported, error.kind ≠ .nestingTooDeep := by
        intro error member
        have listed := List.mem_map_of_mem (f := Diagnostic.kind) member
        rw [kinds, List.mem_singleton] at listed
        rw [listed]
        decide
      obtain ⟨otherAfter, otherRun, same⟩ := @nestingLimit_raised unevenStream { maxNesting := 4 }
        none 9 (by decide) representable {} after unit run few mild
      exact ⟨unit, after, otherAfter, rfl, kinds, otherRun, same⟩

end MiniC.Parser
