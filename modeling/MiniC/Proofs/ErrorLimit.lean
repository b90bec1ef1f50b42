import MiniC.Proofs.TandemStatements

/-!
# The error limit only truncates

Under a narrower error limit a run skips what is left of a block once it has recorded
enough errors.  Its recovery loops go through the same rounds as those of the wide run
until then, and afterwards the wide run records only errors that are beyond the limit.  So
a whole unit reports the first errors of the wide run and no others.
-/

namespace MiniC.Parser

/-- Errors of two parts, one after the other, agree as far as a limit reaches. -/
theorem take_append_eq {α : Type} {room : Nat} {first second other otherSecond : List α}
    (firstEq : other.take room = first.take room)
    (secondEq : otherSecond.take (room - first.length) = second.take (room - first.length)) :
    (other ++ otherSecond).take room = (first ++ second).take room := by
  have lengths : min room other.length = min room first.length := by
    have := congrArg List.length firstEq
    simpa using this
  rw [List.take_append, List.take_append, firstEq]
  by_cases full : room ≤ first.length
  · have none : room - first.length = 0 := by omega
    have otherNone : room - other.length = 0 := by omega
    rw [none, otherNone, List.take_zero, List.take_zero]
  · have same : other.length = first.length := by omega
    rw [same, secondEq]

/-- Errors that agree as far as a limit reaches are counted alike up to the limit. -/
theorem min_count_eq {limit count : Nat} {errors other : List Diagnostic}
    (same : other.take (limit - count) = errors.take (limit - count)) :
    min (count + other.length) limit = min (count + errors.length) limit := by
  have lengths : min (limit - count) other.length = min (limit - count) errors.length := by
    have := congrArg List.length same
    simpa using this
  omega

/-- Errors are compared as far as a limit reaches.  A mark is a bound on how many there are
so far. -/
def truncation (limit : Nat) : Tally where
  Mark := Nat
  after bound errors := bound + errors.length
  Counts bound count other := count ≤ bound ∧ min other limit = min count limit
  Agree bound errors other := other.take (limit - bound) = errors.take (limit - bound)
  Exact bound errors := bound + errors.length < limit
  later _ counts := ⟨Nat.le_trans counts.1 (Nat.le_add_right _ _), counts.2⟩
  joined counts := by
    rw [List.length_append, ← Nat.add_assoc]
    exact counts
  itself _ _ := rfl
  append first second := take_append_eq first (by rwa [Nat.sub_sub])
  exact_left few := by
    rw [List.length_append] at few
    omega
  exact_right few := by
    rw [List.length_append] at few
    omega

/-- A stream with settings, and an error limit that is narrower. -/
structure Trim where
  stream : TokenStream
  options : ParserOptions
  stack : Option Nat
  limit : Nat
  positive : 0 < limit
  le : limit ≤ options.maxErrors

/-- The run with the wide limit leads. -/
def Trim.tandem (trim : Trim) : Tandem :=
  { truncation trim.limit with
    stream := trim.stream
    leadOptions := trim.options
    trailOptions := { trim.options with maxErrors := trim.limit, maxErrors_pos := trim.positive }
    stack := trim.stack
    raised := false
    higher := Nat.le_refl _
    level := fun _ => rfl }

/-- The numbers of errors in both runs are the same up to the narrow limit. -/
def Trim.Level (trim : Trim) (count other : Nat) : Prop :=
  min other trim.limit = min count trim.limit

section Loop

variable {α : Type} {trim : Trim} {active first limit index : Nat} {Shared : Nat → Prop}
  {before other after : State} {found : Match (List α)}

/-- The narrow run has reached its limit exactly if it has counted as many errors. -/
theorem limitReached_narrow (empty : other.reported = []) :
    limitReached trim.tandem.trail other = true ↔ trim.limit ≤ other.errorCount := by
  unfold limitReached
  rw [empty]
  simp [Trim.tandem, Tandem.trail]

/-- Below the narrow limit both runs have counted the same errors, and the wide one goes on
as well. -/
theorem below_limits
    (together : trim.tandem.Together active trim.Level Shared before other)
    (below : limitReached trim.tandem.trail other = false) :
    other.errorCount = before.errorCount ∧ limitReached trim.tandem.lead before = false := by
  have level : min other.errorCount trim.limit = min before.errorCount trim.limit :=
    together.counts
  have few : ¬ trim.limit ≤ other.errorCount := fun full =>
    Bool.eq_false_iff.mp below ((limitReached_narrow together.unreported.2).mpr full)
  have le := trim.le
  refine ⟨by omega, ?_⟩
  unfold limitReached
  rw [together.unreported.1]
  simp [Trim.tandem, Tandem.lead]
  omega

theorem skips_rest {event : Event}
    (loop : LoopConfined trim.stream index limit before (.ok found after))
    (lower : first ≤ index)
    (together :
      trim.tandem.Together active trim.Level (Ahead first limit index Shared) before other)
    (full : trim.limit ≤ other.errorCount) :
    trim.tandem.Corresponds before.errorCount found { node := [], stop := limit } ∧
      trim.tandem.Together active trim.Level (Ahead first limit limit Shared) after
        { other with trace := other.trace.push event } := by
  obtain ⟨effect, stopEq, -⟩ := loop
  have grown := effect.counted
  have level : min other.errorCount trim.limit = min before.errorCount trim.limit :=
    together.counts
  refine ⟨⟨stopEq.symm, ?_, fun few => ?_⟩, effect.orderly, together.otherOrderly, ?_, ?_, ?_,
    ⟨effect.reported.trans together.unreported.1, together.unreported.2⟩,
    effect.nesting.trans together.nesting, together.otherNesting⟩
  · have none : trim.limit - before.errorCount = 0 := by omega
    change List.take (trim.limit - before.errorCount) _ = List.take (trim.limit - _) _
    rw [none, List.take_zero, List.take_zero]
  · have few : before.errorCount + found.recovered.length < trim.limit := few
    omega
  · intro stratum place member
    obtain ⟨shared, outside⟩ := member.behind
    rw [effect.frame stratum place (by omega)]
    exact together.agree stratum place ⟨shared, by omega⟩
  · exact together.noted.trans effect.noted.symm
  · change min other.errorCount trim.limit = min after.errorCount trim.limit
    omega

/-- The loop of the narrow run goes through the rounds of the wide one until its limit is
reached, and skips the rest. -/
theorem itemsFrom_trims {leadItem trailItem : Nat → Attempt (Match α)} {description : String}
    (sequence : trim.tandem.Sequence active first limit Shared leadItem trailItem) {fuel : Nat}
    (lower : first ≤ index) (upper : index ≤ limit) (enough : limit < index + fuel)
    (together :
      trim.tandem.Together active trim.Level (Ahead first limit index Shared) before other)
    (run : itemsFrom trim.tandem.lead leadItem description limit fuel index before =
      .ok found after) :
    ∃ otherFound otherAfter,
      itemsFrom trim.tandem.trail trailItem description limit fuel index other =
        .ok otherFound otherAfter ∧
      trim.tandem.Corresponds before.errorCount found otherFound ∧
      trim.tandem.Together active trim.Level (Ahead first limit limit Shared) after otherAfter := by
  induction fuel generalizing index before other found with
  | zero => omega
  | succ fuel induction =>
      have inLead : limit ≤ trim.tandem.lead.stream.lastIndex := sequence.inside
      by_cases done : limit ≤ index
      · obtain rfl : index = limit := Nat.le_antisymm upper done
        rw [itemsFrom_done done] at run
        cases run
        exact ⟨_, other, itemsFrom_done done, .refl _, together⟩
      cases reached : limitReached trim.tandem.trail other with
      | true =>
          have loop : LoopConfined trim.stream index limit before
              (itemsFrom trim.tandem.lead leadItem description limit (fuel + 1) index before) :=
            itemsFrom_confined sequence.leadConfined inLead sequence.bounded lower upper enough
              before together.orderly
          rw [run] at loop
          obtain ⟨corresponds, ended⟩ := skips_rest loop lower together
            ((limitReached_narrow together.unreported.2).mp reached)
          exact ⟨_, _, itemsFrom_limit done reached, corresponds, ended⟩
      | false =>
          obtain ⟨sameCount, leadBelow⟩ := below_limits together reached
          have counts : trim.tandem.Counts before.errorCount before.errorCount other.errorCount :=
            ⟨Nat.le_refl _, together.counts⟩
          cases itemsFrom_firstRound inLead run with
          | done impossible => exact absurd impossible done
          | full _ impossible => exact nomatch leadBelow.symm.trans impossible
          | @kept _ _ item _ more _ itemRun tail =>
              obtain ⟨otherItem, otherBetween, otherRun, ⟨later, itemUpper⟩, corresponds, next⟩ :=
                sequence.kept lower more together counts itemRun
              have level : trim.Level (before.errorCount + item.recovered.length)
                  (other.errorCount + otherItem.recovered.length) := by
                rw [sameCount]
                exact min_count_eq corresponds.recovered
              obtain ⟨otherRest, otherAfter, restRun, rest, ended⟩ :=
                induction (by omega) itemUpper (by omega) (next.recounted together.noted level) tail
              refine ⟨_, otherAfter, ?_, corresponds.keepItem rest, ended⟩
              rw [itemsFrom_kept done reached otherRun, corresponds.stop, restRun]
              rfl
          | skipped more _ itemRun sync tail =>
              obtain ⟨otherBetween, otherRun, sameNoted, ⟨later, resumeLe⟩, next⟩ :=
                sequence.skipped lower more together counts itemRun (nofun) sync
              have level : trim.Level (before.errorCount + 1) (other.errorCount + 1) := by
                rw [sameCount]
                rfl
              obtain ⟨otherRest, otherAfter, restRun, rest, ended⟩ :=
                induction (by omega) resumeLe (by omega) (next.recounted together.noted level) tail
              refine ⟨_, otherAfter, ?_, rest.skipItem, ended⟩
              rw [itemsFrom_skipped done reached otherRun (by rw [sameNoted]) sync, restRun]
              rfl

end Loop

theorem Trim.loops (trim : Trim) : trim.tandem.LoopsSustain := by
  intro α leadItem trailItem active first limit Shared description fuel (mark : Nat) before other
    after found sequence enough together run
  obtain ⟨bounded, level⟩ := together.counts
  have inLead : limit ≤ trim.tandem.lead.stream.lastIndex := sequence.inside
  have count := (itemsFrom_rounds inLead run).count
  obtain ⟨otherFound, otherAfter, otherRun, ⟨stop, recovered, node⟩, ended⟩ :=
    itemsFrom_trims sequence (Nat.le_refl _) sequence.ordered enough
      (together.mono (fun _ => id) fun _ _ counts => counts.2) run
  have shorter : trim.limit - mark ≤ trim.limit - before.errorCount := Nat.sub_le_sub_left bounded _
  refine ⟨otherFound, otherAfter, otherRun, ⟨stop, ?_, fun few => node ?_⟩,
    { ended with counts := ⟨?_, ended.counts⟩ }⟩
  · have same := congrArg (List.take (trim.limit - mark)) recovered
    rwa [List.take_take, List.take_take, Nat.min_eq_left shorter] at same
  · exact Nat.lt_of_le_of_lt (Nat.add_le_add_right bounded _) few
  · rw [count]
    exact Nat.add_le_add_right bounded _

/-- A smaller error limit only truncates: whenever a run ends, the run with a smaller
limit ends as well, and it reports the first errors of that run, as many as the smaller
limit allows. -/
theorem errorLimit_truncates {stream : TokenStream} {options : ParserOptions}
    {stack : Option Nat} {limit : Nat} (positive : 0 < limit) (le : limit ≤ options.maxErrors)
    {state after : State} {unit : CompilationUnit}
    (run : parse { stream, options, stack } state = .ok unit after) :
    ∃ otherUnit otherAfter,
      parse
          { stream
            options := { options with maxErrors := limit, maxErrors_pos := positive }
            stack }
          state = .ok otherUnit otherAfter ∧
        otherAfter.reported = after.reported.take limit := by
  let trim : Trim := { stream, options, stack, limit, positive, le }
  have leadParse :
      unitResult trim.tandem.lead (unitItems trim.tandem.lead state) = .ok unit after :=
    (parse_run trim.tandem.lead state).symm.trans run
  cases leadRun : unitItems trim.tandem.lead state with
  | error fault final =>
      rw [leadRun] at leadParse
      cases leadParse
  | ok found final =>
      rw [leadRun] at leadParse
      have fromStart : trim.tandem.Counts (0 : Nat) 0 0 := ⟨Nat.le_refl 0, rfl⟩
      obtain ⟨otherFound, otherFinal, trailRun, corresponds⟩ :=
        trim.tandem.unitItems_sustained trim.loops fromStart leadRun
      have trailParse := parse_run trim.tandem.trail state
      rw [trailRun] at trailParse
      cases leadParse
      refine ⟨_, _, trailParse, ?_⟩
      have same : otherFound.recovered.take limit = found.recovered.take limit :=
        corresponds.recovered
      change otherFound.recovered.take limit =
        (found.recovered.take options.maxErrors).take limit
      rw [same, List.take_take, Nat.min_eq_left le]

/-- A function with an error in both branches of a conditional and one after it. -/
def scatteredStream : TokenStream :=
  { tokens := #[
      { kind := .intWord, lexeme := "int", line := 1 },
      { kind := .identifier, lexeme := "f", line := 1 },
      { kind := .leftParen, lexeme := "(", line := 1 },
      { kind := .rightParen, lexeme := ")", line := 1 },
      { kind := .leftBrace, lexeme := "\x7b", line := 1 },
      { kind := .ifWord, lexeme := "if", line := 1 },
      { kind := .leftParen, lexeme := "(", line := 1 },
      { kind := .identifier, lexeme := "a", line := 1 },
      { kind := .rightParen, lexeme := ")", line := 1 },
      { kind := .leftBrace, lexeme := "\x7b", line := 1 },
      { kind := .returnWord, lexeme := "return", line := 1 },
      { kind := .identifier, lexeme := "b", line := 1 },
      { kind := .rightBrace, lexeme := "\x7d", line := 1 },
      { kind := .elseWord, lexeme := "else", line := 1 },
      { kind := .leftBrace, lexeme := "\x7b", line := 1 },
      { kind := .identifier, lexeme := "c", line := 1 },
      { kind := .identifier, lexeme := "d", line := 1 },
      { kind := .semicolon, lexeme := ";", line := 1 },
      { kind := .rightBrace, lexeme := "\x7d", line := 1 },
      { kind := .returnWord, lexeme := "return", line := 1 },
      { kind := .identifier, lexeme := "e", line := 1 },
      { kind := .rightBrace, lexeme := "\x7d", line := 1 },
      { kind := .endOfInput, lexeme := "", line := 1 }]
    terminated := rfl }

theorem errorLimit_truncates_scattered :
    ∃ unit after otherUnit otherAfter,
      parse { stream := scatteredStream, options := {} } {} = .ok unit after ∧
        after.reported.length = 3 ∧
        parse { stream := scatteredStream, options := { maxErrors := 2 } } {} =
          .ok otherUnit otherAfter ∧
        otherAfter.reported = after.reported.take 2 := by
  have reports : (answer (parse { stream := scatteredStream, options := {} } {})).toOption.map
      (fun unit => unit.2.length) = some 3 := by
    decide +kernel
  cases run : parse { stream := scatteredStream, options := {} } {} with
  | error fault after =>
      rw [run] at reports
      cases reports
  | ok unit after =>
      rw [run] at reports
      obtain ⟨otherUnit, otherAfter, otherRun, truncated⟩ :=
        errorLimit_truncates (by decide : 0 < 2) (by decide) run
      exact ⟨unit, after, otherUnit, otherAfter, rfl, Option.some.inj reports, otherRun, truncated⟩

end MiniC.Parser
