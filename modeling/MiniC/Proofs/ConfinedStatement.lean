import MiniC.Parser.Unit
import MiniC.Proofs.ConfinedDeclarator
import MiniC.Proofs.Recovery

/-!
# Declarations, statements and blocks are confined

A statement stays on the level of its start: a block ends at the brace that
closes it, whatever happens inside.  So the recovery loop of a block never
leaves the block, and the loop of a unit never leaves the stream.
-/

namespace MiniC.Parser

/-- A match whose recovered errors stay inside the block around its start. -/
structure SpansKept {α : Type} (stream : TokenStream) (start : Nat) (found : Match α) : Prop
    extends Spans stream start found where
  kept : ∀ failure ∈ found.recovered, Within stream start failure

theorem SpansKept.clean {α : Type} {stream : TokenStream} {start : Nat} {found : Match α}
    (spans : Spans stream start found) (clean : found.recovered = []) :
    SpansKept stream start found :=
  ⟨spans, by simp [clean]⟩

section Declarations

variable {input : Input} {nested : Nested} {declared : Nat → Attempt (Match Declarator)}
  {start middle : Nat}

theorem initialValue_confined (nestedConfined : NestedConfined input nested)
    (reached : Reaches input.stream start middle) :
    Confined input.stream start (initialValue input nested middle)
      fun found => middle ≤ found.2 ∧ Reaches input.stream start found.2 := by
  unfold initialValue
  split
  · rename_i assigns
    have next := reached.next assigns rfl
    refine Confined.bind (nestedConfined.expr .assignment next) fun value spans => ?_
    exact .pure ⟨by have := spans.lt; simp only; omega, next.trans spans.reaches⟩
  · exact .pure ⟨Nat.le_refl _, reached⟩

variable (nestedConfined : NestedConfined input nested)
  (declaredConfined : DeclaratorsConfined input declared)

include nestedConfined declaredConfined

theorem initDeclarators_confined {fuel index : Nat} (reached : Reaches input.stream start index)
    (enough : input.stream.lastIndex < index + fuel) :
    Confined input.stream start (initDeclarators input nested declared fuel index)
      fun found => Reaches input.stream start found.stop := by
  induction fuel generalizing index with
  | zero =>
      have := reached.inside
      omega
  | succ fuel induction =>
      unfold initDeclarators
      refine Confined.bind ((declaredConfined index reached.inside).from_later reached)
        fun first firstSpans => ?_
      have afterFirst := reached.trans firstSpans.reaches
      refine Confined.bind (initialValue_confined nestedConfined afterFirst) fun found ends => ?_
      obtain ⟨value, stop⟩ := found
      have later := firstSpans.lt
      have ordered : first.stop ≤ stop := ends.1
      have afterValue : Reaches input.stream start stop := ends.2
      dsimp only
      split
      · rename_i comma
        refine Confined.bind (induction (afterValue.next comma rfl) (by omega)) fun rest restEnds => ?_
        exact .pure restEnds
      · exact .pure afterValue

theorem declaredItems_confined (reached : Reaches input.stream start middle) :
    Confined input.stream start (declaredItems input nested declared middle)
      fun found => Reaches input.stream start found.stop := by
  unfold declaredItems
  split
  · exact .pure reached
  · exact initDeclarators_confined nestedConfined declaredConfined reached (fuel_enough input _)

theorem plainDeclaration_confined (inside : start ≤ input.stream.lastIndex) :
    Confined input.stream start (plainDeclaration input nested declared start)
      fun found => Spans input.stream start found ∧ found.recovered = [] := by
  refine supervise_confined inside (fun _ spans => spans.1) ?_
  refine Confined.bind (specifiers_confined inside) fun types typesSpans => ?_
  refine Confined.bind ((declaredItems_confined nestedConfined declaredConfined
    (.refl typesSpans.inside)).from_later typesSpans.reaches) fun list ends => ?_
  have afterList := typesSpans.reaches.trans ends
  refine Confined.bind (expect_confined afterList) fun stop semicolon => ?_
  obtain ⟨rfl, semicolon⟩ := semicolon
  have later := typesSpans.lt
  have ordered := ends.le
  exact .pure ⟨.of_stop (by omega) (afterList.next semicolon rfl) rfl, rfl⟩

omit nestedConfined in
theorem definition_confined {bodies : Nat → Attempt (Match Block)}
    (bodiesConfined : ∀ start, start ≤ input.stream.lastIndex →
      Confined input.stream start (bodies start) (SpansKept input.stream start))
    (inside : start ≤ input.stream.lastIndex) :
    Confined input.stream start (definition input declared bodies start)
      (SpansKept input.stream start) := by
  refine supervise_confined inside (fun _ spans => spans.toSpans) ?_
  refine Confined.bind (specifiers_confined inside) fun types typesSpans => ?_
  have afterTypes := typesSpans.reaches
  refine Confined.bind ((declaredConfined _ afterTypes.inside).from_later afterTypes)
    fun first firstSpans => ?_
  have afterFirst := afterTypes.trans firstSpans.reaches
  split
  · refine Confined.bind ((bodiesConfined _ afterFirst.inside).from_later afterFirst)
      fun body bodySpans => ?_
    have typesLater := typesSpans.lt
    have firstLater := firstSpans.lt
    have bodyLater := bodySpans.lt
    have kept : ∀ failure ∈ body.recovered, Within input.stream start failure :=
      fun failure member => (bodySpans.kept failure member).from_inner afterFirst.encloses
    exact .pure ⟨.of_stop (by omega) (afterFirst.trans bodySpans.reaches) rfl, kept⟩
  · exact .throw (.failure_at afterTypes _ _)

end Declarations

theorem declaration_confined {input : Input} {start : Nat} (budget : Nat)
    (inside : start ≤ input.stream.lastIndex) :
    Confined input.stream start (declaration input budget start)
      fun found => Spans input.stream start found ∧ found.recovered = [] :=
  plainDeclaration_confined (expression_confined input budget) (declarator_confined input budget)
    inside

/-- What the recovery loop does to the state between two indices. -/
structure LoopEffect (stream : TokenStream) (start limit : Nat) (before after : State) :
    Prop where
  orderly : Orderly stream after.memo
  frame : ∀ stratum index, index < start ∨ limit < index →
    after.memo.find? stratum index = before.memo.find? stratum index
  noted : after.noted = before.noted
  counted : before.errorCount ≤ after.errorCount
  reported : after.reported = before.reported
  nesting : after.nesting = before.nesting
  met : ∃ added, after.met = added ++ before.met ∧
    ∀ failure ∈ added, ∃ place, start ≤ place ∧ place < limit ∧ Within stream place failure

section Loop

variable {α : Type} {input : Input} {item : Nat → Attempt (Match α)} {description : String}
  {start limit : Nat}

theorem itemFailure_within {index : Nat} {failure : Diagnostic} {noted : List Diagnostic}
    (inside : index ≤ input.stream.lastIndex) (within : Within input.stream index failure)
    (notedWithin : ∀ other ∈ noted, Within input.stream index other) :
    Within input.stream index
      (itemFailure index description failure (deepestNoted noted)) := by
  unfold itemFailure
  apply Within.describeAt inside
  split
  · rename_i other known
    split
    · exact within
    · exact within.deepest (Within.deepestNoted notedWithin other known)
  · exact within

/-- What a confined loop answers: it ends at its limit, and every error recorded in
it comes from one of its items. -/
def LoopConfined (stream : TokenStream) (start limit : Nat) (before : State) :
    EStateM.Result Fault State (Match (List α)) → Prop
  | .ok found after =>
      LoopEffect stream start limit before after ∧ found.stop = limit ∧
        ∀ failure ∈ found.recovered, ∃ place, start ≤ place ∧ place < limit ∧
          Within stream place failure
  | .error fault _ => Excused stream fault

/-- A round that is confined to its item, and then the rest of the loop. -/
theorem LoopConfined.round {stream : TokenStream} {index next : Nat}
    {before after middle : State} {change : Match (List α) → Match (List α)}
    {errors : List Diagnostic} {result : EStateM.Result Fault State (Match (List α))}
    (rest : LoopConfined stream next limit middle result)
    (effect : Effect stream index { before with noted := [] } after)
    (bound : blockEnd stream index ≤ limit) (later : index < next) (more : index < limit)
    (memoEq : middle.memo = after.memo) (notedEq : middle.noted = before.noted)
    (counted : before.errorCount ≤ middle.errorCount)
    (reportedEq : middle.reported = after.reported)
    (nestingEq : middle.nesting = after.nesting) (metEq : middle.met = after.met)
    (stopEq : ∀ rest, (change rest).stop = rest.stop)
    (recoveredEq : ∀ rest, (change rest).recovered = errors ++ rest.recovered)
    (errorsWithin : ∀ failure ∈ errors, Within stream index failure) :
    LoopConfined stream index limit before (mapValue change result) := by
  cases result with
  | error fault state => exact rest
  | ok found state =>
      obtain ⟨loopEffect, foundStop, recorded⟩ := rest
      obtain ⟨late, lateEq, lateWithin⟩ := loopEffect.met
      obtain ⟨early, earlyEq, earlyWithin⟩ := effect.met
      refine ⟨⟨loopEffect.orderly, ?_, loopEffect.noted.trans notedEq,
        Nat.le_trans counted loopEffect.counted, ?_, ?_, late ++ early, ?_, ?_⟩,
        (stopEq found).trans foundStop, ?_⟩
      · intro stratum place outside
        rw [loopEffect.frame stratum place (by omega), memoEq]
        exact effect.frame stratum place (by omega)
      · rw [loopEffect.reported, reportedEq]
        exact effect.reported
      · rw [loopEffect.nesting, nestingEq]
        exact effect.nesting
      · rw [lateEq, metEq, earlyEq, List.append_assoc]
      · intro failure member
        rcases List.mem_append.mp member with there | here
        · obtain ⟨place, lower, upper, within⟩ := lateWithin failure there
          exact ⟨place, by omega, upper, within⟩
        · exact ⟨index, Nat.le_refl _, more, earlyWithin failure here⟩
      · intro failure member
        rw [recoveredEq found] at member
        rcases List.mem_append.mp member with here | there
        · exact ⟨index, Nat.le_refl _, more, errorsWithin failure here⟩
        · obtain ⟨place, lower, upper, within⟩ := recorded failure there
          exact ⟨place, by omega, upper, within⟩

theorem itemsFrom_confined
    (itemConfined : ∀ index, index ≤ input.stream.lastIndex →
      Confined input.stream index (item index) (SpansKept input.stream index))
    (limitInside : limit ≤ input.stream.lastIndex)
    (bounded : ∀ index, start ≤ index → index ≤ limit → blockEnd input.stream index ≤ limit)
    {fuel index : Nat} (lower : start ≤ index) (upper : index ≤ limit)
    (enough : limit < index + fuel) (before : State)
    (orderly : Orderly input.stream before.memo) :
    LoopConfined input.stream index limit before
      (itemsFrom input item description limit fuel index before) := by
  induction fuel generalizing index before with
  | zero => omega
  | succ fuel induction =>
      by_cases done : limit ≤ index
      · rw [itemsFrom_done done]
        have stopEq : index = limit := by omega
        exact ⟨⟨orderly, fun _ _ _ => rfl, rfl, Nat.le_refl _, rfl, rfl, [], rfl, by simp⟩, stopEq,
          by simp⟩
      · by_cases reached : limitReached input before = true
        · rw [itemsFrom_limit done reached]
          exact ⟨⟨orderly, fun _ _ _ => rfl, rfl, Nat.le_refl _, rfl, rfl, [], rfl, by simp⟩, rfl,
            by simp⟩
        · have below : limitReached input before = false := by simpa using reached
          have indexInside : index ≤ input.stream.lastIndex := by omega
          have bound := bounded index lower upper
          have itemRun := itemConfined index indexInside { before with noted := [] } orderly
          cases run : (item index).run { before with noted := [] } with
          | error fault after =>
              rw [run] at itemRun
              rw [itemsFrom_fault done below run]
              exact itemRun
          | ok outcome after =>
              rw [run] at itemRun
              obtain ⟨effect, answers⟩ := itemRun
              cases outcome with
              | ok found =>
                  have spans : SpansKept input.stream index found := answers
                  have foundBound := spans.reaches.le_blockEnd
                  have later := spans.lt
                  rw [itemsFrom_kept done below run]
                  refine LoopConfined.round
                    (induction (by omega) (by omega) (by omega) _ effect.orderly)
                    effect bound later (by omega) rfl rfl (Nat.le_add_right _ _) rfl rfl rfl
                    (fun _ => rfl) (fun _ => rfl) spans.kept
              | error failure =>
                  have recorded : Within input.stream index
                      (itemFailure index description failure after.superseded) :=
                    itemFailure_within indexInside answers (effect.noted_within rfl)
                  obtain ⟨resume, sync, resumeLater, resumeLe, -⟩ :=
                    synchronize_ok (Nat.lt_of_not_le done) limitInside
                  rw [itemsFrom_skipped done below run rfl sync]
                  refine LoopConfined.round
                    (induction (by omega) (by omega) (by omega) _ effect.orderly)
                    effect bound resumeLater (by omega) rfl rfl (Nat.le_add_right _ _) rfl rfl rfl
                    (fun _ => rfl) (fun _ => (List.singleton_append).symm) ?_
                  intro other member
                  rw [List.mem_singleton.mp member]
                  exact recorded

end Loop

/-- Matches of statements from every start inside the stream on. -/
def StatementsConfined (input : Input) (inner : Nat → Attempt (Match Statement)) : Prop :=
  ∀ start, start ≤ input.stream.lastIndex →
    Confined input.stream start (inner start) (SpansKept input.stream start)

/-- Matches of declarations from every start inside the stream on. -/
def DeclarationsConfined (input : Input) (declarations : Nat → Attempt (Match Declaration)) :
    Prop :=
  ∀ start, start ≤ input.stream.lastIndex →
    Confined input.stream start (declarations start)
      fun found => Spans input.stream start found ∧ found.recovered = []

section Statements

variable {input : Input} {nested : Nested} {inner : Nat → Attempt (Match Statement)}
  {declarations : Nat → Attempt (Match Declaration)} {start : Nat}

theorem blockItem_confined (innerConfined : StatementsConfined input inner)
    (declarationsConfined : DeclarationsConfined input declarations)
    (inside : start ≤ input.stream.lastIndex) :
    Confined input.stream start (blockItem inner declarations start)
      (SpansKept input.stream start) := by
  refine firstOf_confined ?_ ?_
  · refine Confined.bind (declarationsConfined start inside) fun found ends => ?_
    exact .pure (.clean ⟨ends.1.lt, ends.1.reaches⟩ ends.2)
  · simp only [List.mem_singleton, forall_eq]
    exact innerConfined start inside

theorem items_steady (innerConfined : StatementsConfined input inner)
    (declarationsConfined : DeclarationsConfined input declarations)
    {description : String} (opens : input.kindAt start = .leftBrace) :
    Steady input.stream start
      (items input (blockItem inner declarations) description (start + 1)
        (matchingBrace input start))
      fun found => found.stop = blockEnd input.stream (start + 1) ∧
        ∀ failure ∈ found.recovered, Within input.stream start failure := by
  have inside : start < input.stream.lastIndex :=
    TokenStream.lt_lastIndex_of_kindAt_eq opens (by decide)
  have limitLower : start + 1 ≤ blockEnd input.stream (start + 1) := le_blockEnd inside
  have limitInside : blockEnd input.stream (start + 1) ≤ input.stream.lastIndex :=
    blockEnd_le inside
  have limitLe : blockEnd input.stream (start + 1) ≤ blockEnd input.stream start := by
    rw [blockEnd_open opens]
    split
    · have later : blockEnd input.stream (start + 1) + 1 ≤
          blockEnd input.stream (blockEnd input.stream (start + 1) + 1) :=
        le_blockEnd (by omega)
      omega
    · exact limitInside
  have bounded : ∀ index, start + 1 ≤ index → index ≤ blockEnd input.stream (start + 1) →
      blockEnd input.stream index ≤ blockEnd input.stream (start + 1) :=
    fun index lower upper => blockEnd_mono lower upper inside
  rw [matchingBrace_eq opens]
  intro before orderly
  have loop : LoopConfined input.stream (start + 1) (blockEnd input.stream (start + 1)) before
      (itemsFrom input (blockItem inner declarations) description
        (blockEnd input.stream (start + 1)) input.fuel (start + 1) before) :=
    itemsFrom_confined (fun index => blockItem_confined innerConfined declarationsConfined)
      limitInside bounded (Nat.le_refl (start + 1)) limitLower
      (Nat.lt_of_le_of_lt limitInside (fuel_enough input (start + 1))) before orderly
  unfold items
  cases run : itemsFrom input (blockItem inner declarations) description
      (blockEnd input.stream (start + 1)) input.fuel (start + 1) before with
  | error fault after =>
      rw [run] at loop
      exact loop
  | ok found after =>
      rw [run] at loop
      obtain ⟨effect, stopEq, recorded⟩ := loop
      have outward : ∀ failure : Diagnostic,
          (∃ place, start + 1 ≤ place ∧ place < blockEnd input.stream (start + 1) ∧
            Within input.stream place failure) → Within input.stream start failure := by
        rintro failure ⟨place, lower, upper, within⟩
        have placeEnd := bounded place lower (by omega)
        exact within.from_inner ⟨by omega, by omega⟩
      obtain ⟨added, addedEq, addedWithin⟩ := effect.met
      refine ⟨⟨effect.orderly, ?_, ⟨[], effect.noted, by simp⟩, effect.counted,
        effect.reported, effect.nesting, added, addedEq, ?_⟩, stopEq, ?_⟩
      · intro stratum index outside
        exact effect.frame stratum index (by omega)
      · exact fun failure member => outward failure (addedWithin failure member)
      · exact fun failure member => outward failure (recorded failure member)

theorem compound_confined (innerConfined : StatementsConfined input inner)
    (declarationsConfined : DeclarationsConfined input declarations)
    (inside : start ≤ input.stream.lastIndex) :
    Confined input.stream start (compound input inner declarations start)
      (SpansKept input.stream start) := by
  refine supervise_confined inside (fun _ spans => spans.toSpans) ?_
  refine Confined.bind (expect_confined (.refl inside)) fun first opens => ?_
  obtain ⟨rfl, opens⟩ := opens
  have before : start < input.stream.lastIndex :=
    TokenStream.lt_lastIndex_of_kindAt_eq opens (by decide)
  refine Confined.bind (.lift (items_steady innerConfined declarationsConfined opens))
    fun list ends => ?_
  obtain ⟨stopEq, recorded⟩ := ends
  have lower : start + 1 ≤ blockEnd input.stream (start + 1) := le_blockEnd before
  have upper : blockEnd input.stream (start + 1) ≤ input.stream.lastIndex := blockEnd_le before
  have outer := blockEnd_open opens
  dsimp only
  split
  · rename_i closes
    rw [stopEq] at closes
    have closed : blockEnd input.stream (start + 1) < input.stream.lastIndex :=
      TokenStream.lt_lastIndex_of_kindAt_eq closes (by decide)
    rw [if_pos closed] at outer
    have reached : Reaches input.stream start (blockEnd input.stream (start + 1) + 1) :=
      ⟨by omega, by omega, outer.symm⟩
    exact .pure ⟨.of_stop (by omega) reached (by rw [stopEq]), recorded⟩
  · rename_i unclosed
    have atEnd : blockEnd input.stream (start + 1) = input.stream.lastIndex := by
      rcases Nat.lt_or_eq_of_le upper with closed | atEnd
      · exact absurd (by rw [stopEq]; exact kindAt_blockEnd before closed) unclosed
      · exact atEnd
    rw [if_neg (by omega)] at outer
    have reached : Reaches input.stream start input.stream.lastIndex :=
      ⟨inside, Nat.le_refl _, by rw [blockEnd_last (Nat.le_refl _), outer]⟩
    refine .pure ⟨.of_stop before reached (by rw [stopEq, atEnd]), ?_⟩
    intro failure member
    rcases List.mem_append.mp member with item | missing
    · exact recorded failure item
    · rw [List.mem_singleton.mp missing, stopEq, atEnd]
      exact .missing_at reached _ []

theorem condition_confined (nestedConfined : NestedConfined input nested)
    (inside : start ≤ input.stream.lastIndex) :
    Confined input.stream start (condition input nested start) (Spans input.stream start) := by
  refine supervise_confined inside (fun _ spans => spans) ?_
  refine Confined.bind (expect_confined (.refl inside)) fun first opens => ?_
  obtain ⟨rfl, opens⟩ := opens
  have next := (Reaches.refl inside).next opens rfl
  refine Confined.bind (nestedConfined.expr .assignment next) fun value valueSpans => ?_
  have afterValue := next.trans valueSpans.reaches
  refine Confined.bind (expect_confined afterValue) fun stop closes => ?_
  obtain ⟨rfl, closes⟩ := closes
  have later := valueSpans.lt
  exact .pure (.of_stop (by omega) (afterValue.next closes rfl) rfl)

theorem SpansKept.kept_from {α : Type} {found : Match α} {middle : Nat}
    (reached : Reaches input.stream start middle) (spans : SpansKept input.stream middle found) :
    ∀ failure ∈ found.recovered, Within input.stream start failure :=
  fun failure member => (spans.kept failure member).from_inner reached.encloses

theorem ifStatement_confined (nestedConfined : NestedConfined input nested)
    (innerConfined : StatementsConfined input inner)
    (inside : start ≤ input.stream.lastIndex) :
    Confined input.stream start (ifStatement input nested inner start)
      (SpansKept input.stream start) := by
  refine supervise_confined inside (fun _ spans => spans.toSpans) ?_
  refine Confined.bind (expect_confined (.refl inside)) fun afterWord word => ?_
  obtain ⟨rfl, word⟩ := word
  have next := (Reaches.refl inside).next word rfl
  refine Confined.bind ((condition_confined nestedConfined next.inside).from_later next)
    fun test testSpans => ?_
  have afterTest := next.trans testSpans.reaches
  refine Confined.bind ((innerConfined test.stop afterTest.inside).from_later afterTest)
    fun thenBranch thenSpans => ?_
  have afterThen := afterTest.trans thenSpans.reaches
  have testLater := testSpans.lt
  have thenLater := thenSpans.lt
  split
  · rename_i alternative
    have elseStart := afterThen.next alternative rfl
    refine Confined.bind ((innerConfined _ elseStart.inside).from_later elseStart)
      fun elseBranch elseSpans => ?_
    have elseLater := elseSpans.lt
    refine .pure ⟨.of_stop (by omega) (elseStart.trans elseSpans.reaches) rfl, ?_⟩
    intro failure member
    rcases List.mem_append.mp member with first | second
    · exact thenSpans.kept_from afterTest failure first
    · exact elseSpans.kept_from elseStart failure second
  · have kept := thenSpans.kept_from afterTest
    exact .pure ⟨.of_stop (by omega) afterThen rfl, kept⟩

theorem whileStatement_confined (nestedConfined : NestedConfined input nested)
    (innerConfined : StatementsConfined input inner)
    (inside : start ≤ input.stream.lastIndex) :
    Confined input.stream start (whileStatement input nested inner start)
      (SpansKept input.stream start) := by
  refine supervise_confined inside (fun _ spans => spans.toSpans) ?_
  refine Confined.bind (expect_confined (.refl inside)) fun afterWord word => ?_
  obtain ⟨rfl, word⟩ := word
  have next := (Reaches.refl inside).next word rfl
  refine Confined.bind ((condition_confined nestedConfined next.inside).from_later next)
    fun test testSpans => ?_
  have afterTest := next.trans testSpans.reaches
  refine Confined.bind ((innerConfined test.stop afterTest.inside).from_later afterTest)
    fun body bodySpans => ?_
  have testLater := testSpans.lt
  have bodyLater := bodySpans.lt
  have kept := bodySpans.kept_from afterTest
  exact .pure ⟨.of_stop (by omega) (afterTest.trans bodySpans.reaches) rfl, kept⟩

theorem returnStatement_confined (nestedConfined : NestedConfined input nested)
    (inside : start ≤ input.stream.lastIndex) :
    Confined input.stream start (returnStatement input nested start)
      (SpansKept input.stream start) := by
  refine supervise_confined inside (fun _ spans => spans.toSpans) ?_
  refine Confined.bind (expect_confined (.refl inside)) fun afterWord word => ?_
  obtain ⟨rfl, word⟩ := word
  have next := (Reaches.refl inside).next word rfl
  split
  · rename_i semicolon
    exact .pure (.clean (.of_stop (by omega) (next.next semicolon rfl) rfl) rfl)
  · refine Confined.bind (nestedConfined.expr .assignment next) fun value valueSpans => ?_
    have afterValue := next.trans valueSpans.reaches
    have later := valueSpans.lt
    split
    · rename_i semicolon
      exact .pure (.clean (.of_stop (by omega) (afterValue.next semicolon rfl) rfl) rfl)
    · refine .pure ⟨.of_stop (by omega) afterValue rfl, ?_⟩
      intro failure member
      rw [List.mem_singleton.mp member]
      exact .missing_at afterValue _ []

theorem wordStatement_confined {word : Kind} {build : Option Span → Statement}
    (inner : isInner word = true) (inside : start ≤ input.stream.lastIndex) :
    Confined input.stream start (wordStatement input word build start)
      (SpansKept input.stream start) := by
  refine supervise_confined inside (fun _ spans => spans.toSpans) ?_
  refine Confined.bind (expect_confined (.refl inside)) fun afterWord found => ?_
  obtain ⟨rfl, found⟩ := found
  have next := (Reaches.refl inside).next found inner
  refine Confined.bind (expect_confined next) fun stop semicolon => ?_
  obtain ⟨rfl, semicolon⟩ := semicolon
  exact .pure (.clean (.of_stop (by omega) (next.next semicolon rfl) rfl) rfl)

theorem emptyStatement_confined (inside : start ≤ input.stream.lastIndex) :
    Confined input.stream start (emptyStatement input start)
      (SpansKept input.stream start) := by
  refine supervise_confined inside (fun _ spans => spans.toSpans) ?_
  refine Confined.bind (expect_confined (.refl inside)) fun stop semicolon => ?_
  obtain ⟨rfl, semicolon⟩ := semicolon
  exact .pure (.clean (.of_stop (by omega) ((Reaches.refl inside).next semicolon rfl) rfl) rfl)

theorem expressionStatement_confined (nestedConfined : NestedConfined input nested)
    (inside : start ≤ input.stream.lastIndex) :
    Confined input.stream start (expressionStatement input nested start)
      fun found => SpansKept input.stream start found ∧
        startsExpression (input.stream.kindAt start) = true := by
  refine supervise_confined inside (fun _ spans => spans.1.toSpans) ?_
  refine Confined.bind (nestedConfined .assignment start inside) fun value valueSpans => ?_
  refine Confined.bind (expect_confined valueSpans.reaches) fun stop semicolon => ?_
  obtain ⟨rfl, semicolon⟩ := semicolon
  have later := valueSpans.lt
  exact .pure ⟨.clean (.of_stop (by omega) (valueSpans.reaches.next semicolon rfl) rfl) rfl,
    valueSpans.starts⟩

theorem tryCatch_confined {α : Type} {attempt : Attempt α} {handle : Diagnostic → Attempt α}
    {Ends : α → Prop} (confined : Confined input.stream start attempt Ends)
    (handled : ∀ failure, Within input.stream start failure →
      Confined input.stream start (handle failure) Ends) :
    Confined input.stream start (tryCatch attempt handle) Ends := by
  refine Steady.bind confined ?_
  intro outcome answers
  cases outcome with
  | ok value => exact Confined.pure answers
  | error failure => exact handled failure answers

theorem anyForm_confined (nestedConfined : NestedConfined input nested)
    (innerConfined : StatementsConfined input inner)
    (declarationsConfined : DeclarationsConfined input declarations)
    (inside : start ≤ input.stream.lastIndex) :
    Confined input.stream start (anyForm input nested inner declarations start)
      (SpansKept input.stream start) := by
  refine firstOf_confined (ifStatement_confined nestedConfined innerConfined inside) ?_
  simp only [List.mem_cons, List.not_mem_nil, or_false, forall_eq_or_imp, forall_eq]
  refine ⟨whileStatement_confined nestedConfined innerConfined inside,
    returnStatement_confined nestedConfined inside,
    wordStatement_confined rfl inside,
    wordStatement_confined rfl inside, ?_,
    emptyStatement_confined inside,
    (expressionStatement_confined nestedConfined inside).mono fun _ ends => ends.1⟩
  refine Confined.bind (compound_confined innerConfined declarationsConfined inside)
    fun block spans => ?_
  exact .pure ⟨⟨spans.lt, spans.reaches⟩, spans.kept⟩

theorem statementBody_confined (nestedConfined : NestedConfined input nested)
    (innerConfined : StatementsConfined input inner)
    (declarationsConfined : DeclarationsConfined input declarations)
    (inside : start ≤ input.stream.lastIndex) :
    Confined input.stream start (statementBody input nested inner declarations start)
      (SpansKept input.stream start) :=
  tryCatch_confined
    (anyForm_confined nestedConfined innerConfined declarationsConfined inside)
    fun _ within => .throw (within.describeAt inside _)

end Statements

theorem statement_confined (input : Input) (budget : Nat) :
    StatementsConfined input (statement input budget) := by
  induction budget with
  | zero =>
      intro start inside
      exact supervise_confined inside (fun _ spans => spans.toSpans)
        (guarded_confined inside (tooDeep_confined inside))
  | succ budget induction =>
      intro start inside
      exact supervise_confined inside (fun _ spans => spans.toSpans)
        (guarded_confined inside
          (statementBody_confined (expression_confined input budget) induction
            (fun _ => declaration_confined budget) inside))

theorem functionDefinition_confined {input : Input} {start : Nat} (budget : Nat)
    (inside : start ≤ input.stream.lastIndex) :
    Confined input.stream start (functionDefinition input budget start)
      (SpansKept input.stream start) :=
  definition_confined (declarator_confined input budget)
    (fun _ inside => compound_confined (statement_confined input budget)
      (fun _ => declaration_confined budget) inside) inside

theorem unitItem_confined {input : Input} {start : Nat} (inside : start ≤ input.stream.lastIndex) :
    Confined input.stream start (unitItem input start) (SpansKept input.stream start) := by
  refine firstOf_confined ?_ ?_
  · refine (declaration_confined _ inside).mono fun found ends => ?_
    exact .clean ends.1 ends.2
  · simp only [List.mem_singleton, forall_eq]
    exact functionDefinition_confined _ inside

end MiniC.Parser
