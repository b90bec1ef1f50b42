import MiniC.Proofs.Layout
import MiniC.Proofs.Supervision

/-!
# How the errors of a match came about

The errors that a match carries lie between its start and its end.  They are
recorded one after the other: what follows a match or a failed item starts where
it ended.  After an item that failed, the recovery loop goes on no earlier than
where the error that it recorded was noticed, be that the failure of the item or
one that an alternative had lost with.  Only a brace that is missing at the end of
input is recorded after errors that may refer to the same place.
-/

namespace MiniC.Parser

/-- The error of a block that is open at the end of input. -/
def unclosedBlock (stream : TokenStream) : Diagnostic :=
  .missing stream.lastIndex (.kind .rightBrace)

/-- The history of the errors between two indices: none, a single one, errors of one part
and then of the next, or those of a block that is open at the end of input. -/
inductive Chronicle (stream : TokenStream) : (start stop : Nat) → List Diagnostic → Prop
  | quiet {start stop : Nat} (ordered : start ≤ stop) : Chronicle stream start stop []
  | noticed {start stop : Nat} {error : Diagnostic}
      (position_ge : (start : Int) ≤ error.position)
      (position_le : error.position ≤ error.depth) (depth_le : error.depth ≤ stop) :
      Chronicle stream start stop [error]
  | append {start middle stop : Nat} {errors more : List Diagnostic}
      (first : Chronicle stream start middle errors) (inside : middle < stream.lastIndex)
      (second : Chronicle stream middle stop more) :
      Chronicle stream start stop (errors ++ more)
  | unclosed {start : Nat} {errors : List Diagnostic} (opened : start < stream.lastIndex)
      (inner : Chronicle stream start stream.lastIndex errors) :
      Chronicle stream start stream.lastIndex (errors ++ [unclosedBlock stream])

namespace Chronicle

variable {stream : TokenStream} {start middle stop : Nat} {errors : List Diagnostic}

theorem le (chronicle : Chronicle stream start stop errors) : start ≤ stop := by
  induction chronicle with
  | quiet ordered => exact ordered
  | noticed position_ge position_le depth_le => omega
  | append _ _ _ first second => exact Nat.le_trans first second
  | unclosed opened => exact Nat.le_of_lt opened

theorem from_earlier (chronicle : Chronicle stream middle stop errors) (ordered : start ≤ middle) :
    Chronicle stream start stop errors := by
  induction chronicle with
  | quiet further => exact .quiet (Nat.le_trans ordered further)
  | noticed position_ge position_le depth_le =>
      exact .noticed (by omega) position_le depth_le
  | append _ inside second firstEarlier _ => exact (firstEarlier ordered).append inside second
  | unclosed opened _ induction =>
      exact .unclosed (Nat.lt_of_le_of_lt ordered opened) (induction ordered)

theorem up_to (chronicle : Chronicle stream start middle errors)
    (inside : middle < stream.lastIndex) (ordered : middle ≤ stop) :
    Chronicle stream start stop errors := by
  have extended := chronicle.append inside (.quiet ordered)
  rwa [List.append_nil] at extended

end Chronicle

/-- A match that stays inside the block around its start, with the history of its errors. -/
structure SpansOrdered {α : Type} (stream : TokenStream) (start : Nat) (found : Match α) : Prop
    extends SpansKept stream start found where
  chronicle : Chronicle stream start found.stop found.recovered

section Combinators

variable {α : Type} {stream : TokenStream} {input : Input} {start : Nat}
  {rule : Attempt (Match α)}

theorem SpansOrdered.clean {found : Match α} (spans : Spans stream start found)
    (clean : found.recovered = []) : SpansOrdered stream start found :=
  ⟨⟨spans, by simp [clean]⟩, clean ▸ .quiet (Nat.le_of_lt spans.lt)⟩

theorem Confined.ordered_of_clean
    (confined : Confined stream start rule (SpansKept stream start))
    (yields : Yields rule fun found => found.recovered = []) :
    Confined stream start rule (SpansOrdered stream start) :=
  (confined.and_yields yields).mono fun _ ends => .clean ends.1.toSpans ends.2

theorem supervise_ordered
    (confined : Confined input.stream start (supervise input start rule)
      (SpansKept input.stream start))
    (steps : Confined input.stream start rule
      fun found => Chronicle input.stream start found.stop found.recovered) :
    Confined input.stream start (supervise input start rule)
      (SpansOrdered input.stream start) := by
  intro before orderly
  have alone := confined before orderly
  cases run : (supervise input start rule).run before with
  | error fault after =>
      rw [run] at alone
      exact alone
  | ok outcome after =>
      rw [run] at alone
      obtain ⟨effect, answers⟩ := alone
      cases outcome with
      | error failure => exact ⟨effect, answers⟩
      | ok found =>
          obtain ⟨between, ran, -⟩ := supervise_ok run
          obtain ⟨-, chronicle⟩ := steps.ran ran orderly
          exact ⟨effect, answers, chronicle⟩

end Combinators

section Loop

variable {α : Type} {input : Input} {item : Nat → Attempt (Match α)} {description : String}
  {first limit : Nat}

/-- At its limit a loop records nothing more. -/
theorem Rounds.recovered_at_limit {index : Nat} {before after : State} {found : Match (List α)}
    (rounds : Rounds input item description limit index before found after)
    (done : limit ≤ index) : found.recovered = [] := by
  cases rounds with
  | done => rfl
  | full more => omega
  | kept more => omega
  | skipped more => omega

theorem Rounds.chronicle_append {index : Nat} {before after : State} {found : Match (List α)}
    {start : Nat} {errors : List Diagnostic}
    (tail : Rounds input item description limit index before found after)
    (upper : index ≤ limit) (limitInside : limit ≤ input.stream.lastIndex)
    (round : Chronicle input.stream start index errors)
    (rest : Chronicle input.stream index limit found.recovered) :
    Chronicle input.stream start limit (errors ++ found.recovered) := by
  rcases Nat.lt_or_eq_of_le (Nat.le_trans upper limitInside) with inside | atEnd
  · exact round.append inside rest
  · -- at the end of input the loop is done, so the errors of the round are the last ones
    have same : index = limit := by omega
    rw [tail.recovered_at_limit (Nat.le_of_eq same.symm), List.append_nil, ← same]
    exact round

/-- The rounds of a loop leave a history behind, from the index of the first round to the
limit. -/
theorem Rounds.chronicle
    (confined : ∀ index, index ≤ input.stream.lastIndex →
      Confined input.stream index (item index) (SpansOrdered input.stream index))
    (limitInside : limit ≤ input.stream.lastIndex)
    (bounded : ∀ index, first ≤ index → index ≤ limit → blockEnd input.stream index ≤ limit)
    {index : Nat} {before after : State} {found : Match (List α)}
    (rounds : Rounds input item description limit index before found after)
    (lower : first ≤ index) (upper : index ≤ limit) (orderly : Orderly input.stream before.memo) :
    Chronicle input.stream index limit found.recovered := by
  induction rounds with
  | done => exact .quiet upper
  | full => exact .quiet upper
  | @kept index state between last found rest more below run tail induction =>
      obtain ⟨effect, spans⟩ := (confined index (by omega)).ran run orderly
      have ahead : index < found.stop := Spans.lt spans.toSpans
      have bound := bounded index lower upper
      have reached := spans.reaches.le_blockEnd
      exact tail.chronicle_append (by omega) limitInside spans.chronicle
        (induction (by omega) (by omega) effect.orderly)
  | @skipped index resume state between last failure rest more below run ahead inside beyond tail
      induction =>
      obtain ⟨effect, answered⟩ := (confined index (by omega)).ran run orderly
      have recorded : Within input.stream index
          (itemFailure index description failure between.superseded) :=
        itemFailure_within (by omega) answered (effect.noted_within rfl)
      have bound := bounded index lower upper
      have deep := recorded.depth_le
      -- the limit cuts the resumption off only where the error lies before it anyway
      have resumed : (itemFailure index description failure between.superseded).depth ≤ resume := by
        omega
      exact tail.chronicle_append inside limitInside
        (.noticed (itemFailure_position answered (effect.noted_within rfl)) recorded.position_le resumed)
        (induction (by omega) inside effect.orderly)

end Loop

/-- Statements with a history of their errors, from every start inside the stream on. -/
def StatementsOrdered (input : Input) (inner : Nat → Attempt (Match Statement)) : Prop :=
  ∀ start, start ≤ input.stream.lastIndex →
    Confined input.stream start (inner start) (SpansOrdered input.stream start)

theorem StatementsOrdered.confined {input : Input} {inner : Nat → Attempt (Match Statement)}
    (ordered : StatementsOrdered input inner) : StatementsConfined input inner :=
  fun start inside => (ordered start inside).mono fun _ spans => spans.toSpansKept

section Statements

variable {input : Input} {nested : Nested} {inner : Nat → Attempt (Match Statement)} {start : Nat}

theorem declaration_ordered (budget : Nat) (inside : start ≤ input.stream.lastIndex) :
    Confined input.stream start (declaration input budget start)
      (SpansOrdered input.stream start) := by
  refine (declaration_confined budget inside).mono ?_
  rintro found ⟨spans, clean⟩
  exact .clean spans clean

theorem blockItem_ordered {budget : Nat} (ordered : StatementsOrdered input inner)
    (inside : start ≤ input.stream.lastIndex) :
    Confined input.stream start (blockItem inner (declaration input budget) start)
      (SpansOrdered input.stream start) := by
  refine firstOf_confined ?_ ?_
  · refine Confined.bind (declaration_ordered budget inside) fun found spans => ?_
    exact .pure ⟨⟨⟨spans.lt, spans.reaches⟩, spans.kept⟩, spans.chronicle⟩
  · simp only [List.mem_singleton, forall_eq]
    exact ordered start inside

theorem items_chronicle {budget : Nat} (ordered : StatementsOrdered input inner)
    (opens : input.kindAt start = .leftBrace) :
    Steady input.stream start
      (items input (blockItem inner (declaration input budget)) "declaration or statement"
        (start + 1) (matchingBrace input start))
      fun list => list.stop ≤ input.stream.lastIndex ∧
        (list.stop < input.stream.lastIndex → input.kindAt list.stop = .rightBrace) ∧
        Chronicle input.stream (start + 1) list.stop list.recovered := by
  have before : start < input.stream.lastIndex :=
    TokenStream.lt_lastIndex_of_kindAt_eq opens (by decide)
  have steady : Steady input.stream start
      (items input (blockItem inner (declaration input budget)) "declaration or statement"
        (start + 1) (matchingBrace input start)) _ :=
    items_steady ordered.confined (fun _ => declaration_confined budget) opens
  intro state orderly
  have alone := steady state orderly
  cases run : items input (blockItem inner (declaration input budget)) "declaration or statement"
      (start + 1) (matchingBrace input start) state with
  | error fault after =>
      rw [run] at alone
      exact alone
  | ok list after =>
      rw [run] at alone
      obtain ⟨effect, stopEq, -⟩ := alone
      rw [matchingBrace_eq opens] at run
      have rounds := itemsFrom_rounds (blockEnd_le before) run
      have chronicle := rounds.chronicle (fun _ => blockItem_ordered ordered)
        (blockEnd_le before) (fun _ lower upper => blockEnd_mono lower upper before)
        (Nat.le_refl _) (le_blockEnd before) orderly
      rw [← stopEq] at chronicle
      refine ⟨effect, by rw [stopEq]; exact blockEnd_le before, ?_, chronicle⟩
      intro further
      rw [stopEq] at further ⊢
      exact kindAt_blockEnd before further

theorem compound_ordered {budget : Nat} (ordered : StatementsOrdered input inner)
    (inside : start ≤ input.stream.lastIndex) :
    Confined input.stream start (compound input inner (declaration input budget) start)
      (SpansOrdered input.stream start) := by
  apply supervise_ordered
  · exact compound_confined ordered.confined (fun _ => declaration_confined budget) inside
  refine Confined.bind (expect_confined (.refl inside)) fun first opens => ?_
  obtain ⟨rfl, opens⟩ := opens
  refine Confined.bind (.lift (items_chronicle ordered opens)) fun list ends => ?_
  obtain ⟨listInside, closed, chronicle⟩ := ends
  have before : start < input.stream.lastIndex :=
    TokenStream.lt_lastIndex_of_kindAt_eq opens (by decide)
  have whole := chronicle.from_earlier (Nat.le_succ start)
  dsimp only
  split
  · rename_i closes
    have further : list.stop < input.stream.lastIndex :=
      TokenStream.lt_lastIndex_of_kindAt_eq closes (by decide)
    exact .pure (whole.up_to further (Nat.le_succ _))
  · rename_i unclosed
    have atEnd : list.stop = input.stream.lastIndex := by
      rcases Nat.lt_or_eq_of_le listInside with further | atEnd
      · exact absurd (closed further) unclosed
      · exact atEnd
    rw [atEnd] at whole ⊢
    exact .pure (.unclosed before whole)

theorem ifStatement_ordered (nestedConfined : NestedConfined input nested)
    (ordered : StatementsOrdered input inner) (inside : start ≤ input.stream.lastIndex) :
    Confined input.stream start (ifStatement input nested inner start)
      (SpansOrdered input.stream start) := by
  apply supervise_ordered
  · exact ifStatement_confined nestedConfined ordered.confined inside
  refine Confined.bind (expect_confined (.refl inside)) fun afterWord word => ?_
  obtain ⟨rfl, word⟩ := word
  have next := (Reaches.refl inside).next word rfl
  refine Confined.bind ((condition_confined nestedConfined next.inside).from_later next)
    fun test testSpans => ?_
  have afterTest := next.trans testSpans.reaches
  refine Confined.bind ((ordered test.stop afterTest.inside).from_later afterTest)
    fun thenBranch thenSpans => ?_
  have afterThen := afterTest.trans thenSpans.reaches
  have thenChronicle := thenSpans.chronicle.from_earlier afterTest.le
  split
  · rename_i alternative
    have elseStart := afterThen.next alternative rfl
    refine Confined.bind ((ordered _ elseStart.inside).from_later elseStart)
      fun elseBranch elseSpans => ?_
    exact .pure (thenChronicle.append elseStart.inside
      (elseSpans.chronicle.from_earlier (Nat.le_succ _)))
  · exact .pure thenChronicle

theorem whileStatement_ordered (nestedConfined : NestedConfined input nested)
    (ordered : StatementsOrdered input inner) (inside : start ≤ input.stream.lastIndex) :
    Confined input.stream start (whileStatement input nested inner start)
      (SpansOrdered input.stream start) := by
  apply supervise_ordered
  · exact whileStatement_confined nestedConfined ordered.confined inside
  refine Confined.bind (expect_confined (.refl inside)) fun afterWord word => ?_
  obtain ⟨rfl, word⟩ := word
  have next := (Reaches.refl inside).next word rfl
  refine Confined.bind ((condition_confined nestedConfined next.inside).from_later next)
    fun test testSpans => ?_
  have afterTest := next.trans testSpans.reaches
  refine Confined.bind ((ordered test.stop afterTest.inside).from_later afterTest)
    fun body bodySpans => ?_
  exact .pure (bodySpans.chronicle.from_earlier afterTest.le)

/-- A semicolon that is missing is reported at the last token of the value. -/
theorem returnStatement_ordered (nestedConfined : NestedConfined input nested)
    (inside : start ≤ input.stream.lastIndex) :
    Confined input.stream start (returnStatement input nested start)
      (SpansOrdered input.stream start) := by
  apply supervise_ordered
  · exact returnStatement_confined nestedConfined inside
  refine Confined.bind (expect_confined (.refl inside)) fun afterWord word => ?_
  obtain ⟨rfl, word⟩ := word
  have next := (Reaches.refl inside).next word rfl
  split
  · exact .pure (.quiet (by simp only; omega))
  · refine Confined.bind (nestedConfined.expr .assignment next) fun value valueSpans => ?_
    have later := valueSpans.lt
    split
    · exact .pure (.quiet (by simp only; omega))
    · have behind : 0 < value.stop := by omega
      have placed : (Diagnostic.missing value.stop (.kind .semicolon)).position =
          value.stop - 1 := by
        simp [Diagnostic.missing, Kind.isReportedAfter, behind]
      have noticed : (Diagnostic.missing value.stop (.kind .semicolon)).depth = value.stop := rfl
      exact .pure (.noticed (by rw [placed]; omega) (by rw [placed, noticed]; omega)
        (Int.le_of_eq noticed))

theorem wordStatement_ordered {word : Kind} {build : Option Span → Statement}
    (simple : isInner word = true) (inside : start ≤ input.stream.lastIndex) :
    Confined input.stream start (wordStatement input word build start)
      (SpansOrdered input.stream start) :=
  (wordStatement_confined simple inside).ordered_of_clean
    (.supervise (.andThen fun _ => .andThen fun _ => .pure rfl))

theorem emptyStatement_ordered (inside : start ≤ input.stream.lastIndex) :
    Confined input.stream start (emptyStatement input start) (SpansOrdered input.stream start) :=
  (emptyStatement_confined inside).ordered_of_clean (.supervise (.andThen fun _ => .pure rfl))

theorem expressionStatement_ordered (nestedConfined : NestedConfined input nested)
    (inside : start ≤ input.stream.lastIndex) :
    Confined input.stream start (expressionStatement input nested start)
      (SpansOrdered input.stream start) :=
  ((expressionStatement_confined nestedConfined inside).mono fun _ ends => ends.1).ordered_of_clean
    (.supervise (.andThen fun _ => .andThen fun _ => .pure rfl))

theorem anyForm_ordered {budget : Nat} (nestedConfined : NestedConfined input nested)
    (ordered : StatementsOrdered input inner) (inside : start ≤ input.stream.lastIndex) :
    Confined input.stream start (anyForm input nested inner (declaration input budget) start)
      (SpansOrdered input.stream start) := by
  refine firstOf_confined (ifStatement_ordered nestedConfined ordered inside) ?_
  simp only [List.mem_cons, List.not_mem_nil, or_false, forall_eq_or_imp, forall_eq]
  refine ⟨whileStatement_ordered nestedConfined ordered inside,
    returnStatement_ordered nestedConfined inside, wordStatement_ordered rfl inside,
    wordStatement_ordered rfl inside, ?_, emptyStatement_ordered inside,
    expressionStatement_ordered nestedConfined inside⟩
  refine Confined.bind (compound_ordered ordered inside) fun block spans => ?_
  exact .pure ⟨⟨⟨spans.lt, spans.reaches⟩, spans.kept⟩, spans.chronicle⟩

end Statements

theorem statement_ordered (input : Input) (budget : Nat) :
    StatementsOrdered input (statement input budget) := by
  induction budget with
  | zero =>
      intro start inside
      exact supervise_confined inside (fun _ spans => spans.toSpans)
        (guarded_confined inside (tooDeep_confined inside))
  | succ budget induction =>
      intro start inside
      refine supervise_confined inside (fun _ spans => spans.toSpans) (guarded_confined inside ?_)
      refine tryCatch_confined (anyForm_ordered (expression_confined input budget) induction inside)
        fun failure within => ?_
      exact .throw (within.describeAt inside _)

section Unit

variable {input : Input} {start : Nat}

theorem functionDefinition_ordered (budget : Nat) (inside : start ≤ input.stream.lastIndex) :
    Confined input.stream start (functionDefinition input budget start)
      (SpansOrdered input.stream start) := by
  apply supervise_ordered
  · exact functionDefinition_confined budget inside
  refine Confined.bind (specifiers_confined inside) fun types typesSpans => ?_
  have afterTypes := typesSpans.reaches
  refine Confined.bind ((declarator_confined input budget _ afterTypes.inside).from_later afterTypes)
    fun declared declaredSpans => ?_
  have afterDeclared := afterTypes.trans declaredSpans.reaches
  split
  · refine Confined.bind ((compound_ordered (statement_ordered input budget)
      afterDeclared.inside).from_later afterDeclared) fun body bodySpans => ?_
    exact .pure (bodySpans.chronicle.from_earlier afterDeclared.le)
  · exact .throw (.failure_at afterTypes _ _)

theorem unitItem_ordered (inside : start ≤ input.stream.lastIndex) :
    Confined input.stream start (unitItem input start) (SpansOrdered input.stream start) := by
  refine firstOf_confined (declaration_ordered _ inside) ?_
  simp only [List.mem_singleton, forall_eq]
  exact functionDefinition_ordered _ inside

end Unit

end MiniC.Parser
