import MiniC.Proofs.Accounting
import MiniC.Proofs.Soundness

/-!
# A unit without errors is derived

A match of a statement, a block or a function definition that carries no error
comes with a derivation of the grammar.  As long as no error was met the error
limit is not reached, so nothing is skipped, and where an `if` ends without an `else`
none stands: an `else` belongs to the nearest `if`.
-/

namespace MiniC.Parser

/-- A parser that met no error so far. -/
structure Calm (stream : TokenStream) (state : State) : Prop where
  orderly : Orderly stream state.memo
  truthful : Truthful stream state.memo
  count : state.errorCount = 0
  reported : state.reported = []

/-- A step without blocks: what it does to the state, and what its matches are. -/
structure Plainly {α : Type} (input : Input) (start : Nat) (attempt : Attempt α)
    (Ends Post : α → Prop) : Prop where
  confined : Confined input.stream start attempt Ends
  keeps : (counting input).Keeps attempt
  vouched : Vouched input.stream attempt Post

/-- A rule whose matches without errors leave no error behind and have a property. -/
def Reads {α : Type} (input : Input) (rule : Attempt (Match α)) (Post : Match α → Prop) : Prop :=
  ∀ before found after, Calm input.stream before → rule.run before = .ok (.ok found) after →
    found.recovered = [] → Calm input.stream after ∧ Post found

section Rules

variable {α β : Type} {input : Input} {start : Nat}

theorem Calm.step {before after : State} {attempt : Attempt α} {Ends Post : α → Prop}
    {outcome : Except Diagnostic α} (calm : Calm input.stream before)
    (plainly : Plainly input start attempt Ends Post)
    (run : attempt.run before = .ok outcome after) :
    Calm input.stream after ∧ ∀ value, outcome = .ok value → Ends value ∧ Post value := by
  obtain ⟨effect, answers⟩ := plainly.confined.ran run calm.orderly
  obtain ⟨kept, post⟩ := plainly.vouched before outcome after calm.truthful run
  have counted : after.errorCount = before.errorCount := plainly.keeps before outcome after run
  constructor
  · exact ⟨effect.orderly, kept, counted.trans calm.count, effect.reported.trans calm.reported⟩
  · rintro value rfl
    exact ⟨answers, post value rfl⟩

theorem Calm.meeting {state : State} {failures : List Diagnostic}
    (calm : Calm input.stream state) : Calm input.stream (state.meeting input failures) := by
  constructor
  · simpa using calm.orderly
  · simpa using calm.truthful
  · simpa using calm.count
  · simpa using calm.reported

namespace Reads

variable {rule first second : Attempt (Match α)} {Post : Match α → Prop}

theorem of_plainly {Ends : Match α → Prop} (plainly : Plainly input start rule Ends Post) :
    Reads input rule Post := by
  intro before found after calm run _
  obtain ⟨afterCalm, post⟩ := calm.step plainly run
  exact ⟨afterCalm, (post found rfl).2⟩

theorem supervise (reads : Reads input rule Post) :
    Reads input (supervise input start rule) Post := by
  intro before found after calm run clean
  obtain ⟨between, ran, rfl⟩ := supervise_ok run
  obtain ⟨afterCalm, post⟩ := reads before found between calm ran clean
  exact ⟨afterCalm.meeting, post⟩

theorem guarded (reads : Reads input rule Post) : Reads input (guarded input start rule) Post := by
  intro before found after calm run clean
  cases guarded_ok run with
  | admitted _ ran =>
      obtain ⟨afterCalm, post⟩ := reads before.entered found _
        ⟨calm.orderly, calm.truthful, calm.count, calm.reported⟩ ran clean
      exact ⟨⟨afterCalm.orderly, afterCalm.truthful, afterCalm.count, afterCalm.reported⟩, post⟩

theorem bind {attempt : Attempt β} {next : β → Attempt (Match α)} {Ends Known : β → Prop}
    (plainly : Plainly input start attempt Ends Known)
    (reads : ∀ value, Ends value → Known value → Reads input (next value) Post) :
    Reads input (attempt >>= next) Post := by
  intro before found after calm run clean
  obtain ⟨value, between, ran, rest⟩ := bind_match run
  obtain ⟨betweenCalm, known⟩ := calm.step plainly ran
  obtain ⟨ends, post⟩ := known value rfl
  exact reads value ends post between found after betweenCalm rest clean

theorem firstOf {Ends : Match α → Prop} (plainly : Plainly input start first Ends Post)
    (reads : Reads input second Post) : Reads input (firstOf first [second]) Post := by
  intro before found after calm run clean
  rcases firstOf_pair_ok run with
    ⟨only, -⟩ | ⟨failure, between, answer, last, failed, -, ran, chosen⟩
  · exact of_plainly plainly before found after calm only clean
  · obtain ⟨betweenCalm, -⟩ := calm.step plainly failed
    cases chosen with
    | found found =>
        obtain ⟨lastCalm, post⟩ := reads between found last betweenCalm ran clean
        exact ⟨⟨lastCalm.orderly, lastCalm.truthful, lastCalm.count, lastCalm.reported⟩, post⟩

end Reads

/-- A match of a statement is derived. -/
def FormsMatch (stream : TokenStream) (start : Nat) (found : Match Statement) : Prop :=
  Forms stream .nearest (.statement found.node.withoutSpans) start found.stop

/-- Statements inside a rule are derived. -/
def StatementsRead (input : Input) (inner : Nat → Attempt (Match Statement)) : Prop :=
  ∀ start, start ≤ input.stream.lastIndex →
    Reads input (inner start) (FormsMatch input.stream start)

theorem expect_plainly {kind : Kind} (inside : start ≤ input.stream.lastIndex) :
    Plainly input start (expect input kind start)
      (fun stop => stop = start + 1 ∧ input.kindAt start = kind) fun _ => True :=
  ⟨expect_confined (.refl inside), (counting input).expect, Upholds.expect.mono fun _ _ => trivial⟩

theorem specifiers_plainly (inside : start ≤ input.stream.lastIndex) :
    Plainly input start (specifiers input start) (Spans input.stream start)
      fun found => Specifiers input.stream found.node start found.stop :=
  ⟨specifiers_confined inside, (counting input).specifiers.keeps, specifiers_vouched⟩

theorem declarator_plainly (budget : Nat) (inside : start ≤ input.stream.lastIndex) :
    Plainly input start (declarator input budget start) (Spans input.stream start)
      fun found => Declares input.stream (.declarator found.node.withoutSpans) start found.stop :=
  ⟨declarator_confined input budget start inside, ((counting input).declarator budget).keeps,
    declarator_vouched input budget⟩

theorem declaration_plainly (budget : Nat) (inside : start ≤ input.stream.lastIndex) :
    Plainly input start (declaration input budget start)
      (fun found => Spans input.stream start found ∧ found.recovered = [])
      fun found => DerivesDeclaration input.stream found.node.withoutSpans start found.stop :=
  ⟨declaration_confined budget inside, ((counting input).declaration budget).keeps,
    declaration_vouched input budget⟩

/-- A match of an item makes items together with those after it. -/
def ItemMatch (stream : TokenStream) (start : Nat) (found : Match Statement) : Prop :=
  ∀ rest stop, Forms stream .nearest (.items rest) found.stop stop →
    Forms stream .nearest (.items (found.node.withoutSpans :: rest)) start stop

theorem blockItem_reads {budget : Nat} (inner : StatementsRead input (statement input budget))
    (inside : start ≤ input.stream.lastIndex) :
    Reads input (blockItem (statement input budget) (declaration input budget) start)
      (ItemMatch input.stream start) := by
  have declared := declaration_plainly budget inside
  have first : Plainly input start
      (declaration input budget start >>= fun found => pure (found.map Statement.declaration))
      (fun _ => True) (ItemMatch input.stream start) := by
    constructor
    · exact declared.confined.bind fun _ _ => .pure trivial
    · exact declared.keeps.bind fun _ => .pure
    · apply declared.vouched.bind
      exact fun found derived => .pure fun rest stop items => .declarationItem derived items
  apply Reads.firstOf first
  intro before found after calm run clean
  obtain ⟨afterCalm, derived⟩ := inner start inside before found after calm run clean
  exact ⟨afterCalm, fun rest stop items => .statementItem derived items⟩

/-- A loop that recorded no error kept items one after the other. -/
theorem Rounds.reads {item : Nat → Attempt (Match α)} {description : String} {limit : Nat}
    {Post : Nat → Match α → Prop} (Whole : List α → Nat → Nat → Prop)
    (reads : ∀ index, index ≤ input.stream.lastIndex → Reads input (item index) (Post index))
    (nil : ∀ index, Whole [] index index)
    (cons : ∀ index found rest stop, Post index found → Whole rest found.stop stop →
      Whole (found.node :: rest) index stop)
    (limitInside : limit ≤ input.stream.lastIndex)
    {index : Nat} {before after : State} {found : Match (List α)}
    (rounds : Rounds input item description limit index before found after)
    (calm : Calm input.stream before) (clean : found.recovered = []) :
    Whole found.node index found.stop ∧ Calm input.stream after := by
  induction rounds with
  | done => exact ⟨nil _, calm⟩
  | @full index state more reached =>
      have bound := input.options.maxErrors_pos
      simp [limitReached, calm.reported, calm.count] at reached
      omega
  | @kept index state between last found rest more below run tail induction =>
      obtain ⟨foundClean, restClean⟩ : found.recovered = [] ∧ rest.recovered = [] := by
        simpa [keepItem] using clean
      obtain ⟨itemCalm, post⟩ := reads index (by omega) { state with noted := [] } found between
        ⟨calm.orderly, calm.truthful, calm.count, calm.reported⟩ run foundClean
      have tailCalm : Calm input.stream
          { between with
            noted := state.noted
            errorCount := state.errorCount + found.recovered.length } := by
        refine ⟨itemCalm.orderly, itemCalm.truthful, ?_, itemCalm.reported⟩
        simp [calm.count, foundClean]
      obtain ⟨whole, lastCalm⟩ := induction tailCalm restClean
      exact ⟨cons index found rest.node rest.stop post whole, lastCalm⟩
  | skipped => simp [skipItem] at clean

theorem block_reads {budget : Nat} (inner : StatementsRead input (statement input budget)) :
    Reads input (block input budget start) fun found =>
      Forms input.stream .nearest (.block found.node.withoutSpans) start found.stop := by
  intro before found after calm run clean
  have opens := block_opens run
  have inside : start < input.stream.lastIndex :=
    TokenStream.lt_lastIndex_of_kindAt_eq opens (by decide)
  obtain ⟨list, final, computed, rfl, ended⟩ := block_inversion opens run
  rcases ended with ⟨closed, same⟩ | ⟨-, same⟩
  · cases same
    have rounds := blockItems_rounds opens computed
    obtain ⟨items, finalCalm⟩ := rounds.reads
      (fun nodes index stop =>
        Forms input.stream .nearest (.items (Statement.listWithoutSpans nodes)) index stop)
      (fun index bound => blockItem_reads inner bound)
      (fun index => by simpa [Statement.listWithoutSpans] using .noItems)
      (fun index found rest stop post whole => by
        simpa [Statement.listWithoutSpans] using post _ stop whole)
      (blockEnd_le inside) calm clean
    refine ⟨finalCalm.meeting, ?_⟩
    simp only [Block.withoutSpans]
    exact .block opens items closed
  · cases same
    simp at clean

section Statements

variable {nested : Nested} {inner : Nat → Attempt (Match Statement)}

/-- What is needed of the expressions inside a statement. -/
structure NestedPlainly (input : Input) (nested : Nested) : Prop where
  confined : NestedConfined input nested
  keeps : (counting input).NestedKeeps nested
  vouched : NestedVouched input nested

theorem condition_plainly (nestedPlainly : NestedPlainly input nested)
    (inside : start ≤ input.stream.lastIndex) :
    Plainly input start (condition input nested start) (Spans input.stream start) fun found =>
      input.stream.kindAt start = .leftParen ∧ ∃ middle, found.stop = middle + 1 ∧
        Derives input.stream (.expr .assignment found.node.withoutSpans) (start + 1) middle ∧
        input.stream.kindAt middle = .rightParen := by
  constructor
  · exact condition_confined nestedPlainly.confined inside
  · exact (Habit.condition nestedPlainly.keeps).keeps
  · apply Upholds.supervise
    apply Upholds.bind .expect
    rintro first ⟨rfl, opens⟩
    apply Upholds.bind (nestedPlainly.vouched .assignment _)
    intro value derived
    apply Upholds.bind .expect
    rintro stop ⟨rfl, closes⟩
    exact .pure ⟨opens, value.stop, rfl, derived, closes⟩

theorem whileStatement_reads (nestedPlainly : NestedPlainly input nested)
    (innerReads : StatementsRead input inner) (inside : start ≤ input.stream.lastIndex) :
    Reads input (whileStatement input nested inner start) (FormsMatch input.stream start) := by
  apply Reads.supervise
  apply Reads.bind (expect_plainly inside)
  rintro afterWord ⟨rfl, word⟩ -
  have next := (Reaches.refl inside).next word rfl
  apply Reads.bind (condition_plainly nestedPlainly next.inside)
  rintro test testSpans ⟨opens, middle, stopEq, derived, closes⟩ before found after calm run clean
  obtain ⟨body, between, ran, ended⟩ := bind_match run
  cases ended
  obtain ⟨bodyCalm, formed⟩ :=
    innerReads test.stop testSpans.inside before body after calm ran clean
  rw [stopEq] at formed
  refine ⟨bodyCalm, ?_⟩
  simp only [FormsMatch, Statement.withoutSpans]
  exact .whileLoop word opens derived closes formed

theorem ifStatement_reads (nestedPlainly : NestedPlainly input nested)
    (innerReads : StatementsRead input inner) (inside : start ≤ input.stream.lastIndex) :
    Reads input (ifStatement input nested inner start) (FormsMatch input.stream start) := by
  apply Reads.supervise
  apply Reads.bind (expect_plainly inside)
  rintro afterWord ⟨rfl, word⟩ -
  have next := (Reaches.refl inside).next word rfl
  apply Reads.bind (condition_plainly nestedPlainly next.inside)
  rintro test testSpans ⟨opens, middle, stopEq, derived, closes⟩ before found after calm run clean
  obtain ⟨thenBranch, between, thenRun, rest⟩ := bind_match run
  have thenReads := innerReads test.stop testSpans.inside before thenBranch between calm thenRun
  rw [stopEq] at thenReads
  split at rest
  · rename_i alternative
    obtain ⟨elseBranch, last, elseRun, ended⟩ := bind_match rest
    cases ended
    obtain ⟨thenClean, elseClean⟩ : thenBranch.recovered = [] ∧ elseBranch.recovered = [] := by
      simpa using clean
    obtain ⟨betweenCalm, thenFormed⟩ := thenReads thenClean
    have elseInside : thenBranch.stop + 1 ≤ input.stream.lastIndex :=
      TokenStream.lt_lastIndex_of_kindAt_eq alternative (by decide)
    obtain ⟨afterCalm, elseFormed⟩ :=
      innerReads _ elseInside between elseBranch after betweenCalm elseRun elseClean
    refine ⟨afterCalm, ?_⟩
    simp only [FormsMatch, Statement.withoutSpans, Statement.optionWithoutSpans]
    exact .ifElse word opens derived closes thenFormed alternative elseFormed
  · rename_i alone
    cases rest
    obtain ⟨afterCalm, thenFormed⟩ := thenReads clean
    refine ⟨afterCalm, ?_⟩
    simp only [FormsMatch, Statement.withoutSpans, Statement.optionWithoutSpans]
    exact .ifOnly word opens derived closes thenFormed fun _ => alone

theorem wordStatement_vouched {word : Kind} {build : Option Span → Statement} {tree : Statement}
    (built : ∀ span, (build span).withoutSpans = tree)
    (formed : input.stream.kindAt start = word → input.stream.kindAt (start + 1) = .semicolon →
      Forms input.stream .nearest (.statement tree) start (start + 2)) :
    Vouched input.stream (wordStatement input word build start)
      (FormsMatch input.stream start) := by
  apply Upholds.supervise
  apply Upholds.bind .expect
  rintro afterWord ⟨rfl, isWord⟩
  apply Upholds.bind .expect
  rintro stop ⟨rfl, semicolon⟩
  apply Upholds.pure
  simp only [FormsMatch, built]
  exact formed isWord semicolon

theorem returnStatement_vouched (nestedVouched : NestedVouched input nested) :
    Vouched input.stream (returnStatement input nested start)
      fun found => found.recovered = [] → FormsMatch input.stream start found := by
  apply Upholds.supervise
  apply Upholds.bind .expect
  rintro afterWord ⟨rfl, word⟩
  apply Upholds.ite
  · intro semicolon
    apply Upholds.pure
    intro _
    simp only [FormsMatch, Statement.withoutSpans]
    exact .returnNothing word semicolon
  · intro _
    apply Upholds.bind (nestedVouched .assignment _)
    intro value derived
    apply Upholds.ite
    · intro semicolon
      apply Upholds.pure
      intro _
      simp only [FormsMatch, Statement.withoutSpans]
      exact .returnValue word derived semicolon
    · exact fun _ => .pure nofun

theorem simpleForm_vouched (nestedVouched : NestedVouched input nested) :
    Vouched input.stream (simpleForm input nested start)
      fun found => found.recovered = [] → FormsMatch input.stream start found := by
  apply Upholds.firstOf .throw
  simp only [List.mem_cons, List.not_mem_nil, or_false, forall_eq_or_imp, forall_eq]
  refine ⟨.throw, returnStatement_vouched nestedVouched, ?_, ?_, .throw, ?_, ?_⟩
  · exact (wordStatement_vouched (fun _ => by simp only [Statement.withoutSpans])
      .breakLoop).mono fun _ formed _ => formed
  · exact (wordStatement_vouched (fun _ => by simp only [Statement.withoutSpans])
      .continueLoop).mono fun _ formed _ => formed
  · apply Upholds.supervise
    apply Upholds.bind .expect
    rintro stop ⟨rfl, semicolon⟩
    apply Upholds.pure
    intro _
    simp only [FormsMatch, Statement.withoutSpans]
    exact .empty semicolon
  · apply Upholds.supervise
    apply Upholds.bind (nestedVouched .assignment _)
    intro value derived
    apply Upholds.bind .expect
    rintro stop ⟨rfl, semicolon⟩
    apply Upholds.pure
    intro _
    simp only [FormsMatch, Statement.withoutSpans]
    exact .expression derived semicolon

end Statements

theorem statement_reads (unsupervised : input.supervised = false) (budget : Nat) :
    StatementsRead input (statement input budget) := by
  induction budget with
  | zero =>
      intro start _
      apply Reads.supervise
      apply Reads.guarded
      intro before found after _ run
      cases run
  | succ budget induction =>
      intro start inside
      apply Reads.supervise
      apply Reads.guarded
      intro before found after calm run clean
      have nestedPlainly : NestedPlainly input (expression input budget) :=
        ⟨expression_confined input budget, (counting input).expression budget,
          expression_vouched input budget⟩
      have formRun := describe_match run
      obtain ⟨effect, -⟩ := (anyForm_confined nestedPlainly.confined
        (statement_confined input budget) (fun _ => declaration_confined budget) inside).ran
        formRun calm.orderly
      cases anyForm_found nestedPlainly.confined (statement_confined input budget) inside
        unsupervised calm.orderly formRun with
      | ifForm ran =>
          exact ifStatement_reads nestedPlainly induction inside before found after calm ran clean
      | whileForm beaten ran =>
          obtain ⟨formCalm, formed⟩ :=
            whileStatement_reads nestedPlainly induction inside before found _ calm ran clean
          exact ⟨⟨formCalm.orderly, formCalm.truthful, formCalm.count, formCalm.reported⟩, formed⟩
      | @blockForm block between beaten ran =>
          obtain ⟨formCalm, formed⟩ := block_reads induction before block between calm ran clean
          refine ⟨⟨formCalm.orderly, formCalm.truthful, formCalm.count, formCalm.reported⟩, ?_⟩
          simp only [FormsMatch, Match.map, Statement.withoutSpans]
          exact .compound formed
      | simpleForm ran =>
          obtain ⟨kept, formed⟩ :=
            simpleForm_vouched nestedPlainly.vouched before _ after calm.truthful ran
          have counted : after.errorCount = before.errorCount :=
            simpleForm_counts nestedPlainly.keeps before _ after ran
          exact ⟨⟨effect.orderly, kept, counted.trans calm.count,
            effect.reported.trans calm.reported⟩, formed found rfl clean⟩

/-- A match of a declaration of a unit makes declarations together with those after it. -/
def UnitMatch (stream : TokenStream) (start : Nat) (found : Match Declaration) : Prop :=
  ∀ rest stop, DerivesDeclarations stream .nearest rest found.stop stop →
    DerivesDeclarations stream .nearest (found.node.withoutSpans :: rest) start stop

theorem functionDefinition_reads (unsupervised : input.supervised = false) (budget : Nat)
    (inside : start ≤ input.stream.lastIndex) :
    Reads input (functionDefinition input budget start) (UnitMatch input.stream start) := by
  apply Reads.supervise
  apply Reads.bind (specifiers_plainly inside)
  intro types typesSpans typesDerived
  apply Reads.bind (declarator_plainly budget typesSpans.inside)
  intro declared _ declaredDerived before found after calm run clean
  split at run
  · rename_i isFunction
    obtain ⟨body, between, ran, ended⟩ := bind_match run
    cases ended
    obtain ⟨bodyCalm, formed⟩ :=
      block_reads (statement_reads unsupervised budget) before body after calm ran clean
    refine ⟨bodyCalm, fun rest stop more => .definition ?_ more⟩
    simp only [Declaration.withoutSpans, Block.optionWithoutSpans]
    exact .define typesDerived declaredDerived (by simpa using isFunction) formed
  · cases run

theorem unitItem_reads (unsupervised : input.supervised = false)
    (inside : start ≤ input.stream.lastIndex) :
    Reads input (unitItem input start) (UnitMatch input.stream start) := by
  have declared := declaration_plainly input.options.maxNesting inside
  have first : Plainly input start (declaration input input.options.maxNesting start)
      (fun found => Spans input.stream start found ∧ found.recovered = [])
      (UnitMatch input.stream start) :=
    ⟨declared.confined, declared.keeps,
      declared.vouched.mono fun found derived rest stop more => .declaration derived more⟩
  exact .firstOf first (functionDefinition_reads unsupervised _ inside)

end Rules

/-- A unit that is parsed without errors is derived, and every `else` in it belongs to the
nearest `if`. -/
theorem parse_derives {stream : TokenStream} {options : ParserOptions} {stack : Option Nat}
    {state after : State} {unit : CompilationUnit}
    (run : parse { stream, options, stack } state = .ok unit after)
    (clean : after.reported = []) : DerivesUnit stream .nearest unit.withoutSpans := by
  rw [parse_run] at run
  cases loop : unitItems { stream, options, stack } state with
  | error fault last =>
      rw [loop] at run
      cases run
  | ok list last =>
      rw [loop] at run
      cases run
      have calm : Calm stream (unitStart { stream, options, stack } state) :=
        ⟨orderly_empty stream, recollects_empty _, rfl, rfl⟩
      have listClean : list.recovered = [] := by
        have positive := options.maxErrors_pos
        rcases List.take_eq_nil_iff.mp clean with impossible | empty
        · exact absurd impossible (Nat.ne_of_gt positive)
        · exact empty
      have rounds := itemsFrom_rounds (Nat.le_refl _) loop
      obtain ⟨declarations, -⟩ := rounds.reads
        (fun nodes index stop =>
          DerivesDeclarations stream .nearest (Declaration.listWithoutSpans nodes) index stop)
        (fun index bound => unitItem_reads rfl bound)
        (fun index => by simpa [Declaration.listWithoutSpans] using .nil)
        (fun index found rest stop post whole => by
          simpa [Declaration.listWithoutSpans] using post _ stop whole)
        (Nat.le_refl _) calm listClean
      have confined := unitItems_confined { stream, options, stack } state
      rw [loop] at confined
      have stopEq : list.stop = stream.lastIndex := confined.2.1
      simp only [CompilationUnit.withoutSpans]
      rw [stopEq] at declarations
      exact .unit declarations

end MiniC.Parser
