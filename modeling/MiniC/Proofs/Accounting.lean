import MiniC.Proofs.BlockRecovery
import MiniC.Proofs.Forms
import MiniC.Proofs.Habit

/-!
# No token is dropped silently

The errors of a block travel up with the match that holds it, and they are
dropped only together with that match.  So as long as the error limit is not
reached, the items of every block of a tree, and the declarations of the unit, are
laid out with errors that are reported.  Every gap between them holds one.
-/

namespace MiniC

mutual

/-- The blocks of a statement. -/
@[simp]
def Statement.blocks : Statement → List Block
  | .compound block => block.blocks
  | .declaration declaration => declaration.blocks
  | .ifElse _ _ thenBranch elseBranch => thenBranch.blocks ++ Statement.optionBlocks elseBranch
  | .whileLoop _ _ body => body.blocks
  | .unit unit => unit.blocks
  | .returnValue _ _ | .breakLoop _ | .continueLoop _ | .empty _ | .expression _ _ => []

/-- A block and the blocks inside it. -/
@[simp]
def Block.blocks : Block → List Block
  | .mk span items => .mk span items :: Statement.listBlocks items

/-- The blocks of a declaration. -/
@[simp]
def Declaration.blocks : Declaration → List Block
  | .mk _ _ body => Block.optionBlocks body

/-- The blocks of a compilation unit. -/
@[simp]
def CompilationUnit.blocks : CompilationUnit → List Block
  | .mk _ declarations => Declaration.listBlocks declarations

/-- The blocks of statements. -/
@[simp]
def Statement.listBlocks : List Statement → List Block
  | [] => []
  | statement :: rest => statement.blocks ++ Statement.listBlocks rest

/-- The blocks of a statement that may be left out. -/
@[simp]
def Statement.optionBlocks : Option Statement → List Block
  | none => []
  | some statement => statement.blocks

/-- The blocks of a block that may be left out. -/
@[simp]
def Block.optionBlocks : Option Block → List Block
  | none => []
  | some block => block.blocks

/-- The blocks of declarations. -/
@[simp]
def Declaration.listBlocks : List Declaration → List Block
  | [] => []
  | declaration :: rest => declaration.blocks ++ Declaration.listBlocks rest

end

theorem Statement.mem_listBlocks {block : Block} {statements : List Statement} :
    block ∈ Statement.listBlocks statements ↔
      ∃ statement ∈ statements, block ∈ statement.blocks := by
  induction statements with
  | nil => simp [Statement.listBlocks]
  | cons statement rest induction => simp [Statement.listBlocks, induction]

theorem Declaration.mem_listBlocks {block : Block} {declarations : List Declaration} :
    block ∈ Declaration.listBlocks declarations ↔
      ∃ declaration ∈ declarations, block ∈ declaration.blocks := by
  induction declarations with
  | nil => simp [Declaration.listBlocks]
  | cons declaration rest induction => simp [Declaration.listBlocks, induction]

namespace Parser

/-- The range between the braces of a block, up to the end of input when the closing one
is missing. -/
def Interior (input : Input) (block : Block) (first limit : Nat) : Prop :=
  ∃ start, first = start + 1 ∧ limit = matchingBrace input start ∧
    input.kindAt start = .leftBrace ∧
    block.span =
      covering start (if input.kindAt limit = .rightBrace then limit + 1 else limit)

/-- A block whose items are laid out between its braces. -/
def BlockLaid (input : Input) (errors : List Diagnostic) (block : Block) : Prop :=
  ∃ first limit, Interior input block first limit ∧
    Laid errors False first limit (block.items.map Statement.span)

theorem BlockLaid.mono {input : Input} {errors more : List Diagnostic} {block : Block}
    (laid : BlockLaid input errors block) (subset : ∀ error ∈ errors, error ∈ more) :
    BlockLaid input more block := by
  obtain ⟨first, limit, interior, items⟩ := laid
  exact ⟨first, limit, interior, items.mono subset id⟩

/-- A match with its errors: no more of them are counted than it carries, and if they
stay below the limit its blocks are laid out. -/
structure Accounts (input : Input) (blocks : List Block) (errors : List Diagnostic)
    (before after : State) : Prop where
  counted : after.errorCount ≤ before.errorCount + errors.length
  laid : before.errorCount + errors.length < input.options.maxErrors →
    ∀ block ∈ blocks, BlockLaid input errors block

/-- A rule that accounts for the blocks of its matches. -/
def Accountable {α : Type} (input : Input) (blocks : α → List Block)
    (rule : Attempt (Match α)) : Prop :=
  ∀ before found after, Orderly input.stream before.memo → before.reported = [] →
    rule.run before = .ok (.ok found) after →
      Accounts input (blocks found.node) found.recovered before after

/-- Rules without blocks count no errors. -/
def counting (input : Input) : Habit input where
  Step before _ after := after.errorCount = before.errorCount
  Whole before _ after := after.errorCount = before.errorCount
  rest _ := rfl
  step_of_whole same := same
  fail _ _ := rfl
  tooDeep _ _ := rfl
  step_trans first second := second.trans first
  beaten _ first second := second.trans first
  deepest _ _ first second := second.trans first
  dropped _ _ first second := second.trans first
  guarded same := same
  supervised same := by simpa using same
  recalled _ := by simp
  isolated _ same := same

section Rules

variable {α : Type} {input : Input} {start : Nat}

theorem Accountable.of_keeps {blocks : α → List Block} {rule : Attempt (Match α)}
    (keeps : (counting input).Keeps rule)
    (none : Yields rule fun found => blocks found.node = []) :
    Accountable input blocks rule := by
  intro before found after _ _ run
  have same : after.errorCount = before.errorCount := keeps before _ after run
  have empty := none before found after run
  constructor
  · omega
  · intro _ block member
    rw [empty] at member
    cases member

theorem declaration_accountable (budget : Nat) :
    Accountable input Declaration.blocks (declaration input budget start) := by
  apply Accountable.of_keeps ((counting input).declaration budget).keeps
  exact .supervise (.andThen fun _ => .andThen fun _ => .andThen fun _ => .pure rfl)

theorem Accounts.after_steps {blocks : List Block} {errors : List Diagnostic}
    {before between after : State} (same : between.errorCount = before.errorCount)
    (accounts : Accounts input blocks errors between after) :
    Accounts input blocks errors before after := by
  constructor
  · simpa [same] using accounts.counted
  · simpa [same] using accounts.laid

theorem Accounts.of_count {blocks : List Block} {errors : List Diagnostic}
    {before after last : State} (accounts : Accounts input blocks errors before after)
    (same : last.errorCount = after.errorCount) : Accounts input blocks errors before last := by
  constructor
  · simpa [same] using accounts.counted
  · exact accounts.laid

theorem Accounts.append {early late : List Block} {errors more : List Diagnostic}
    {before between after : State} (first : Accounts input early errors before between)
    (second : Accounts input late more between after) :
    Accounts input (early ++ late) (errors ++ more) before after := by
  have countedFirst := first.counted
  have countedSecond := second.counted
  constructor
  · simp only [List.length_append]
    omega
  · intro few block member
    simp only [List.length_append] at few
    rcases List.mem_append.mp member with earlier | later
    · exact (first.laid (by omega) block earlier).mono
        fun error recorded => List.mem_append.mpr (.inl recorded)
    · exact (second.laid (by omega) block later).mono
        fun error recorded => List.mem_append.mpr (.inr recorded)

namespace Accountable

variable {β : Type} {blocks : α → List Block} {inner : β → List Block}

theorem guarded {rule : Attempt (Match α)} (accountable : Accountable input blocks rule) :
    Accountable input blocks (guarded input start rule) := by
  intro before found after orderly reported run
  cases guarded_ok run with
  | admitted _ ran =>
      have accounts := accountable before.entered found _ orderly reported ran
      exact ⟨accounts.counted, accounts.laid⟩

theorem supervise {rule : Attempt (Match α)} (accountable : Accountable input blocks rule) :
    Accountable input blocks (supervise input start rule) := by
  intro before found after orderly reported run
  obtain ⟨between, ran, rfl⟩ := supervise_ok run
  exact (accountable before found between orderly reported ran).of_count (by simp)

theorem bind {first : Attempt β} {next : β → Attempt (Match α)} {Ends : β → Prop}
    (confined : Confined input.stream start first Ends) (keeps : (counting input).Keeps first)
    (second : ∀ value, Ends value → Accountable input blocks (next value)) :
    Accountable input blocks (first >>= next) := by
  intro before found after orderly reported run
  obtain ⟨value, between, ran, rest⟩ := bind_match run
  obtain ⟨effect, ends⟩ := confined.ran ran orderly
  have same : between.errorCount = before.errorCount := keeps before _ between ran
  exact (second value ends between found after effect.orderly (effect.reported.trans reported)
    rest).after_steps same

theorem wrap {rule : Attempt (Match β)} {build : Match β → Match α}
    (accountable : Accountable input inner rule)
    (same : ∀ found, blocks (build found).node = inner found.node)
    (kept : ∀ found, (build found).recovered = found.recovered) :
    Accountable input blocks (rule >>= fun found => pure (build found)) := by
  intro before found after orderly reported run
  obtain ⟨part, between, ran, rest⟩ := bind_match run
  cases rest
  rw [same, kept]
  exact accountable before part after orderly reported ran

theorem firstOf_pair {first second : Attempt (Match α)} {Ends : Match α → Prop}
    (confined : Confined input.stream start first Ends) (keeps : (counting input).Keeps first)
    (firstAccountable : Accountable input blocks first)
    (secondAccountable : Accountable input blocks second) :
    Accountable input blocks (firstOf first [second]) := by
  intro before found after orderly reported run
  rcases firstOf_pair_ok run with
    ⟨only, -⟩ | ⟨failure, between, answer, last, failed, -, ran, chosen⟩
  · exact firstAccountable before found after orderly reported only
  · have same : between.errorCount = before.errorCount := keeps before _ between failed
    obtain ⟨effect, -⟩ := confined.ran failed orderly
    cases chosen with
    | found found =>
        have accounts := secondAccountable between found last effect.orderly
          (effect.reported.trans reported) ran
        exact (accounts.after_steps same).of_count rfl

end Accountable

theorem blockItem_accountable {budget : Nat}
    (inner : Accountable input Statement.blocks (statement input budget start))
    (inside : start ≤ input.stream.lastIndex) :
    Accountable input Statement.blocks
      (blockItem (statement input budget) (declaration input budget) start) := by
  have declared : Confined input.stream start
      (declaration input budget start >>= fun found => pure (found.map Statement.declaration))
      fun _ => True :=
    (declaration_confined budget inside).bind fun _ _ => .pure trivial
  apply Accountable.firstOf_pair declared _ _ inner
  · exact ((counting input).declaration budget).keeps.bind fun _ => .pure
  · exact (declaration_accountable budget).wrap (fun _ => rfl) fun _ => rfl

theorem Rounds.accounts {item : Nat → Attempt (Match α)} {description : String} {limit : Nat}
    {blocks : α → List Block}
    (confined : ∀ index, index ≤ input.stream.lastIndex →
      Confined input.stream index (item index) (SpansKept input.stream index))
    (accountable : ∀ index, index ≤ input.stream.lastIndex →
      Accountable input blocks (item index))
    (limitInside : limit ≤ input.stream.lastIndex)
    {index : Nat} {before after : State} {found : Match (List α)}
    (rounds : Rounds input item description limit index before found after)
    (orderly : Orderly input.stream before.memo) (reported : before.reported = [])
    (few : before.errorCount + found.recovered.length < input.options.maxErrors) :
    ∀ node ∈ found.node, ∀ block ∈ blocks node, BlockLaid input found.recovered block := by
  induction rounds with
  | done => simp
  | full => simp
  | @kept index state between last found rest more below run tail induction =>
      obtain ⟨effect, -⟩ := (confined index (by omega)).ran run orderly
      have accounts := accountable index (by omega) { state with noted := [] } found between
        orderly reported run
      have reportedEq : between.reported = state.reported := effect.reported
      simp only [keepItem, List.length_append] at few
      intro node member block inNode
      rcases List.mem_cons.mp member with rfl | later
      · apply (accounts.laid _ block inNode).mono
        · intro error recorded
          exact List.mem_append.mpr (.inl recorded)
        · change state.errorCount + _ < _
          omega
      · have laid := induction effect.orderly (reportedEq.trans reported)
          (by simp only; omega) node later block inNode
        apply laid.mono
        intro error recorded
        exact List.mem_append.mpr (.inr recorded)
  | @skipped index resume state between last failure rest more below run _ _ _ tail induction =>
      obtain ⟨effect, -⟩ := (confined index (by omega)).ran run orderly
      have reportedEq : between.reported = state.reported := effect.reported
      simp only [skipItem, List.length_cons] at few
      intro node member block inNode
      have laid := induction effect.orderly (reportedEq.trans reported)
        (by simp only; omega) node member block inNode
      apply laid.mono
      intro error recorded
      exact List.mem_cons_of_mem _ recorded

/-- A block accounts for itself and for the blocks of its items. -/
theorem block_accountable {budget : Nat}
    (inner : ∀ start, start ≤ input.stream.lastIndex →
      Accountable input Statement.blocks (statement input budget start))
    (opens : input.kindAt start = .leftBrace) :
    Accountable input Block.blocks (block input budget start) := by
  intro before found after orderly reported run
  have inside : start < input.stream.lastIndex :=
    TokenStream.lt_lastIndex_of_kindAt_eq opens (by decide)
  obtain ⟨list, final, computed, rfl, ended⟩ := block_inversion opens run
  have rounds := blockItems_rounds opens computed
  have loop := blockItems_confined budget orderly opens
  rw [computed] at loop
  have stopEq : list.stop = matchingBrace input start := by
    rw [matchingBrace_eq opens]
    exact loop.2.1
  have laid := blockItems_laid orderly opens computed
  rw [reported, ← matchingBrace_eq opens] at laid
  have items : ∀ index, index ≤ input.stream.lastIndex → Accountable input Statement.blocks
      (blockItem (statement input budget) (declaration input budget) index) :=
    fun index bound => blockItem_accountable (inner index bound) bound
  have nested := rounds.accounts (fun _ => item_confined) items (blockEnd_le inside) orderly
    reported
  have counted := rounds.count
  have assembled : ∀ (own : List Diagnostic) (span : Option Span),
      span = covering start
        (if input.kindAt (matchingBrace input start) = .rightBrace then
          matchingBrace input start + 1 else matchingBrace input start) →
      Accounts input (Block.mk span list.node).blocks (list.recovered ++ own) before
        (final.meeting input []) := by
    intro own span spanEq
    constructor
    · simp only [State.meeting_errorCount, List.length_append]
      omega
    · intro few block member
      simp only [List.length_append] at few
      rcases List.mem_cons.mp member with rfl | deeper
      · refine ⟨start + 1, matchingBrace input start, ⟨start, rfl, rfl, opens, spanEq⟩, ?_⟩
        apply laid.mono
        · exact fun error recorded => List.mem_append.mpr (.inl recorded)
        · intro full
          simp only [List.length_nil] at full
          omega
      · obtain ⟨item, kept, inItem⟩ := Statement.mem_listBlocks.mp deeper
        apply (nested (by omega) item kept block inItem).mono
        exact fun error recorded => List.mem_append.mpr (.inl recorded)
  rcases ended with ⟨closed, same⟩ | ⟨unclosed, same⟩
  · cases same
    rw [stopEq] at closed
    have accounts := assembled [] (covering start (list.stop + 1)) (by rw [if_pos closed, stopEq])
    rwa [List.append_nil] at accounts
  · cases same
    rw [stopEq] at unclosed
    exact assembled _ (covering start list.stop) (by rw [if_neg unclosed, stopEq])

theorem block_opens {budget : Nat} {before after : State} {found : Match Block}
    (run : (block input budget start).run before = .ok (.ok found) after) :
    input.kindAt start = .leftBrace := by
  obtain ⟨between, ran, -⟩ := supervise_ok run
  obtain ⟨first, opened, expected, -⟩ := bind_match ran
  obtain ⟨-, ⟨opens, -⟩ | ⟨-, impossible⟩⟩ := expect_ok expected
  · exact opens
  · cases impossible

theorem whileStatement_accountable {nested : Nested} {inner : Nat → Attempt (Match Statement)}
    (nestedConfined : NestedConfined input nested)
    (nestedKeeps : (counting input).NestedKeeps nested)
    (innerAccountable : ∀ start, start ≤ input.stream.lastIndex →
      Accountable input Statement.blocks (inner start))
    (inside : start ≤ input.stream.lastIndex) :
    Accountable input Statement.blocks (whileStatement input nested inner start) := by
  apply Accountable.supervise
  apply Accountable.bind (expect_confined (.refl inside)) (counting input).expect
  rintro afterWord ⟨rfl, word⟩
  have next := (Reaches.refl inside).next word rfl
  apply Accountable.bind (condition_confined nestedConfined next.inside)
    (Habit.condition nestedKeeps).keeps
  intro test testSpans
  exact (innerAccountable test.stop testSpans.inside).wrap (fun _ => by simp [Statement.blocks])
    fun _ => rfl

theorem ifStatement_accountable {nested : Nested} {inner : Nat → Attempt (Match Statement)}
    (nestedConfined : NestedConfined input nested)
    (nestedKeeps : (counting input).NestedKeeps nested)
    (innerConfined : StatementsConfined input inner)
    (innerAccountable : ∀ start, start ≤ input.stream.lastIndex →
      Accountable input Statement.blocks (inner start))
    (inside : start ≤ input.stream.lastIndex) :
    Accountable input Statement.blocks (ifStatement input nested inner start) := by
  apply Accountable.supervise
  apply Accountable.bind (expect_confined (.refl inside)) (counting input).expect
  rintro afterWord ⟨rfl, word⟩
  have next := (Reaches.refl inside).next word rfl
  apply Accountable.bind (condition_confined nestedConfined next.inside)
    (Habit.condition nestedKeeps).keeps
  intro test testSpans before found after orderly reported run
  obtain ⟨thenBranch, between, thenRun, rest⟩ := bind_match run
  obtain ⟨effect, spans⟩ := (innerConfined test.stop testSpans.inside).ran thenRun orderly
  have thenAccounts :=
    innerAccountable test.stop testSpans.inside before thenBranch between orderly reported thenRun
  split at rest
  · rename_i alternative
    obtain ⟨elseBranch, last, elseRun, ended⟩ := bind_match rest
    cases ended
    have elseInside : thenBranch.stop + 1 ≤ input.stream.lastIndex :=
      TokenStream.lt_lastIndex_of_kindAt_eq alternative (by decide)
    have elseAccounts := innerAccountable _ elseInside between elseBranch after effect.orderly
      (effect.reported.trans reported) elseRun
    simpa [Statement.blocks, Statement.optionBlocks] using thenAccounts.append elseAccounts
  · cases rest
    simpa [Statement.blocks, Statement.optionBlocks] using thenAccounts

theorem simpleForm_counts {nested : Nested}
    (nestedKeeps : (counting input).NestedKeeps nested) :
    (counting input).Keeps (simpleForm input nested start) := by
  have refuses : ∀ word, (counting input).KeepsWhole
      (throw (.missing start (.kind word)) : Attempt (Match Statement)) := by
    intro word before outcome after run
    cases run
    rfl
  apply Habit.KeepsWhole.keeps
  apply (counting input).choice (refuses _)
  simp only [List.mem_cons, List.not_mem_nil, or_false, forall_eq_or_imp, forall_eq]
  exact ⟨refuses _, Habit.returnStatement nestedKeeps, (counting input).wordStatement,
    (counting input).wordStatement, refuses _, (counting input).emptyStatement,
    Habit.expressionStatement nestedKeeps⟩

theorem simpleForm_accountable {nested : Nested}
    (nestedKeeps : (counting input).NestedKeeps nested) :
    Accountable input Statement.blocks (simpleForm input nested start) := by
  have wordless : ∀ {word : Kind} {build : Option Span → Statement},
      (∀ span, (build span).blocks = []) →
        Yields (wordStatement input word build start) fun found => found.node.blocks = [] :=
    fun blockless => .supervise (.andThen fun _ => .andThen fun _ => .pure (blockless _))
  apply Accountable.of_keeps (simpleForm_counts nestedKeeps)
  refine Yields.firstOf .throw ?_
  simp only [List.mem_cons, List.not_mem_nil, or_false, forall_eq_or_imp, forall_eq]
  refine ⟨.throw, ?_, wordless fun _ => by simp [Statement.blocks],
    wordless fun _ => by simp [Statement.blocks], .throw, ?_, ?_⟩
  · refine .supervise (.andThen fun _ => .ite (.pure (by simp [Statement.blocks])) ?_)
    exact .andThen fun _ => .ite (.pure (by simp [Statement.blocks]))
      (.pure (by simp [Statement.blocks]))
  · exact .supervise (.andThen fun _ => .pure (by simp [Statement.blocks]))
  · exact .supervise (.andThen fun _ => .andThen fun _ => .pure (by simp [Statement.blocks]))

theorem statement_accountable (unsupervised : input.supervised = false) (budget : Nat) :
    ∀ start, start ≤ input.stream.lastIndex →
      Accountable input Statement.blocks (statement input budget start) := by
  induction budget with
  | zero =>
      intro start _
      apply Accountable.supervise
      apply Accountable.guarded
      intro before found after _ _ run
      cases run
  | succ budget induction =>
      intro start inside
      apply Accountable.supervise
      apply Accountable.guarded
      intro before found after orderly reported run
      have nestedConfined := expression_confined input budget
      have nestedKeeps := (counting input).expression budget
      cases anyForm_found nestedConfined (statement_confined input budget) inside unsupervised
        orderly (describe_match run) with
      | ifForm ran =>
          exact ifStatement_accountable nestedConfined nestedKeeps
            (statement_confined input budget) induction inside before found after orderly reported
            ran
      | whileForm beaten ran =>
          exact (whileStatement_accountable nestedConfined nestedKeeps induction inside before
            found _ orderly reported ran).of_count rfl
      | @blockForm block between beaten ran =>
          have accounts :=
            block_accountable induction (block_opens ran) before block between orderly reported ran
          have same : (block.map Statement.compound).node.blocks = block.node.blocks := by
            simp [Match.map, Statement.blocks]
          rw [same]
          exact accounts.of_count rfl
      | simpleForm ran =>
          exact simpleForm_accountable nestedKeeps before found after orderly reported ran

theorem functionDefinition_accountable (unsupervised : input.supervised = false) (budget : Nat)
    (inside : start ≤ input.stream.lastIndex) :
    Accountable input Declaration.blocks (functionDefinition input budget start) := by
  apply Accountable.supervise
  apply Accountable.bind (specifiers_confined inside) (counting input).specifiers.keeps
  intro types typesSpans
  apply Accountable.bind (declarator_confined input budget _ typesSpans.inside)
    ((counting input).declarator budget).keeps
  intro declared declaredSpans before found after orderly reported run
  split at run
  · obtain ⟨body, between, ran, ended⟩ := bind_match run
    cases ended
    have accounts := block_accountable (statement_accountable unsupervised budget)
      (block_opens ran) before body after orderly reported ran
    simpa [Declaration.blocks, Block.optionBlocks] using accounts
  · cases run

theorem unitItem_accountable (unsupervised : input.supervised = false)
    (inside : start ≤ input.stream.lastIndex) :
    Accountable input Declaration.blocks (unitItem input start) :=
  .firstOf_pair (declaration_confined _ inside) ((counting input).declaration _).keeps
    (declaration_accountable _) (functionDefinition_accountable unsupervised _ inside)

end Rules

/-- A sequence of items in which every gap holds an error, so that without errors the items
tile it. -/
structure Accounted (errors : List Diagnostic) (first limit : Nat) (spans : List (Option Span)) :
    Prop where
  gaps : ∀ start stop, Gap spans first limit start stop →
    ∃ error ∈ errors, (start : Int) ≤ error.position ∧ error.depth ≤ stop
  tiled : errors = [] → Tiles first limit spans

theorem Laid.accounted {errors : List Diagnostic} {first limit : Nat}
    {spans : List (Option Span)} (laid : Laid errors False first limit spans) :
    Accounted errors first limit spans := by
  constructor
  · exact fun start stop => laid.error_of_gap id
  · rintro rfl
    exact laid.tiles id

/-- No token is dropped silently.  With fewer errors than the limit allows, every gap between
the declarations of the unit, and between the items of every block in it, holds an error
that is reported. -/
theorem no_token_dropped {stream : TokenStream} {options : ParserOptions} {stack : Option Nat}
    {state after : State}
    {unit : CompilationUnit} (run : parse { stream, options, stack } state = .ok unit after)
    (few : after.reported.length < options.maxErrors) :
    Accounted after.reported 0 stream.lastIndex (unit.declarations.map Declaration.span) ∧
      ∀ block ∈ unit.blocks, ∃ first limit,
        Interior { stream, options, stack } block first limit ∧
          Accounted after.reported first limit (block.items.map Statement.span) := by
  rw [parse_run] at run
  cases loop : unitItems { stream, options, stack } state with
  | error fault last =>
      rw [loop] at run
      cases run
  | ok list last =>
      rw [loop] at run
      cases run
      have rounds := itemsFrom_rounds (Nat.le_refl _) loop
      have orderly : Orderly stream (unitStart { stream, options, stack } state).memo :=
        orderly_empty stream
      have uncut : list.recovered.length < options.maxErrors := by
        simp only [List.length_take] at few
        omega
      have whole : list.recovered.take options.maxErrors = list.recovered :=
        List.take_of_length_le (Nat.le_of_lt uncut)
      dsimp only
      rw [whole]
      constructor
      · have laid := rounds.laid (fun _ => unitItem_confined) (fun _ => unitItem_covers)
          (Nat.le_refl _) (fun _ _ bound => blockEnd_le bound) (Nat.le_refl 0) (Nat.zero_le _)
          orderly
        apply Laid.accounted
        apply laid.mono (fun _ recorded => recorded)
        intro full
        have counted : options.maxErrors ≤ 0 + (0 + list.recovered.length) := full
        omega
      · intro block member
        obtain ⟨declaration, kept, inDeclaration⟩ := Declaration.mem_listBlocks.mp member
        have counted : (unitStart { stream, options, stack } state).errorCount +
            list.recovered.length < options.maxErrors := by
          change 0 + _ < _
          omega
        have items : ∀ index, index ≤ stream.lastIndex →
            Accountable { stream, options, stack } Declaration.blocks
              (unitItem { stream, options, stack } index) :=
          fun index bound => unitItem_accountable rfl bound
        obtain ⟨first, limit, interior, laid⟩ := rounds.accounts (fun _ => unitItem_confined)
          items (Nat.le_refl _) orderly rfl counted declaration kept block inDeclaration
        exact ⟨first, limit, interior, laid.accounted⟩

/-- A function whose first statement lacks an operator. -/
def skippedStream : TokenStream :=
  { tokens := #[
      { kind := .intWord, lexeme := "int", line := 1 },
      { kind := .identifier, lexeme := "f", line := 1 },
      { kind := .leftParen, lexeme := "(", line := 1 },
      { kind := .rightParen, lexeme := ")", line := 1 },
      { kind := .leftBrace, lexeme := "\x7b", line := 1 },
      { kind := .identifier, lexeme := "a", line := 1 },
      { kind := .identifier, lexeme := "b", line := 1 },
      { kind := .semicolon, lexeme := ";", line := 1 },
      { kind := .identifier, lexeme := "c", line := 1 },
      { kind := .semicolon, lexeme := ";", line := 1 },
      { kind := .rightBrace, lexeme := "\x7d", line := 1 },
      { kind := .endOfInput, lexeme := "", line := 1 }]
    terminated := rfl }

/-- The number of errors of a parse, and what its blocks and their items cover. -/
def layout? : EStateM.Result Fault State CompilationUnit →
    Option (Nat × List (Option Span × List (Option Span)))
  | .ok unit after => some (after.reported.length, unit.blocks.map fun block =>
      (block.span, block.items.map Statement.span))
  | .error _ _ => none

/-- The statement is skipped, and the error for it is reported. -/
theorem no_token_dropped_skipped :
    ∃ unit after, parse { stream := skippedStream, options := {} } {} = .ok unit after ∧
      after.reported.length < 100 ∧
      ∃ block ∈ unit.blocks, block.items.map Statement.span = [covering 8 10] ∧
        ∃ error ∈ after.reported, 5 ≤ error.position ∧ error.depth ≤ 8 := by
  have layout : layout? (parse { stream := skippedStream, options := {} } {}) =
      some (1, [(covering 4 11, [covering 8 10])]) := by
    decide +kernel
  cases run : parse { stream := skippedStream, options := {} } {} with
  | error fault after =>
      rw [run] at layout
      cases layout
  | ok unit after =>
      rw [run] at layout
      obtain ⟨count, blocks⟩ := Prod.mk.inj (Option.some.inj layout)
      obtain ⟨block, blocksEq, shape⟩ := List.map_eq_singleton_iff.mp blocks
      obtain ⟨spanEq, itemsEq⟩ := Prod.mk.inj shape
      have few : after.reported.length < 100 := by
        rw [count]
        decide
      have member : block ∈ unit.blocks := by simp [blocksEq]
      obtain ⟨-, accounted⟩ := no_token_dropped run few
      obtain ⟨first, limit, ⟨start, rfl, rfl, -, span⟩, between⟩ := accounted block member
      have startEq : (4 : Int) = start := by
        have same := spanEq.symm.trans span
        exact congrArg Span.start (Option.some.inj same)
      obtain rfl : start = 4 := by omega
      rw [itemsEq] at between
      have limitEq : matchingBrace { stream := skippedStream, options := {} } 4 = 10 := by decide
      rw [limitEq] at between
      have gap : Gap [covering 8 10] 5 10 5 8 := by
        refine ⟨by decide, by decide, by decide, ?_, .inl rfl, .inr ?_⟩
        · rintro index - below ⟨range, inItems, lower, -⟩
          cases List.mem_singleton.mp inItems
          exact Nat.not_le_of_lt below (Int.ofNat_le.mp lower)
        · exact ⟨⟨8, 10⟩, by simp [covering], by decide, by decide⟩
      exact ⟨unit, after, rfl, few, block, member, itemsEq, between.gaps 5 8 gap⟩

end Parser

end MiniC
