import MiniC.Proofs.Memoisation
import MiniC.Proofs.Relocation
import MiniC.Proofs.Supervision

/-!
# Parsing again gives the same answer

A parser may be asked for whole units and for single rules, in any order, and some
of these requests may be broken off.  What they leave behind is remembered results,
noted failures, counts and reports, which a parse clears, and a trace, which nothing
reads.  What is not cleared is the number of guarded rules that are active and whether
one was refused.

A parser beside itself goes in lockstep.  So a rule is left, also by a fault, with as many
guarded rules active as there were when it was started.  And a rule only ever asks whether
one was refused since it was started, so two parsers that differ in that serve every
further request alike.
-/

namespace MiniC.Parser

/-- The rules that a parser may be asked for, by what they answer with.  Where a rule is
guarded, the rule inside it is another one. -/
inductive SingleRule : Type → Type
  | expression (rule : ExpressionRule) : SingleRule (Match Part)
  | specifiers : SingleRule (Match (List Token))
  | declarator : SingleRule (Match Declarator)
  | shape (stop : Nat) : SingleRule (Match Declarator)
  | shapeBody (stop : Nat) : SingleRule (Match Declarator)
  | arraySize (closing : Nat) : SingleRule (Option Expr)
  | parameters (closing : Nat) : SingleRule (List DeclarationRoot)
  | declaration : SingleRule (Match Declaration)
  | functionDefinition : SingleRule (Match Declaration)
  | block : SingleRule (Match Block)
  | statement : SingleRule (Match Statement)
  | statementBody : SingleRule (Match Statement)
  | condition : SingleRule (Match Expr)
  | ifStatement : SingleRule (Match Statement)
  | whileStatement : SingleRule (Match Statement)
  | returnStatement : SingleRule (Match Statement)
  | wordStatement (word : Kind) (build : Option Span → Statement) : SingleRule (Match Statement)
  | emptyStatement : SingleRule (Match Statement)
  | expressionStatement : SingleRule (Match Statement)

/-- A single rule at a start index, within a nesting budget. -/
def SingleRule.attempt (input : Input) (budget start : Nat) :
    {α : Type} → SingleRule α → Attempt α
  | _, .expression rule => Call.attempt input { rule, budget, start }
  | _, .specifiers => Parser.specifiers input start
  | _, .declarator => Parser.declarator input budget start
  | _, .shape stop => resolve input budget start stop
  | _, .shapeBody stop =>
      Parser.shape input (resolve input budget) (Parser.expression input budget) start stop
  | _, .arraySize closing => Parser.arraySize (Parser.expression input budget) start closing
  | _, .parameters closing => Parser.parameters input (resolve input budget) start closing
  | _, .declaration => Parser.declaration input budget start
  | _, .functionDefinition => Parser.functionDefinition input budget start
  | _, .block => Parser.block input budget start
  | _, .statement => Parser.statement input budget start
  | _, .statementBody =>
      Parser.statementBody input (Parser.expression input budget) (Parser.statement input budget)
        (Parser.declaration input budget) start
  | _, .condition => Parser.condition input (Parser.expression input budget) start
  | _, .ifStatement =>
      Parser.ifStatement input (Parser.expression input budget) (Parser.statement input budget)
        start
  | _, .whileStatement =>
      Parser.whileStatement input (Parser.expression input budget) (Parser.statement input budget)
        start
  | _, .returnStatement => Parser.returnStatement input (Parser.expression input budget) start
  | _, .wordStatement word build => Parser.wordStatement input word build start
  | _, .emptyStatement => Parser.emptyStatement input start
  | _, .expressionStatement =>
      Parser.expressionStatement input (Parser.expression input budget) start

/-- What a parser may be asked: to parse its stream, or to try a single rule. -/
inductive Request : Type 1
  | parse
  | single {α : Type} (rule : SingleRule α) (budget start : Nat)

namespace Request

/-- What a request is answered with, unless it is broken off: the unit with the errors
reported, or what the rule answers or fails with. -/
def Answer : Request → Type
  | .parse => CompilationUnit × List Diagnostic
  | @single α _ _ _ => Except Diagnostic α

/-- Serve a request. -/
def run (input : Input) : (request : Request) → Engine request.Answer
  | .parse => do
      let unit ← Parser.parse input
      return (unit, (← get).reported)
  | .single rule budget start => (rule.attempt input budget start).run

end Request

/-- What a request is answered with, or the fault that broke it off. -/
def handedBack {α : Type} : EStateM.Result Fault State α → Except Fault α
  | .ok value _ => .ok value
  | .error fault _ => .error fault

/-- The state after requests on one parser, broken off or not. -/
def serve (input : Input) (history : List Request) (state : State) : State :=
  history.foldl (fun state request => finalState (request.run input state)) state

/-- A parse as a request hands back what it does on its own, and leaves the same state. -/
theorem run_parse (input : Input) (state : State) :
    handedBack (Request.parse.run input state) = answer (parse input state) ∧
      finalState (Request.parse.run input state) = finalState (parse input state) := by
  change handedBack (EStateM.bind (parse input) _ state) = _ ∧
    finalState (EStateM.bind (parse input) _ state) = _
  unfold EStateM.bind
  cases parse input state with
  | ok unit after => exact ⟨rfl, rfl⟩
  | error fault after => exact ⟨rfl, rfl⟩

section Anew

variable {stream : TokenStream} {options : ParserOptions} {stack : Option Nat}

theorem unitItems_again {state other after : State} {list : Match (List Declaration)}
    (same : other.nesting = state.nesting)
    (run : unitItems { stream, options, stack } state = .ok list after) :
    ∃ last, unitItems { stream, options, stack } other = .ok list last := by
  let passage := Passage.itself stream
  have akin : (passage.reading options stack).Akin
      (unitStart { stream, options, stack } state) (unitStart { stream, options, stack } other) :=
    ⟨passage.remembered_empty fun _ _ _ => Memo.find?_empty _ _, rfl, rfl, rfl⟩
  have loop := Pairing.tracks_unitItems
    (Passage.reading_grounds (Passage.reading_recovers fun _ => rfl).loops)
    (passage.reading_matched options stack _) (Passage.within_of_whole (Passage.itself_whole _))
    (passage.reading options stack).fuelled
  obtain ⟨last, again, -, -⟩ := loop.same rfl (passage.reading_allows options stack same)
    akin.linked run Passage.reading_keeps
  exact ⟨last, again⟩

/-- There is one way only in which a unit is broken off. -/
theorem unitItems_fault {input : Input} {state after : State} {fault : Fault}
    (run : unitItems input state = .error fault after) : fault = .constantTooLarge := by
  have confined := unitItems_confined input state
  rw [run] at confined
  exact confined.1

/-- A parse answers the same from every state with as many guarded rules active. -/
theorem answer_again {state other : State} (same : other.nesting = state.nesting) :
    answer (parse { stream, options, stack } other) =
      answer (parse { stream, options, stack } state) := by
  rw [parse_run, parse_run]
  cases run : unitItems { stream, options, stack } state with
  | ok list after =>
      obtain ⟨last, again⟩ := unitItems_again same run
      rw [again]
      rfl
  | error fault after =>
      cases again : unitItems { stream, options, stack } other with
      | ok list last =>
          obtain ⟨impossible, ended⟩ := unitItems_again same.symm again
          rw [run] at ended
          cases ended
      | error otherFault last =>
          rw [unitItems_fault run, unitItems_fault again]
          rfl

end Anew

section Beside

variable {stream : TokenStream} {options : ParserOptions} {stack : Option Nat}

/-- A parser beside one that remembers, counts, reports and traces the same. -/
abbrev besideItself (stream : TokenStream) (options : ParserOptions) (stack : Option Nat) :
    Pairing :=
  .sharing stream options options stack false false (fun first second => second = first)
    fun _ => True

/-- States with so many guarded rules active that differ at most in what was noted and in
whether a guarded rule was refused. -/
abbrev Beside (stream : TokenStream) (options : ParserOptions) (stack : Option Nat)
    (nesting : Nat) (state other : State) : Prop :=
  (besideItself stream options stack).Returned { nesting } { nesting } state other

/-- Two parsers serve a computation alike, and leave it with as many guarded rules active as
there were before. -/
def ServedAlike {α : Type} (stream : TokenStream) (options : ParserOptions) (stack : Option Nat)
    (compute : Engine α) : Prop :=
  ∀ nesting state other, Beside stream options stack nesting state other →
    handedBack (compute other) = handedBack (compute state) ∧
      Beside stream options stack nesting (finalState (compute state)) (finalState (compute other))

theorem besideItself_uniform : (besideItself stream options stack).Uniform :=
  ⟨rfl, Passage.itself_whole stream, rfl, fun _ _ => Iff.rfl, fun _ => trivial⟩

theorem besideItself_expressions : (besideItself stream options stack).ExpressionsFollow :=
  Pairing.sharing_expressions stream options options stack false false _ nofun

theorem besideItself_matched {budget : Nat} :
    (besideItself stream options stack).Matched budget budget :=
  .inr ⟨rfl, rfl, rfl⟩

theorem Beside.allows {nesting : Nat} {state other : State}
    (beside : Beside stream options stack nesting state other) :
    (besideItself stream options stack).Allows state.nesting other.nesting :=
  .inr ⟨beside.trailNesting.trans beside.leadNesting.symm, rfl, rfl⟩

/-- What is alike is handed back alike, with as many guarded rules active as before. -/
theorem Pairing.Alike.handedBack {α : Type} [Movable α] {P : α → Prop} {nesting : Nat}
    {leadBase trailBase : Pairing.Background}
    {lead trail : EStateM.Result Fault State α}
    (alike : (besideItself stream options stack).Alike leadBase trailBase P lead trail)
    (leadNesting : leadBase.nesting = nesting) (trailNesting : trailBase.nesting = nesting) :
    MiniC.Parser.handedBack trail = MiniC.Parser.handedBack lead ∧
      Beside stream options stack nesting (finalState lead) (finalState trail) := by
  cases lead with
  | error fault after =>
      obtain ⟨last, rfl, back⟩ := alike.broken
      exact ⟨rfl, back.toAkin, back.leadNesting.trans leadNesting,
        back.trailNesting.trans trailNesting⟩
  | ok value after =>
      obtain ⟨last, rfl, -, ended⟩ := alike.same rfl
      exact ⟨rfl, ended.toAkin, ended.leadNesting.trans leadNesting,
        ended.trailNesting.trans trailNesting⟩

theorem Pairing.Follows.servedAlike {α : Type} [Movable α] {attempt : Attempt α} {P : α → Prop}
    (follows : (besideItself stream options stack).Follows attempt attempt P) :
    ServedAlike stream options stack attempt.run := by
  intro nesting state other beside
  have alike := (follows.alike _ _ state other beside.allows beside.linked).resolve_left
    (Pairing.not_lost rfl rfl rfl)
  exact alike.handedBack beside.leadNesting beside.trailNesting

theorem SingleRule.servedAlike {α : Type} (rule : SingleRule α) (budget start : Nat) :
    ServedAlike stream options stack
      (rule.attempt { stream, options, stack } budget start).run := by
  let pair := besideItself stream options stack
  have within := fun index => (besideItself_uniform : pair.Uniform).within index
  have isOpen : ∀ index, pair.Open index := fun index =>
    Pairing.isOpen_of (fun _ => trivial) (within index)
  have enclosed : pair.passage.Enclosed start :=
    Passage.enclosed_of_partial fun part => absurd part (Passage.itself_whole stream)
  have whole : ¬ pair.passage.Partial := Passage.itself_whole stream
  have matched : pair.Matched budget budget := .inr ⟨rfl, rfl, rfl⟩
  have expressions : pair.ExpressionsFollow := besideItself_expressions
  have nested := expressions budget budget matched
  have resolver := Pairing.follows_resolve expressions matched
  have grounds := besideItself_uniform.grounds expressions
  have statements := Pairing.statements_follow grounds matched
  have parts := Pairing.constituents grounds matched statements
  cases rule with
  | expression rule =>
      exact (Call.follows expressions ⟨rule, budget, start⟩ matched (isOpen _)
        (isOpen _)).servedAlike
  | specifiers => exact (Pairing.follows_specifiers (within start)).servedAlike
  | declarator =>
      exact (Pairing.follows_declarator expressions matched start (isOpen _)).servedAlike
  | shape stop => exact (resolver start stop (isOpen _) (within stop)).servedAlike
  | shapeBody stop =>
      exact (Pairing.follows_shape resolver nested (isOpen _) (within stop)).servedAlike
  | arraySize closing => exact (Pairing.follows_arraySize nested (isOpen _)).servedAlike
  | parameters closing => exact (Pairing.follows_parameters resolver (isOpen _)).servedAlike
  | declaration =>
      exact (Pairing.declarations_follow grounds matched start (within start)).servedAlike
  | functionDefinition =>
      exact (Pairing.follows_functionDefinition grounds matched (within start)).servedAlike
  | block => exact (Pairing.follows_compound parts (within start)).servedAlike
  | statement => exact (statements start enclosed).servedAlike
  | statementBody => exact (Pairing.follows_statementBody parts enclosed).servedAlike
  | condition => exact (Pairing.follows_condition nested (isOpen _)).servedAlike
  | ifStatement => exact (Pairing.follows_ifStatement parts enclosed).servedAlike
  | whileStatement => exact (Pairing.follows_whileStatement parts enclosed).servedAlike
  | returnStatement =>
      exact (Pairing.follows_returnStatement nested (within start)
        fun _ => isOpen _).servedAlike
  | wordStatement word build =>
      have builds : ∀ span, build (pair.shift.span span) = moved pair.shift (build span) :=
        fun span => (congrArg build (Shift.span_still span)).trans
          (Movable.moved_still (build span)).symm
      exact (Pairing.follows_wordStatement (.inr whole) (.inr whole) builds
        (within start)).servedAlike
  | emptyStatement =>
      exact (Pairing.follows_emptyStatement (within start) fun part =>
        absurd part whole).servedAlike
  | expressionStatement =>
      exact (Pairing.follows_expressionStatement nested (isOpen _).ready).servedAlike

theorem Request.servedAlike (request : Request) :
    ServedAlike stream options stack (request.run { stream, options, stack }) := by
  intro nesting state other beside
  cases request with
  | parse =>
      have sameTrace : other.trace = state.trace := congrArg Ledger.trace beside.ledgers
      have alike := (Pairing.parse_lockstep_from besideItself_uniform besideItself_expressions
        besideItself_matched rfl (Pairing.sharedMemos_empty stream false _) beside.allows
        sameTrace).resolve_left (Pairing.not_lost rfl rfl rfl)
      obtain ⟨-, after⟩ := alike.handedBack beside.leadNesting beside.trailNesting
      obtain ⟨answered, left⟩ := run_parse { stream, options, stack } state
      obtain ⟨otherAnswered, otherLeft⟩ := run_parse { stream, options, stack } other
      rw [answered, otherAnswered, left, otherLeft]
      exact ⟨alike.answer_eq besideItself_uniform, after⟩
  | single rule budget start => exact rule.servedAlike budget start nesting state other beside

/-- Parsers beside each other are so after any requests, broken off or not. -/
theorem beside_serve {nesting : Nat} {state other : State}
    (beside : Beside stream options stack nesting state other) (history : List Request) :
    Beside stream options stack nesting (serve { stream, options, stack } history state)
      (serve { stream, options, stack } history other) := by
  induction history generalizing state other with
  | nil => exact beside
  | cons request rest induction =>
      exact induction (request.servedAlike nesting state other beside).2

theorem beside_fresh : Beside stream options stack 0 {} {} :=
  ⟨⟨Pairing.sharedMemos_empty stream false _, rfl⟩, rfl, rfl⟩

end Beside

/-- Parsing again gives the same answer.  After any requests on one parser, broken off or
not, no guarded rule is active any more, and a parse hands back what it does on a fresh
parser.  Whether a guarded rule was refused before makes no difference to this parse or to
any other request, then or later. -/
theorem parse_repeatable (stream : TokenStream) (options : ParserOptions) (stack : Option Nat)
    (history : List Request) :
    let input : Input := { stream, options, stack }
    let state := serve input history {}
    answer (parse input state) = answer (parse input {}) ∧
      state.nesting = 0 ∧
      ∀ (felt : Bool) (later : List Request) (request : Request),
        handedBack (request.run input (serve input later { state with limitFelt := felt })) =
          handedBack (request.run input (serve input later state)) := by
  intro input state
  have beside : Beside stream options stack 0 state state := beside_serve beside_fresh history
  refine ⟨answer_again beside.leadNesting, beside.leadNesting, fun felt later request => ?_⟩
  have changed : Beside stream options stack 0 state { state with limitFelt := felt } :=
    ⟨⟨beside.memos, beside.ledgers⟩, beside.leadNesting, beside.trailNesting⟩
  exact (request.servedAlike 0 _ _ (beside_serve changed later)).1

/-- A rule that was refused leaves the flag set, and nothing active. -/
example :
    let state := serve { stream := sumStream, options := {} }
      [.single (.expression (.stratum .assignment)) 0 3] {}
    state.limitFelt = true ∧ state.nesting = 0 := by
  decide +kernel

end MiniC.Parser
