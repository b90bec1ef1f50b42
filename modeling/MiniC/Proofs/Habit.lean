import MiniC.Parser.Statement
import MiniC.Proofs.ConfinedExpression

/-!
# Habits of rules

Rules that parse no block are built from a few primitives: steps in sequence,
ordered choice, results that are remembered, nesting that is too deep, and
supervision.  A relation between the states around a computation and its failure
is a habit when it respects these primitives, and then every such rule has it.

A failure in the middle of a rule has not been met yet.  So a habit says what a
step of a rule does, and what a whole rule does that has answered.
-/

namespace MiniC.Parser

/-- What computations without blocks do to the state, by the failure they end with. -/
structure Habit (input : Input) where
  /-- What a step of a rule does. -/
  Step : State → Option Diagnostic → State → Prop
  /-- What a rule does that has answered. -/
  Whole : State → Option Diagnostic → State → Prop
  rest : ∀ state, Whole state none state
  step_of_whole : ∀ {before failure after}, Whole before failure after → Step before failure after
  fail : ∀ {failure : Diagnostic} state, failure.kind ≠ .nestingTooDeep →
    Step state (some failure) state
  tooDeep : ∀ {failure : Diagnostic} state, failure.kind = .nestingTooDeep →
    Step state (some failure) { state with limitFelt := true }
  step_trans : ∀ {before between failure after}, Step before none between →
    Step between failure after → Step before failure after
  beaten : ∀ {failure : Diagnostic} {before between after}, failure.kind ≠ .nestingTooDeep →
    Whole before (some failure) between → Whole between none after →
      Whole before none { after with noted := failure :: after.noted }
  deepest : ∀ {first second : Diagnostic} {before between after},
    first.kind ≠ .nestingTooDeep → second.kind ≠ .nestingTooDeep →
      Whole before (some first) between → Whole between (some second) after →
        Whole before (some (first.deepest second)) after
  dropped : ∀ {first second : Diagnostic} {before between after},
    first.kind ≠ .nestingTooDeep → second.kind = .nestingTooDeep →
      Whole before (some first) between → Whole between (some second) after →
        Whole before (some second) after
  guarded : ∀ {before failure between}, Step before.entered failure between →
    Step before failure between.left
  supervised : ∀ {before failure after}, Step before failure after →
    Whole before failure (after.meeting input failure.toList)
  recalled : ∀ {before stratum start entry},
    recalled? input before.memo stratum start = some entry →
      Step before (failure? entry.outcome)
        (State.meeting input entry.superseded.toList
          { before with noted := entry.superseded.toList ++ before.noted })
  isolated : ∀ {before failure between} memo,
    Step { before with noted := [], limitFelt := false } failure between →
      Step before failure
        { between with
          noted := between.superseded.toList ++ before.noted
          limitFelt := before.limitFelt || between.limitFelt
          memo }

namespace Habit

variable {input : Input} {α β : Type}

/-- A step of a rule that has a habit. -/
def Keeps (habit : Habit input) (attempt : Attempt α) : Prop :=
  ∀ before outcome after, attempt.run before = .ok outcome after →
    habit.Step before (failure? outcome) after

/-- A whole rule that has a habit. -/
def KeepsWhole (habit : Habit input) (attempt : Attempt α) : Prop :=
  ∀ before outcome after, attempt.run before = .ok outcome after →
    habit.Whole before (failure? outcome) after

namespace KeepsWhole

variable {habit : Habit input} {attempt : Attempt α} {next : α → Attempt β}

theorem keeps (whole : habit.KeepsWhole attempt) : habit.Keeps attempt :=
  fun before outcome after run => habit.step_of_whole (whole before outcome after run)

theorem pure {value : α} : habit.KeepsWhole (pure value : Attempt α) := by
  intro before outcome after run
  cases run
  exact habit.rest before

end KeepsWhole

namespace Keeps

variable {habit : Habit input} {attempt : Attempt α} {next : α → Attempt β}

theorem pure {value : α} : habit.Keeps (pure value : Attempt α) :=
  KeepsWhole.pure.keeps

theorem throw {failure : Diagnostic} (mild : failure.kind ≠ .nestingTooDeep) :
    habit.Keeps (throw failure : Attempt α) := by
  intro before outcome after run
  cases run
  exact habit.fail before mild

theorem abort {fault : Fault} :
    habit.Keeps (liftM (abort fault : Engine α) : Attempt α) := by
  intro before outcome after run
  cases run

theorem bind (first : habit.Keeps attempt) (second : ∀ value, habit.Keeps (next value)) :
    habit.Keeps (attempt >>= next) := by
  intro before outcome after run
  rcases bind_ok run with ⟨value, between, ran, rest⟩ | ⟨failure, failed, rfl⟩
  · exact habit.step_trans (first before _ between ran) (second value between outcome after rest)
  · exact first before _ after failed

theorem ite {test : Prop} [Decidable test] {other : Attempt α} (yes : habit.Keeps attempt)
    (no : habit.Keeps other) : habit.Keeps (if test then attempt else other) := by
  split
  · exact yes
  · exact no

end Keeps

theorem KeepsWhole.supervise {habit : Habit input} {start : Nat} {rule : Attempt (Match α)}
    (keeps : habit.Keeps rule) :
    habit.KeepsWhole (supervise input start rule) := by
  intro before outcome after run
  obtain ⟨between, ran, rfl⟩ := supervise_ok run
  exact habit.supervised (keeps before outcome between ran)

section Primitives

variable (habit : Habit input) {start : Nat}

theorem tokenAt : habit.Keeps (liftM (tokenAt input start) : Attempt Token) := by
  intro before outcome after run
  obtain ⟨token, looked, rfl⟩ := lift_ok run
  obtain ⟨-, rfl⟩ := tokenAt_ok looked
  exact habit.step_of_whole (habit.rest after)

theorem expect {kind : Kind} : habit.Keeps (expect input kind start) :=
  .ite .pure (.throw nofun)

theorem nestingTooDeep {levels : Nat} :
    habit.Keeps (Parser.tooDeep start levels : Attempt α) := by
  intro before outcome after run
  cases run
  exact habit.tooDeep before rfl

theorem guardedRule {rule : Attempt (Match α)} (keeps : habit.Keeps rule) :
    habit.Keeps (Parser.guarded input start rule) := by
  intro before outcome after run
  cases guarded_ok run with
  | refused => exact habit.tooDeep before rfl
  | admitted _ ran => exact habit.guarded (keeps _ _ _ ran)

theorem search {best : Diagnostic} {others : List (Attempt (Match α))} {before between : State}
    (mild : best.kind ≠ .nestingTooDeep) (failed : habit.Whole before (some best) between)
    (keeps : ∀ other ∈ others, habit.KeepsWhole other) {outcome : Outcome α} {after : State}
    (run : Choice.continueWith note best (others.map ExceptT.run) between = .ok outcome after) :
    habit.Whole before (failure? outcome) after := by
  induction others generalizing best between with
  | nil =>
      cases run
      exact failed
  | cons other others induction =>
      obtain ⟨answer, last, ran, ended⟩ := continueWith_ok run
      have answered := keeps other (by simp) between answer last ran
      cases answer with
      | ok found =>
          obtain ⟨rfl, rfl⟩ := ended
          exact habit.beaten mild failed answered
      | error failure =>
          unfold Searched at ended
          dsimp only at ended
          split at ended
          · rename_i deep
            obtain ⟨rfl, rfl⟩ := ended
            exact habit.dropped mild deep failed answered
          · rename_i failureMild
            apply induction (deepest_mild mild failureMild)
              (habit.deepest mild failureMild failed answered) _ ended
            intro other member
            exact keeps other (by simp [member])

theorem choice {first : Attempt (Match α)} {others : List (Attempt (Match α))}
    (firstKeeps : habit.KeepsWhole first) (keeps : ∀ other ∈ others, habit.KeepsWhole other) :
    habit.KeepsWhole (firstOf first others) := by
  intro before outcome after run
  rcases firstOf_ok run with ⟨only, -⟩ | ⟨failure, between, failed, mild, searched⟩
  · exact firstKeeps before outcome after only
  · exact habit.search mild (firstKeeps before _ between failed) keeps searched

theorem choice_pair {first second : Attempt (Match α)} (firstKeeps : habit.KeepsWhole first)
    (secondKeeps : habit.KeepsWhole second) : habit.KeepsWhole (firstOf first [second]) := by
  apply habit.choice firstKeeps
  simpa using secondKeeps

theorem remembered {stratum : Stratum} {compute : Attempt (Match Expr)}
    (keeps : habit.Keeps compute) : habit.Keeps (remembered input stratum start compute) := by
  intro before outcome after run
  rcases remembered_ok run with ⟨entry, recalled, rfl, rfl⟩ | ⟨between, -, computed, rfl⟩
  · exact habit.recalled recalled
  · exact habit.isolated _ (keeps _ outcome between computed)

theorem specifiers : habit.KeepsWhole (specifiers input start) :=
  .supervise (.bind habit.tokenAt fun _ => .ite (.throw nofun) .pure)

end Primitives

section Strata

variable (habit : Habit input) {nested : Nested} {start : Nat}

/-- Expressions that have a habit, from every start on. -/
def NestedKeeps (nested : Nested) : Prop :=
  ∀ stratum start, habit.KeepsWhole (nested stratum start)

variable {habit} (nestedKeeps : habit.NestedKeeps nested)

include nestedKeeps

theorem assignmentForm : habit.KeepsWhole (assignmentForm input nested start) := by
  refine .supervise (.bind (nestedKeeps .unary start).keeps fun target => ?_)
  split
  · exact .throw nofun
  · exact .bind (nestedKeeps .assignment _).keeps fun _ => .pure

omit nestedKeeps in
theorem climb {operand : Nat → Attempt (Match Expr)} (keeps : ∀ index, habit.Keeps (operand index))
    {fuel minLevel index : Nat} {left : Expr} :
    habit.Keeps (climb input operand fuel minLevel start left index) := by
  induction fuel generalizing minLevel start left index with
  | zero => exact .abort
  | succ fuel induction =>
      unfold Parser.climb
      split
      · exact .pure
      · exact .ite .pure (.bind (keeps _) fun _ => .bind induction fun _ => induction)

theorem binary {minLevel : Nat} : habit.KeepsWhole (binary input nested minLevel start) :=
  .supervise (.bind (nestedKeeps .cast start).keeps fun _ =>
    climb fun index => (nestedKeeps .cast index).keeps)

theorem castForm : habit.KeepsWhole (castForm input nested start) := by
  refine .supervise (.bind habit.specifiers.keeps fun types => .bind habit.expect fun _ => ?_)
  exact .bind (nestedKeeps .cast _).keeps fun _ => .pure

theorem argumentsFrom {fuel index : Nat} :
    habit.Keeps (argumentsFrom input nested fuel index) := by
  induction fuel generalizing index with
  | zero => exact .abort
  | succ fuel induction =>
      refine .bind (nestedKeeps .assignment index).keeps fun argument => ?_
      split
      · exact .pure
      · exact .bind induction fun _ => .pure
      · exact .throw nofun

theorem arguments : habit.KeepsWhole (arguments input nested start) :=
  .supervise (.ite .pure (argumentsFrom nestedKeeps))

theorem primary : habit.KeepsWhole (primary input nested start) := by
  refine .supervise (.bind habit.tokenAt fun token => ?_)
  dsimp only
  cases token.kind
  case identifier | stringLiteral => exact .pure
  case integerConstant | doubleConstant | charConstant =>
    cases token.constant with
    | number value => exact .pure
    | tooLarge => exact .abort
    | invalid => exact .throw fun deep => by cases deep
  case leftParen =>
    exact .bind (nestedKeeps .assignment _).keeps fun _ => .bind habit.expect fun _ => .pure
  all_goals exact .throw fun deep => by cases deep

theorem suffixes {fuel index : Nat} {node : Expr} :
    habit.Keeps (suffixes input nested fuel start node index) := by
  induction fuel generalizing node index with
  | zero => exact .abort
  | succ fuel induction =>
      unfold Parser.suffixes
      split
      · exact .bind (nestedKeeps .assignment _).keeps fun _ =>
          .bind habit.expect fun _ => induction
      · exact .bind (arguments nestedKeeps).keeps fun _ => induction
      · exact .pure

theorem suffixed : habit.KeepsWhole (suffixed input nested start) :=
  .supervise (.bind (primary nestedKeeps).keeps fun _ => suffixes nestedKeeps)

theorem expressionBody (stratum : Stratum) :
    habit.Keeps (expressionBody input nested stratum start) := by
  cases stratum with
  | assignment => exact (habit.choice_pair (assignmentForm nestedKeeps) (binary nestedKeeps)).keeps
  | cast =>
      refine .ite ?_ (nestedKeeps .unary start).keeps
      exact (habit.choice_pair (castForm nestedKeeps) (nestedKeeps .unary start)).keeps
  | unary =>
      unfold Parser.expressionBody
      dsimp only
      split
      · exact (suffixed nestedKeeps).keeps
      · exact .bind (nestedKeeps .cast _).keeps fun _ => .pure

end Strata

theorem expression (habit : Habit input) (budget : Nat) :
    habit.NestedKeeps (expression input budget) := by
  induction budget with
  | zero =>
      exact fun stratum start =>
        .supervise (habit.remembered (habit.guardedRule habit.nestingTooDeep))
  | succ budget induction =>
      exact fun stratum start => .supervise (habit.remembered
        (habit.guardedRule (expressionBody induction stratum)))

section Scans

/-- Scans never fail because of nesting. -/
def ScanMild (scanned : Scanned) : Prop :=
  ∀ failure, scanned = .ok (.error failure) → failure.kind ≠ .nestingTooDeep

theorem ScanMild.fault {fault : Fault} : ScanMild (.error fault) := by
  rintro failure ⟨⟩

theorem ScanMild.found {index : Nat} : ScanMild (.ok (.ok index)) := by
  rintro failure ⟨⟩

theorem ScanMild.failed {failure : Diagnostic} (mild : failure.kind ≠ .nestingTooDeep) :
    ScanMild (.ok (.error failure)) := by
  rintro other ⟨⟩
  exact mild

theorem scanForward_mild {stream : TokenStream} {fuel index : Nat} {opened : List Pending} :
    ScanMild (scanForward stream fuel opened index) := by
  induction fuel generalizing opened index with
  | zero => exact .fault
  | succ fuel induction =>
      unfold scanForward
      split
      · exact .fault
      · split
        · exact induction
        · split
          · exact .fault
          · split
            · exact .failed nofun
            · split
              · exact .found
              · exact induction
        · split
          · exact .fault
          · exact .failed nofun
        · exact induction

theorem findEndFrom_mild {fuel index : Nat} : ScanMild (findEndFrom input fuel index) := by
  induction fuel generalizing index with
  | zero => exact .fault
  | succ fuel induction =>
      unfold findEndFrom
      split
      · exact .fault
      · split
        · exact induction
        · split
          · split
            · exact induction
            · exact scanForward_mild
          · exact .found

theorem scanBackward_mild {stream : TokenStream} {close start count : Nat}
    {closed : List Pending} : ScanMild (scanBackward stream close start closed count) := by
  induction count generalizing closed with
  | zero => exact .failed nofun
  | succ count induction =>
      unfold scanBackward
      dsimp only
      split
      · exact .fault
      · split
        · exact induction
        · split
          · exact .fault
          · split
            · exact .failed nofun
            · split
              · exact .found
              · exact induction
        · exact induction

theorem attempt (habit : Habit input) {scanned : Scanned} (mild : ScanMild scanned) :
    habit.Keeps scanned.attempt := by
  unfold Scanned.attempt
  split
  · exact .abort
  · exact .throw (mild _ rfl)
  · exact .pure

end Scans

section Declarators

variable (habit : Habit input) {resolver : Resolver} {nested : Nested} {start : Nat}

/-- Shapes of declarators that have a habit. -/
def ResolverKeeps (resolver : Resolver) : Prop :=
  ∀ start stop, habit.KeepsWhole (resolver start stop)

variable {habit}

theorem declaratorAt (resolverKeeps : habit.ResolverKeeps resolver) :
    habit.KeepsWhole (declaratorAt input resolver start) := by
  refine .supervise (.bind (habit.attempt findEndFrom_mild) fun stop => ?_)
  exact .ite (.throw nofun) (.bind (resolverKeeps start stop).keeps fun _ => .pure)

theorem arraySize (nestedKeeps : habit.NestedKeeps nested) {opening closing : Nat} :
    habit.Keeps (arraySize nested opening closing) :=
  .ite .pure (.bind (nestedKeeps .assignment _).keeps fun _ => .ite .pure (.throw nofun))

theorem parametersFrom (resolverKeeps : habit.ResolverKeeps resolver) {closing fuel index : Nat} :
    habit.Keeps (parametersFrom input resolver closing fuel index) := by
  induction fuel generalizing index with
  | zero => exact .abort
  | succ fuel induction =>
      refine .bind habit.specifiers.keeps fun types => ?_
      refine .bind (declaratorAt resolverKeeps).keeps fun declarator => .ite .pure ?_
      exact .ite (.bind induction fun _ => .pure) (.throw nofun)

theorem parameters (resolverKeeps : habit.ResolverKeeps resolver) {opening closing : Nat} :
    habit.Keeps (parameters input resolver opening closing) :=
  .ite .pure (parametersFrom resolverKeeps)

theorem shape (resolverKeeps : habit.ResolverKeeps resolver)
    (nestedKeeps : habit.NestedKeeps nested) {stop : Nat} :
    habit.Keeps (shape input resolver nested start stop) := by
  refine .ite (.throw nofun) (.bind habit.tokenAt fun last => ?_)
  split
  · refine .bind (habit.attempt scanBackward_mild) fun opening => .ite (.throw nofun) ?_
    refine .bind (resolverKeeps start opening).keeps fun base => ?_
    split
    · exact .bind (arraySize nestedKeeps) fun _ => .pure
    · exact .bind (parameters resolverKeeps) fun _ => .pure
  · exact .ite .pure (.throw nofun)

theorem resolve (habit : Habit input) (budget : Nat) :
    habit.ResolverKeeps (resolve input budget) := by
  induction budget with
  | zero => exact fun start stop => .supervise (habit.guardedRule habit.nestingTooDeep)
  | succ budget induction =>
      exact fun start stop => .supervise
        (habit.guardedRule (shape induction (habit.expression budget)))

theorem declarator (habit : Habit input) (budget : Nat) :
    habit.KeepsWhole (declarator input budget start) :=
  declaratorAt (habit.resolve budget)

section Declarations

variable {declared : Nat → Attempt (Match Declarator)}

theorem initialValue (nestedKeeps : habit.NestedKeeps nested) :
    habit.Keeps (initialValue input nested start) :=
  .ite (.bind (nestedKeeps .assignment _).keeps fun _ => .pure) .pure

theorem initDeclarators (nestedKeeps : habit.NestedKeeps nested)
    (declaredKeeps : ∀ index, habit.KeepsWhole (declared index)) {fuel index : Nat} :
    habit.Keeps (initDeclarators input nested declared fuel index) := by
  induction fuel generalizing index with
  | zero => exact .abort
  | succ fuel induction =>
      refine .bind (declaredKeeps index).keeps fun declarator => ?_
      refine .bind (initialValue nestedKeeps) fun found => ?_
      exact .ite (.bind induction fun _ => .pure) .pure

theorem plainDeclaration (nestedKeeps : habit.NestedKeeps nested)
    (declaredKeeps : ∀ index, habit.KeepsWhole (declared index)) :
    habit.KeepsWhole (plainDeclaration input nested declared start) := by
  refine .supervise (.bind habit.specifiers.keeps fun types => ?_)
  refine .bind (.ite .pure (initDeclarators nestedKeeps declaredKeeps)) fun list => ?_
  exact .bind habit.expect fun _ => .pure

end Declarations

theorem declaration (habit : Habit input) (budget : Nat) :
    habit.KeepsWhole (declaration input budget start) :=
  plainDeclaration (habit.expression budget) fun _ => habit.declarator budget

end Declarators

section Statements

variable {habit : Habit input} {nested : Nested} {start : Nat}

theorem condition (nestedKeeps : habit.NestedKeeps nested) :
    habit.KeepsWhole (condition input nested start) := by
  refine .supervise (.bind habit.expect fun first => ?_)
  exact .bind (nestedKeeps .assignment first).keeps fun _ => .bind habit.expect fun _ => .pure

theorem returnStatement (nestedKeeps : habit.NestedKeeps nested) :
    habit.KeepsWhole (returnStatement input nested start) := by
  refine .supervise (.bind habit.expect fun afterWord => .ite .pure ?_)
  exact .bind (nestedKeeps .assignment afterWord).keeps fun _ => .ite .pure .pure

theorem wordStatement (habit : Habit input) {word : Kind} {build : Option Span → Statement} :
    habit.KeepsWhole (wordStatement input word build start) :=
  .supervise (.bind habit.expect fun _ => .bind habit.expect fun _ => .pure)

theorem emptyStatement (habit : Habit input) :
    habit.KeepsWhole (emptyStatement input start) :=
  .supervise (.bind habit.expect fun _ => .pure)

theorem expressionStatement (nestedKeeps : habit.NestedKeeps nested) :
    habit.KeepsWhole (expressionStatement input nested start) :=
  .supervise (.bind (nestedKeeps .assignment start).keeps fun _ =>
    .bind habit.expect fun _ => .pure)

end Statements

end Habit

end MiniC.Parser
