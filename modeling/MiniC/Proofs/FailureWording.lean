import MiniC.Proofs.Recovery
import MiniC.Proofs.Supervision

/-!
# Failures with a message of their own

The message of a failure follows from its kind and from what was expected, with
three exceptions: constructs that nest too deep, a definition whose declarator is
not that of a function, and a constant whose text is no numeral.  What is noted,
remembered, recovered from and reported is put together from such failures, so
that a message of its own always tells the truth about the token it refers to.
-/

namespace MiniC.Parser

/-- The kinds of constants that stand for a number. -/
def isNumericKind (kind : Kind) : Bool :=
  kind = .integerConstant || kind = .doubleConstant || kind = .charConstant

/-- The message about a constant whose text is no numeral. -/
def invalidConstantMessage (lexeme : String) : String :=
  s!"invalid numeric constant '{lexeme}'"

/-- Where the message of a failure comes from. -/
inductive Worded (input : Input) (failure : Diagnostic) : Prop
  | plainly (plain : failure.detail = none)
  | tooDeep {levels : Nat} (within : levels ≤ input.options.maxNesting)
      (detail : failure.detail = some s!"nesting deeper than {levels} levels")
  | notFunction (detail : failure.detail =
      some "function definition requires a function declarator")
  | constant {index : Nat} {token : Token} (position : failure.position = index)
      (found : input.stream.get? index = some token) (numeric : isNumericKind token.kind = true)
      (invalid : token.constant = .invalid)
      (detail : failure.detail = some (invalidConstantMessage token.lexeme))

/-- All failures of an outcome that is remembered, noted or answered are worded. -/
def WordedIn {α : Type} (input : Input) (Post : α → Prop) : Except Diagnostic α → Prop
  | .ok value => Post value
  | .error failure => Worded input failure

/-- A state in which all failures that are noted or remembered are worded. -/
structure WordedState (input : Input) (state : State) : Prop where
  noted : ∀ failure ∈ state.noted, Worded input failure
  outcome : ∀ stratum start entry, state.memo.find? stratum start = some entry →
    WordedIn input (fun _ => True) entry.outcome
  superseded : ∀ stratum start entry, state.memo.find? stratum start = some entry →
    ∀ failure ∈ entry.superseded, Worded input failure

/-- A step of a rule that words its failures, with what is known of its value. -/
def Words {α : Type} (input : Input) (attempt : Attempt α) (Post : α → Prop) : Prop :=
  ∀ before outcome after, WordedState input before → attempt.run before = .ok outcome after →
    WordedState input after ∧ WordedIn input Post outcome

/-- A rule that words its failures, also those that it has recovered from. -/
def WordsAll {α : Type} (input : Input) (rule : Attempt (Match α)) : Prop :=
  Words input rule fun found => ∀ failure ∈ found.recovered, Worded input failure

namespace Worded

variable {input : Input} {first second : Diagnostic}

theorem missing {position : Int} {expectation : Expectation} {others : List Expectation} :
    Worded input (.missing position expectation others) :=
  .plainly rfl

theorem deepest (firstWorded : Worded input first) (secondWorded : Worded input second) :
    Worded input (first.deepest second) := by
  have merged : Worded input (first.merge second) := by
    unfold Diagnostic.merge Diagnostic.merge?
    split
    · split
      · exact firstWorded
      · exact .plainly rfl
    · exact firstWorded
  unfold Diagnostic.deepest
  split
  · exact secondWorded
  · split
    · exact firstWorded
    · exact merged

theorem describeAt {start : Nat} {description : String} (worded : Worded input first) :
    Worded input (describeAt start description first) := by
  unfold Parser.describeAt
  split
  · exact missing
  · exact worded

theorem deepestNoted {noted : List Diagnostic} (all : ∀ failure ∈ noted, Worded input failure) :
    ∀ failure ∈ deepestNoted noted, Worded input failure := by
  induction noted with
  | nil => simp [Parser.deepestNoted]
  | cons latest earlier induction =>
      obtain ⟨latestWorded, earlierWorded⟩ := List.forall_mem_cons.mp all
      intro failure found
      rw [Parser.deepestNoted, Option.mem_some_iff] at found
      cases known : Parser.deepestNoted earlier with
      | none =>
          rw [known] at found
          exact found ▸ latestWorded
      | some best =>
          rw [known] at found
          exact found ▸ (induction earlierWorded best known).deepest latestWorded

theorem itemFailure {index : Nat} {description : String} {failure : Diagnostic}
    {superseded : Option Diagnostic} (worded : Worded input failure)
    (others : ∀ other ∈ superseded, Worded input other) :
    Worded input (itemFailure index description failure superseded) := by
  unfold Parser.itemFailure
  apply describeAt
  split
  next other =>
    split
    · exact worded
    · exact worded.deepest (others other rfl)
  next => exact worded

end Worded

namespace WordedState

variable {input : Input} {before after : State}

theorem of_same (worded : WordedState input before) (notedEq : after.noted = before.noted)
    (memoEq : after.memo = before.memo) : WordedState input after where
  noted := notedEq ▸ worded.noted
  outcome := memoEq ▸ worded.outcome
  superseded := memoEq ▸ worded.superseded

theorem noting (worded : WordedState input before) (added : List Diagnostic)
    (all : ∀ failure ∈ added, Worded input failure) (notedEq : after.noted = added ++ before.noted)
    (memoEq : after.memo = before.memo) : WordedState input after where
  noted := by
    rw [notedEq, List.forall_mem_append]
    exact ⟨all, worded.noted⟩
  outcome := memoEq ▸ worded.outcome
  superseded := memoEq ▸ worded.superseded

/-- A computation on its own starts with nothing noted, and what was noted comes back. -/
theorem renoted (worded : WordedState input before) {noted : List Diagnostic}
    (all : ∀ failure ∈ noted, Worded input failure) (notedEq : after.noted = noted)
    (memoEq : after.memo = before.memo) : WordedState input after where
  noted := notedEq ▸ all
  outcome := memoEq ▸ worded.outcome
  superseded := memoEq ▸ worded.superseded

theorem inserted (worded : WordedState input before) (stratum : Stratum) (start : Nat)
    {outcome : Outcome Expr} {superseded : Option Diagnostic}
    (answer : WordedIn input (fun _ => True) outcome)
    (others : ∀ failure ∈ superseded, Worded input failure) :
    WordedState input
      { before with memo := before.memo.insert stratum start ⟨outcome, superseded⟩ } where
  noted := worded.noted
  outcome := by
    intro other place entry found
    rw [Memo.find?_insert] at found
    split at found
    · cases found
      exact answer
    · exact worded.outcome other place entry found
  superseded := by
    intro other place entry found
    rw [Memo.find?_insert] at found
    split at found
    · cases found
      exact others
    · exact worded.superseded other place entry found

end WordedState

namespace Words

variable {α β : Type} {input : Input} {attempt : Attempt α} {next : α → Attempt β} {P : α → Prop}
  {Q : β → Prop} {start : Nat}

theorem pure {value : α} (post : P value) : Words input (pure value : Attempt α) P := by
  intro before outcome after worded run
  cases run
  exact ⟨worded, post⟩

theorem throw {failure : Diagnostic} (failed : Worded input failure) :
    Words input (throw failure : Attempt α) P := by
  intro before outcome after worded run
  cases run
  exact ⟨worded, failed⟩

theorem abort {fault : Fault} : Words input (liftM (abort fault : Engine α) : Attempt α) P := by
  intro before outcome after worded run
  cases run

theorem bind (first : Words input attempt P)
    (second : ∀ value, P value → Words input (next value) Q) :
    Words input (attempt >>= next) Q := by
  intro before outcome after worded run
  rcases bind_ok run with ⟨value, between, ran, rest⟩ | ⟨failure, ran, rfl⟩
  · obtain ⟨kept, post⟩ := first before _ between worded ran
    exact second value post between outcome after kept rest
  · exact first before _ after worded ran

theorem andThen (first : Words input attempt P) (second : ∀ value, Words input (next value) Q) :
    Words input (attempt >>= next) Q :=
  bind first fun value _ => second value

theorem ite {test : Prop} [Decidable test] {other : Attempt α} (yes : Words input attempt P)
    (no : Words input other P) : Words input (if test then attempt else other) P := by
  split
  · exact yes
  · exact no

theorem tokenAt : Words input (liftM (tokenAt input start) : Attempt Token)
    fun token => input.stream.get? start = some token := by
  intro before outcome after worded run
  obtain ⟨token, looked, rfl⟩ := lift_ok run
  obtain ⟨found, rfl⟩ := tokenAt_ok looked
  exact ⟨worded, found⟩

theorem expect {kind : Kind} :
    Words input (expect input kind start) fun _ => input.kindAt start = kind := by
  unfold Parser.expect
  split
  next expected => exact .pure expected
  next => exact .throw .missing

theorem tooDeep {levels : Nat} (within : levels ≤ input.options.maxNesting) :
    Words input (Parser.tooDeep start levels : Attempt α) P := by
  intro before outcome after worded run
  cases run
  exact ⟨worded.of_same rfl rfl, .tooDeep within rfl⟩

theorem guarded {rule : Attempt (Match α)} {Post : Match α → Prop}
    (words : Words input rule Post) : Words input (guarded input start rule) Post := by
  intro before outcome after worded run
  cases guarded_ok run with
  | refused refuses =>
      exact ⟨worded.of_same rfl rfl, .tooDeep (refusal?_le refuses) rfl⟩
  | admitted _ ran =>
      obtain ⟨kept, post⟩ := words before.entered outcome _ (worded.of_same rfl rfl) ran
      exact ⟨kept.of_same rfl rfl, post⟩

theorem describe {description : String} (words : Words input attempt P) :
    Words input
      (tryCatch attempt fun failure => MonadExcept.throw (describeAt start description failure))
      P := by
  intro before outcome after worded run
  obtain ⟨answer, ran, rfl⟩ := describe_ok run
  obtain ⟨kept, post⟩ := words before answer after worded ran
  refine ⟨kept, ?_⟩
  cases answer with
  | ok value => exact post
  | error failure => exact Worded.describeAt post

theorem supervise {rule : Attempt (Match α)} {Post : Match α → Prop}
    (words : Words input rule Post) : Words input (supervise input start rule) Post := by
  intro before outcome after worded run
  obtain ⟨between, ran, rfl⟩ := supervise_ok run
  obtain ⟨kept, post⟩ := words before outcome between worded ran
  exact ⟨kept.of_same (by simp) (by simp), post⟩

theorem search {best : Diagnostic} {others : List (Attempt (Match α))} {Post : Match α → Prop}
    (words : ∀ other ∈ others, Words input other Post) (known : Worded input best)
    {before after : State} {outcome : Outcome α} (worded : WordedState input before)
    (run : Choice.continueWith note best (others.map ExceptT.run) before = .ok outcome after) :
    WordedState input after ∧ WordedIn input Post outcome := by
  induction others generalizing best before with
  | nil =>
      cases run
      exact ⟨worded, known⟩
  | cons other others induction =>
      obtain ⟨answer, between, ran, ended⟩ := continueWith_ok run
      obtain ⟨otherWords, laterWords⟩ := List.forall_mem_cons.mp words
      obtain ⟨kept, post⟩ := otherWords before answer between worded ran
      cases answer with
      | ok found =>
          obtain ⟨rfl, rfl⟩ := ended
          exact ⟨kept.noting [best] (by simpa using known) rfl rfl, post⟩
      | error failure =>
          unfold Searched at ended
          dsimp only at ended
          split at ended
          · obtain ⟨rfl, rfl⟩ := ended
            exact ⟨kept, post⟩
          · exact induction laterWords (known.deepest post) kept ended

theorem firstOf {first : Attempt (Match α)} {others : List (Attempt (Match α))}
    {Post : Match α → Prop} (firstWords : Words input first Post)
    (words : ∀ other ∈ others, Words input other Post) :
    Words input (firstOf first others) Post := by
  intro before outcome after worded run
  rcases firstOf_ok run with ⟨only, -⟩ | ⟨failure, between, failed, -, searched⟩
  · exact firstWords before outcome after worded only
  · obtain ⟨kept, known⟩ := firstWords before _ between worded failed
    exact search words known kept searched

theorem firstOf_pair {first second : Attempt (Match α)} {Post : Match α → Prop}
    (firstWords : Words input first Post) (secondWords : Words input second Post) :
    Words input (Parser.firstOf first [second]) Post :=
  firstOf firstWords (by simpa using secondWords)

theorem remembered {stratum : Stratum} {compute : Attempt (Match Expr)}
    (words : Words input compute fun _ => True) :
    Words input (remembered input stratum start compute) fun _ => True := by
  intro before outcome after worded run
  rcases remembered_ok run with ⟨entry, recalled, rfl, rfl⟩ | ⟨between, -, ran, rfl⟩
  · have found : before.memo.find? stratum start = some entry := by
      unfold recalled? at recalled
      split at recalled
      · exact recalled
      · cases recalled
    refine ⟨worded.noting entry.superseded.toList ?_ (by simp) (by simp),
      worded.outcome stratum start entry found⟩
    simpa using worded.superseded stratum start entry found
  · have alone : WordedState input { before with noted := [], limitFelt := false } :=
      worded.renoted (by simp) rfl rfl
    obtain ⟨kept, answer⟩ := words _ outcome between alone ran
    have others : ∀ failure ∈ between.superseded, Worded input failure :=
      Worded.deepestNoted kept.noted
    have noted : ∀ failure ∈ between.superseded.toList ++ before.noted, Worded input failure := by
      rw [List.forall_mem_append]
      exact ⟨by simpa using others, worded.noted⟩
    refine ⟨?_, answer⟩
    by_cases felt : between.limitFelt = true
    · exact kept.renoted noted rfl (by simp [felt])
    · exact (kept.inserted stratum start answer others).renoted noted rfl
        (by simp [felt])

end Words

/-! ## Expressions -/

section Strata

variable {input : Input} {nested : Nested} {start : Nat}

theorem specifiers_words : Words input (specifiers input start) fun _ => True :=
  .supervise (.andThen .tokenAt fun _ => .ite (.throw .missing) (.pure trivial))

/-- Expressions whose failures are worded, from every start on. -/
def NestedWords (input : Input) (nested : Nested) : Prop :=
  ∀ stratum start, Words input (nested stratum start) fun _ => True

variable (nestedWords : NestedWords input nested)

include nestedWords

theorem assignmentForm_words : Words input (assignmentForm input nested start) fun _ => True := by
  refine .supervise (.andThen (nestedWords .unary start) fun target => ?_)
  split
  · exact .throw .missing
  · exact .andThen (nestedWords .assignment _) fun _ => .pure trivial

omit nestedWords in
theorem climb_words {operand : Nat → Attempt (Match Expr)}
    (words : ∀ index, Words input (operand index) fun _ => True) {fuel minLevel index : Nat}
    {left : Expr} :
    Words input (climb input operand fuel minLevel start left index) fun _ => True := by
  induction fuel generalizing minLevel start left index with
  | zero => exact .abort
  | succ fuel induction =>
      unfold climb
      split
      · exact .pure trivial
      · refine .ite (.pure trivial) (.andThen (words _) fun _ => ?_)
        exact .andThen induction fun _ => induction

theorem binary_words {minLevel : Nat} :
    Words input (binary input nested minLevel start) fun _ => True :=
  .supervise (.andThen (nestedWords .cast start) fun _ => climb_words (nestedWords .cast))

theorem castForm_words : Words input (castForm input nested start) fun _ => True := by
  refine .supervise (.andThen specifiers_words fun types => .andThen .expect fun _ => ?_)
  exact .andThen (nestedWords .cast _) fun _ => .pure trivial

theorem argumentsFrom_words {fuel index : Nat} :
    Words input (argumentsFrom input nested fuel index) fun _ => True := by
  induction fuel generalizing index with
  | zero => exact .abort
  | succ fuel induction =>
      refine .andThen (nestedWords .assignment index) fun argument => ?_
      split
      · exact .pure trivial
      · exact .andThen induction fun _ => .pure trivial
      · exact .throw .missing

theorem arguments_words : Words input (arguments input nested start) fun _ => True :=
  .supervise (.ite (.pure trivial) (argumentsFrom_words nestedWords))

omit nestedWords in
theorem constant_words {token : Token} {span : Option Span}
    (found : input.stream.get? start = some token) (numeric : isNumericKind token.kind = true) :
    Words input
      (match token.constant with
        | .number value => (pure { node := .number span value, stop := start + 1 } :
            Attempt (Match Expr))
        | .tooLarge => abort .constantTooLarge
        | .invalid =>
            throw (.failure .expectedExpression start none
              (some s!"invalid numeric constant '{token.lexeme}'")))
      fun _ => True := by
  cases value : token.constant with
  | number value => exact .pure trivial
  | tooLarge => exact .abort
  | invalid => exact .throw (.constant rfl found numeric value rfl)

theorem primary_words : Words input (primary input nested start) fun _ => True := by
  refine .supervise (.bind .tokenAt fun token found => ?_)
  dsimp only
  cases kind : token.kind
  case identifier | stringLiteral => exact .pure trivial
  case integerConstant | doubleConstant | charConstant =>
    exact constant_words found (by simp [isNumericKind, kind])
  case leftParen =>
    refine .andThen (nestedWords .assignment _) fun _ => .andThen .expect fun _ => ?_
    exact .pure trivial
  all_goals exact .throw (.plainly rfl)

theorem suffixes_words {fuel index : Nat} {node : Expr} :
    Words input (suffixes input nested fuel start node index) fun _ => True := by
  induction fuel generalizing node index with
  | zero => exact .abort
  | succ fuel induction =>
      unfold suffixes
      split
      · exact .andThen (nestedWords .assignment _) fun _ => .andThen .expect fun _ => induction
      · exact .andThen (arguments_words nestedWords) fun _ => induction
      · exact .pure trivial

theorem suffixed_words : Words input (suffixed input nested start) fun _ => True :=
  .supervise (.andThen (primary_words nestedWords) fun _ => suffixes_words nestedWords)

theorem expressionBody_words (stratum : Stratum) :
    Words input (expressionBody input nested stratum start) fun _ => True := by
  cases stratum with
  | assignment => exact .firstOf_pair (assignmentForm_words nestedWords) (binary_words nestedWords)
  | cast =>
      refine .ite (.firstOf_pair (castForm_words nestedWords) ?_) ?_
      · exact nestedWords .unary start
      · exact nestedWords .unary start
  | unary =>
      unfold expressionBody
      dsimp only
      split
      · exact suffixed_words nestedWords
      · exact .andThen (nestedWords .cast _) fun _ => .pure trivial

end Strata

theorem expression_words (input : Input) (budget : Nat) :
    NestedWords input (expression input budget) := by
  induction budget with
  | zero =>
      exact fun stratum start => .supervise (.remembered (.guarded (.tooDeep (Nat.le_refl _))))
  | succ budget induction =>
      exact fun stratum start => .supervise
        (.remembered (.guarded (expressionBody_words induction stratum)))

/-! ## Declarators -/

section Declarators

variable {input : Input} {resolver : Resolver} {start : Nat}

/-- A scan fails without a message of its own. -/
def ScanPlain (scanned : Scanned) : Prop :=
  ∀ failure, scanned = .ok (.error failure) → failure.detail = none

theorem scanForward_undetailed {stream : TokenStream} {fuel index : Nat} {opened : List Pending} :
    ScanPlain (scanForward stream fuel opened index) := by
  intro failure failed
  fun_induction scanForward stream fuel opened index <;> grind [Diagnostic.failure]

theorem findEndFrom_undetailed {fuel index : Nat} : ScanPlain (findEndFrom input fuel index) := by
  intro failure failed
  fun_induction findEndFrom input fuel index <;>
    grind [ScanPlain, matchForward, scanForward_undetailed]

theorem scanBackward_undetailed {stream : TokenStream} {close first count : Nat}
    {closed : List Pending} : ScanPlain (scanBackward stream close first closed count) := by
  intro failure failed
  fun_induction scanBackward stream close first closed count <;> grind [Diagnostic.failure]

theorem attempt_words {scanned : Scanned} (plain : ScanPlain scanned) :
    Words input scanned.attempt fun _ => True := by
  unfold Scanned.attempt
  split
  · exact .abort
  · exact .throw (.plainly (plain _ rfl))
  · exact .pure trivial

/-- Shapes of declarators whose failures are worded. -/
def ResolverWords (input : Input) (resolver : Resolver) : Prop :=
  ∀ start stop, Words input (resolver start stop) fun _ => True

theorem declaratorAt_words (resolverWords : ResolverWords input resolver) :
    Words input (declaratorAt input resolver start) fun _ => True := by
  refine .supervise (.andThen (attempt_words findEndFrom_undetailed) fun stop => ?_)
  refine .ite (.throw (.plainly rfl)) (.andThen (resolverWords start stop) fun _ => ?_)
  exact .pure trivial

theorem arraySize_words {nested : Nested} (nestedWords : NestedWords input nested)
    {opening closing : Nat} : Words input (arraySize nested opening closing) fun _ => True := by
  refine .ite (.pure trivial) (.andThen (nestedWords .assignment _) fun _ => ?_)
  exact .ite (.pure trivial) (.throw .missing)

theorem parametersFrom_words (resolverWords : ResolverWords input resolver)
    {closing fuel index : Nat} :
    Words input (parametersFrom input resolver closing fuel index) fun _ => True := by
  induction fuel generalizing index with
  | zero => exact .abort
  | succ fuel induction =>
      refine .andThen specifiers_words fun types => ?_
      refine .andThen (declaratorAt_words resolverWords) fun declarator => ?_
      refine .ite (.pure trivial) (.ite (.andThen induction fun _ => .pure trivial) ?_)
      exact .throw .missing

theorem parameters_words (resolverWords : ResolverWords input resolver) {opening closing : Nat} :
    Words input (parameters input resolver opening closing) fun _ => True :=
  .ite (.pure trivial) (parametersFrom_words resolverWords)

theorem shape_words {nested : Nested} (resolverWords : ResolverWords input resolver)
    (nestedWords : NestedWords input nested) {stop : Nat} :
    Words input (shape input resolver nested start stop) fun _ => True := by
  refine .ite (.throw (.plainly rfl)) (.andThen .tokenAt fun last => ?_)
  split
  · refine .andThen (attempt_words scanBackward_undetailed) fun opening => ?_
    refine .ite (.throw (.plainly rfl)) (.andThen (resolverWords start opening) fun base => ?_)
    split
    · exact .andThen (arraySize_words nestedWords) fun _ => .pure trivial
    · exact .andThen (parameters_words resolverWords) fun _ => .pure trivial
  · exact .ite (.pure trivial) (.throw (.plainly rfl))

theorem resolve_words (budget : Nat) : ResolverWords input (resolve input budget) := by
  induction budget with
  | zero => exact fun start stop => .supervise (.guarded (.tooDeep (Nat.le_refl _)))
  | succ budget induction =>
      exact fun start stop => .supervise
        (.guarded (shape_words induction (expression_words input budget)))

theorem declarator_words (budget : Nat) :
    Words input (declarator input budget start) fun _ => True :=
  declaratorAt_words (resolve_words budget)

end Declarators

/-! ## Declarations and statements -/

section Declarations

variable {input : Input} {nested : Nested} {declared : Nat → Attempt (Match Declarator)}
  {start : Nat}

theorem initialValue_words (nestedWords : NestedWords input nested) :
    Words input (initialValue input nested start) fun _ => True :=
  .ite (.andThen (nestedWords .assignment _) fun _ => .pure trivial) (.pure trivial)

theorem initDeclarators_words (nestedWords : NestedWords input nested)
    (declaredWords : ∀ index, Words input (declared index) fun _ => True) {fuel index : Nat} :
    Words input (initDeclarators input nested declared fuel index) fun _ => True := by
  induction fuel generalizing index with
  | zero => exact .abort
  | succ fuel induction =>
      refine .andThen (declaredWords index) fun first => ?_
      refine .andThen (initialValue_words nestedWords) fun found => ?_
      exact .ite (.andThen induction fun _ => .pure trivial) (.pure trivial)

theorem plainDeclaration_words (nestedWords : NestedWords input nested)
    (declaredWords : ∀ index, Words input (declared index) fun _ => True) :
    WordsAll input (plainDeclaration input nested declared start) := by
  refine .supervise (.andThen specifiers_words fun types => ?_)
  refine .andThen (P := fun _ => True)
    (.ite (.pure trivial) (initDeclarators_words nestedWords declaredWords)) fun list => ?_
  exact .andThen .expect fun _ => .pure (by simp)

theorem definition_words {bodies : Nat → Attempt (Match Block)}
    (declaredWords : ∀ index, Words input (declared index) fun _ => True)
    (bodiesWords : ∀ index, WordsAll input (bodies index)) :
    WordsAll input (definition input declared bodies start) := by
  refine .supervise (.andThen specifiers_words fun types => ?_)
  refine .andThen (declaredWords _) fun first => .ite ?_ (.throw (.notFunction rfl))
  exact .bind (bodiesWords _) fun body recovered => .pure recovered

theorem declaration_words (budget : Nat) : WordsAll input (declaration input budget start) :=
  plainDeclaration_words (expression_words input budget) fun _ => declarator_words budget

end Declarations

section Statements

variable {input : Input} {start : Nat}

theorem Rounds.words {α : Type} {item : Nat → Attempt (Match α)} {description : String}
    {limit index : Nat} {before after : State} {found : Match (List α)}
    (words : ∀ index, WordsAll input (item index))
    (rounds : Rounds input item description limit index before found after)
    (worded : WordedState input before) :
    WordedState input after ∧ ∀ failure ∈ found.recovered, Worded input failure := by
  induction rounds with
  | done => exact ⟨worded, by simp⟩
  | full => exact ⟨worded.of_same rfl rfl, by simp⟩
  | @kept index state between last found rest more below run tail induction =>
      have alone : WordedState input { state with noted := [] } := worded.renoted (by simp) rfl rfl
      obtain ⟨kept, recovered⟩ := words index _ _ between alone run
      obtain ⟨ended, others⟩ := induction (kept.renoted worded.noted rfl rfl)
      exact ⟨ended, List.forall_mem_append.mpr ⟨recovered, others⟩⟩
  | @skipped index resume state between last failure rest more below run ahead inside beyond tail
      induction =>
      have alone : WordedState input { state with noted := [] } := worded.renoted (by simp) rfl rfl
      obtain ⟨kept, failed⟩ := words index _ _ between alone run
      obtain ⟨ended, others⟩ := induction (kept.renoted worded.noted rfl rfl)
      have recorded : Worded input (itemFailure index description failure between.superseded) :=
        Worded.itemFailure failed (Worded.deepestNoted kept.noted)
      exact ⟨ended, List.forall_mem_cons.mpr ⟨recorded, others⟩⟩

variable {nested : Nested} {inner : Nat → Attempt (Match Statement)}
  {declarations : Nat → Attempt (Match Declaration)}

theorem blockItem_words (innerWords : ∀ start, WordsAll input (inner start))
    (declarationWords : ∀ start, WordsAll input (declarations start)) :
    WordsAll input (blockItem inner declarations start) :=
  .firstOf_pair (.bind (declarationWords start) fun _ recovered => .pure recovered)
    (innerWords start)

theorem compound_words (innerWords : ∀ start, WordsAll input (inner start))
    (declarationWords : ∀ start, WordsAll input (declarations start)) :
    WordsAll input (compound input inner declarations start) := by
  have loop {first : Nat} (opens : input.kindAt start = .leftBrace) : Words input
      (liftM (items input (blockItem inner declarations) "declaration or statement" first
        (matchingBrace input start)) : Attempt (Match (List Statement)))
      fun found => ∀ failure ∈ found.recovered, Worded input failure := by
    have before : start < input.stream.lastIndex :=
      TokenStream.lt_lastIndex_of_kindAt_eq opens (by decide)
    intro state outcome after worded run
    obtain ⟨found, ran, rfl⟩ := lift_ok run
    rw [matchingBrace_eq opens] at ran
    have rounds := itemsFrom_rounds (blockEnd_le before) ran
    exact rounds.words (fun _ => blockItem_words innerWords declarationWords) worded
  refine .supervise (.bind .expect fun first opens => .bind (loop opens) fun list recovered => ?_)
  refine .ite (.pure recovered) (.pure ?_)
  exact List.forall_mem_append.mpr ⟨recovered, by simpa using Worded.missing⟩

variable (nestedWords : NestedWords input nested)

include nestedWords

theorem condition_words : Words input (condition input nested start) fun _ => True := by
  refine .supervise (.andThen .expect fun first => ?_)
  exact .andThen (nestedWords .assignment first) fun _ => .andThen .expect fun _ => .pure trivial

theorem ifStatement_words (innerWords : ∀ start, WordsAll input (inner start)) :
    WordsAll input (ifStatement input nested inner start) := by
  refine .supervise (.andThen .expect fun _ => .andThen (condition_words nestedWords) fun _ => ?_)
  refine .bind (innerWords _) fun thenBranch recovered => .ite ?_ (.pure recovered)
  refine .bind (innerWords _) fun elseBranch others => .pure ?_
  exact List.forall_mem_append.mpr ⟨recovered, others⟩

theorem whileStatement_words (innerWords : ∀ start, WordsAll input (inner start)) :
    WordsAll input (whileStatement input nested inner start) := by
  refine .supervise (.andThen .expect fun _ => .andThen (condition_words nestedWords) fun _ => ?_)
  exact .bind (innerWords _) fun body recovered => .pure recovered

theorem returnStatement_words : WordsAll input (returnStatement input nested start) := by
  refine .supervise (.andThen .expect fun afterWord => .ite (.pure (by simp)) ?_)
  refine .andThen (nestedWords .assignment afterWord) fun _ => .ite (.pure (by simp)) (.pure ?_)
  simpa using Worded.missing

omit nestedWords in
theorem wordStatement_words {word : Kind} {build : Option Span → Statement} :
    WordsAll input (wordStatement input word build start) :=
  .supervise (.andThen .expect fun _ => .andThen .expect fun _ => .pure (by simp))

omit nestedWords in
theorem emptyStatement_words : WordsAll input (emptyStatement input start) :=
  .supervise (.andThen .expect fun _ => .pure (by simp))

theorem expressionStatement_words : WordsAll input (expressionStatement input nested start) := by
  refine .supervise (.andThen (nestedWords .assignment start) fun _ => ?_)
  exact .andThen .expect fun _ => .pure (by simp)

theorem statementBody_words (innerWords : ∀ start, WordsAll input (inner start))
    (declarationWords : ∀ start, WordsAll input (declarations start)) :
    WordsAll input (statementBody input nested inner declarations start) := by
  refine .describe (.firstOf (ifStatement_words nestedWords innerWords) ?_)
  simp only [List.mem_cons, List.not_mem_nil, or_false, forall_eq_or_imp, forall_eq]
  refine ⟨whileStatement_words nestedWords innerWords, returnStatement_words nestedWords,
    wordStatement_words, wordStatement_words, ?_, emptyStatement_words,
    expressionStatement_words nestedWords⟩
  exact .bind (compound_words innerWords declarationWords) fun _ recovered => .pure recovered

omit nestedWords in
theorem statement_words (budget : Nat) : WordsAll input (statement input budget start) := by
  induction budget generalizing start with
  | zero => exact .supervise (.guarded (.tooDeep (Nat.le_refl _)))
  | succ budget induction =>
      exact .supervise (.guarded (statementBody_words (expression_words input budget)
        (fun _ => induction) fun _ => declaration_words budget))

omit nestedWords in
theorem functionDefinition_words (budget : Nat) :
    WordsAll input (functionDefinition input budget start) :=
  definition_words (fun _ => declarator_words budget) fun _ =>
    compound_words (fun _ => statement_words budget) fun _ => declaration_words budget

omit nestedWords in
theorem unitItem_words : WordsAll input (unitItem input start) :=
  .firstOf_pair (declaration_words _) (functionDefinition_words _)

end Statements

/-! ## Messages about constants -/

theorem invalidConstantMessage_eq (lexeme : String) :
    invalidConstantMessage lexeme = "invalid numeric constant '" ++ (lexeme ++ "'") := by
  rw [← String.append_assoc]
  rfl

/-- The message about a constant begins in its own way. -/
theorem take_invalidConstantMessage (lexeme : String) :
    (invalidConstantMessage lexeme).toList.take 9 = "invalid n".toList := by
  rw [invalidConstantMessage_eq, String.toList_append, List.take_append_of_le_length (by decide)]
  decide

/-- A message that begins otherwise is not about a constant. -/
theorem ne_invalidConstantMessage (front rest : String) {lexeme : String}
    (long : 9 ≤ front.toList.length) (other : front.toList.take 9 ≠ "invalid n".toList) :
    front ++ rest ≠ invalidConstantMessage lexeme := by
  intro same
  have opening := congrArg (fun text : String => text.toList.take 9) same
  simp only [String.toList_append, List.take_append_of_le_length long,
    take_invalidConstantMessage] at opening
  exact other opening

/-- A message that follows from the kind of its failure is not about a constant. -/
theorem message_of_plain {failure : Diagnostic} {lexeme : String} (plain : failure.detail = none) :
    failure.message ≠ invalidConstantMessage lexeme := by
  have own : failure.ownMessage? = none := by
    rw [Diagnostic.ownMessage?, plain]
    rfl
  rw [Diagnostic.message, own]
  dsimp only
  cases failure.kind with
  | expectedToken =>
      dsimp only
      split
      next single _ => exact ne_invalidConstantMessage "expected " _ (by decide) (by decide)
      next several _ =>
        exact ne_invalidConstantMessage "expected one of " _ (by decide) (by decide)
  | mismatchedDelimiter =>
      exact ne_invalidConstantMessage "mismatched delimiter" "" (by decide) (by decide)
  | invalidDeclarator =>
      exact ne_invalidConstantMessage "invalid declarator" "" (by decide) (by decide)
  | expectedExpression =>
      exact ne_invalidConstantMessage "expected expression" "" (by decide) (by decide)
  | nestingTooDeep =>
      exact ne_invalidConstantMessage "nesting too deep" "" (by decide) (by decide)

theorem message_of_detail {failure : Diagnostic} {text : String}
    (detail : failure.detail = some text) (filled : text.isEmpty = false) :
    failure.message = text := by
  have own : failure.ownMessage? = some text := by
    simp [Diagnostic.ownMessage?, detail, filled]
  rw [Diagnostic.message, own]

/-- A failure whose message is about a constant names the constant that it refers to, which
cannot be read. -/
theorem Worded.of_message {input : Input} {failure : Diagnostic} {lexeme : String}
    (worded : Worded input failure) (same : failure.message = invalidConstantMessage lexeme) :
    ∃ (index : Nat) (token : Token), failure.position = index ∧
      input.stream.get? index = some token ∧ isNumericKind token.kind = true ∧
      token.constant = .invalid ∧ failure.message = invalidConstantMessage token.lexeme := by
  cases worded with
  | plainly plain => exact absurd same (message_of_plain plain)
  | @tooDeep levels _ detail =>
      have shown : failure.message =
          "nesting deeper than " ++ (toString levels ++ " levels") := by
        rw [message_of_detail detail (by simp), ← String.append_assoc]
        rfl
      exact absurd (shown.symm.trans same) (ne_invalidConstantMessage _ _ (by decide) (by decide))
  | notFunction detail =>
      have shown : failure.message = "function definition requires a function declarator" ++ "" :=
        message_of_detail detail rfl
      exact absurd (shown.symm.trans same) (ne_invalidConstantMessage _ _ (by decide) (by decide))
  | @constant index token position found numeric invalid detail =>
      exact ⟨index, token, position, found, numeric, invalid,
        message_of_detail detail (by simp [invalidConstantMessage_eq])⟩

theorem reported_worded {input : Input} {state after : State} {unit : CompilationUnit}
    (run : parse input state = .ok unit after) :
    ∀ failure ∈ after.reported, Worded input failure := by
  rw [parse_run] at run
  cases loop : unitItems input state with
  | error fault between =>
      rw [loop] at run
      cases run
  | ok list between =>
      rw [loop] at run
      cases run
      have fresh : WordedState input (unitStart input state) :=
        ⟨by simp [unitStart], by simp [unitStart], by simp [unitStart]⟩
      have rounds := itemsFrom_rounds (Nat.le_refl _) loop
      have recovered := (rounds.words (fun _ => unitItem_words) fresh).2
      exact fun failure member => recovered failure (List.mem_of_mem_take member)

end MiniC.Parser
