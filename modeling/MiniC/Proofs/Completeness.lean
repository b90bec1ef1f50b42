import MiniC.Proofs.ConfinedExpression
import MiniC.Proofs.Derivations
import MiniC.Proofs.Soundness

/-!
# What is derived is matched

A parser that remembers nothing answers the same from every state in which no
error and no limit was met.  So it is enough to follow a derivation of the grammar:
every alternative that is tried in vain on the way fails on its own, and the
alternative of the derivation matches up to the end of the derivation, if what follows
does not continue it.

An expression needs nesting in proportion to the tokens after its start: three levels
of nesting lead from one token to the next.
-/

namespace MiniC.Parser

/-- A parser that neither recalls results nor is supervised. -/
structure Forgetful (input : Input) : Prop where
  forgets : input.caching = false
  unsupervised : input.supervised = false

/-- A state in which so many guarded rules are active, and neither an error nor the nesting
limit was met. -/
structure Fresh (active : Nat) (state : State) : Prop where
  nesting : state.nesting = active
  unfelt : state.limitFelt = false
  count : state.errorCount = 0
  reported : state.reported = []

/-- A step of a rule answers with an outcome from every fresh state in which a budget of
guarded rules is admitted, and leaves a fresh state behind. -/
def Gives {α : Type} (input : Input) (budget : Nat) (attempt : Attempt α)
    (outcome : Except Diagnostic α) : Prop :=
  ∀ active before, Admits input active budget → Fresh active before →
    ∃ after, attempt.run before = .ok outcome after ∧ Fresh active after

/-- A step of a rule fails, though not because of the nesting limit. -/
def Refuses {α : Type} (input : Input) (budget : Nat) (attempt : Attempt α) : Prop :=
  ∃ failure, failure.kind ≠ .nestingTooDeep ∧ Gives input budget attempt (.error failure)

/-- A rule matches up to an index, without errors, with a node that is a tree up to what is
stripped. -/
def Builds {α β : Type} (input : Input) (budget : Nat) (strip : α → β)
    (attempt : Attempt (Match α)) (tree : β) (stop : Nat) : Prop :=
  ∃ node, strip node = tree ∧ Gives input budget attempt (.ok { node, stop })

/-- A search among alternatives ends with a match, whatever failed before. -/
def Selects {α : Type} (input : Input) (budget : Nat) (others : List (Attempt (Match α)))
    (found : Match α) : Prop :=
  ∀ best active before, Admits input active budget → Fresh active before →
    ∃ after, Choice.continueWith note best (others.map ExceptT.run) before = .ok (.ok found) after ∧
      Fresh active after

section Steps

variable {α β : Type} {input : Input} {budget start : Nat} {attempt : Attempt α}
  {next : α → Attempt β}

namespace Gives

theorem pure {value : α} : Gives input budget (pure value : Attempt α) (.ok value) :=
  fun _ before _ fresh => ⟨before, rfl, fresh⟩

theorem throw {failure : Diagnostic} :
    Gives input budget (throw failure : Attempt α) (.error failure) :=
  fun _ before _ fresh => ⟨before, rfl, fresh⟩

theorem bind {value : α} {outcome : Except Diagnostic β}
    (first : Gives input budget attempt (.ok value))
    (second : Gives input budget (next value) outcome) :
    Gives input budget (attempt >>= next) outcome := by
  intro active before admits fresh
  obtain ⟨between, ran, betweenFresh⟩ := first active before admits fresh
  obtain ⟨after, rest, afterFresh⟩ := second active between admits betweenFresh
  exact ⟨after, (bind_found ran).trans rest, afterFresh⟩

theorem bind_failed {failure : Diagnostic} (first : Gives input budget attempt (.error failure)) :
    Gives input budget (attempt >>= next) (.error failure) := by
  intro active before admits fresh
  obtain ⟨after, ran, afterFresh⟩ := first active before admits fresh
  exact ⟨after, Parser.bind_failed ran, afterFresh⟩

theorem andThen {γ : Type} {last : β → Attempt γ} {value : β} {outcome : Except Diagnostic γ}
    (both : Gives input budget (attempt >>= next) (.ok value))
    (rest : Gives input budget (last value) outcome) :
    Gives input budget (attempt >>= fun first => next first >>= last) outcome := by
  rw [← bind_assoc]
  exact both.bind rest

theorem tokenAt {index : Nat} {token : Token} (found : input.stream.get? index = some token) :
    Gives input budget (liftM (tokenAt input index) : Attempt Token) (.ok token) := by
  intro active before _ fresh
  refine ⟨before, lift_found ?_, fresh⟩
  unfold Parser.tokenAt
  rw [found]
  rfl

theorem expect {kind : Kind} {index : Nat} (expected : input.stream.kindAt index = kind) :
    Gives input budget (expect input kind index) (.ok (index + 1)) := by
  unfold Parser.expect
  rw [Input.kindAt, if_pos expected]
  exact .pure

theorem supervise {rule : Attempt (Match α)} {outcome : Outcome α} (forgetful : Forgetful input)
    (gives : Gives input budget rule outcome) :
    Gives input budget (supervise input start rule) outcome := by
  unfold Parser.supervise
  rwa [if_neg (by simp [forgetful.unsupervised])]

/-- A guarded rule is run with one more rule active, within one less. -/
theorem guarded {rule : Attempt (Match α)} {outcome : Outcome α}
    (gives : Gives input budget rule outcome) :
    Gives input (budget + 1) (guarded input start rule) outcome := by
  intro active before admits fresh
  obtain ⟨after, ran, afterFresh⟩ := gives (active + 1) before.entered admits.succ
    ⟨congrArg (· + 1) fresh.nesting, fresh.unfelt, fresh.count, fresh.reported⟩
  rw [guarded_admitted (by rw [fresh.nesting]; exact admits.admitted), deeper_ok ran]
  exact ⟨_, rfl, congrArg (· - 1) afterFresh.nesting, afterFresh.unfelt, afterFresh.count,
    afterFresh.reported⟩

theorem remembered {stratum : Stratum} {compute : Attempt (Match Expr)} {outcome : Outcome Expr}
    (forgetful : Forgetful input) (gives : Gives input budget compute outcome) :
    Gives input budget (remembered input stratum start compute) outcome := by
  intro active before admits fresh
  obtain ⟨after, ran, afterFresh⟩ := gives active { before with noted := [], limitFelt := false }
    admits ⟨fresh.nesting, rfl, fresh.count, fresh.reported⟩
  have forgotten : recalled? input before.memo stratum start = none := by
    simp [recalled?, forgetful.forgets]
  rw [remembered_run, forgotten]
  refine ⟨_, anew_ok ran, afterFresh.nesting, ?_, afterFresh.count, afterFresh.reported⟩
  simp [fresh.unfelt, afterFresh.unfelt]

section Choice

variable {first : Attempt (Match α)} {others : List (Attempt (Match α))} {found : Match α}

theorem firstOf (gives : Gives input budget first (.ok found)) :
    Gives input budget (firstOf first others) (.ok found) := by
  intro active before admits fresh
  obtain ⟨after, ran, afterFresh⟩ := gives active before admits fresh
  exact ⟨after, firstOf_found ran, afterFresh⟩

theorem firstOf_later (refuses : Refuses input budget first)
    (selects : Selects input budget others found) :
    Gives input budget (Parser.firstOf first others) (.ok found) := by
  intro active before admits fresh
  obtain ⟨failure, mild, refused⟩ := refuses
  obtain ⟨between, ran, betweenFresh⟩ := refused active before admits fresh
  rw [firstOf_failed ran mild]
  exact selects failure active between admits betweenFresh

end Choice

end Gives

namespace Refuses

theorem throw {failure : Diagnostic} (mild : failure.kind ≠ .nestingTooDeep) :
    Refuses input budget (throw failure : Attempt α) :=
  ⟨failure, mild, .throw⟩

theorem bind (refuses : Refuses input budget attempt) :
    Refuses input budget (attempt >>= next) := by
  obtain ⟨failure, mild, gives⟩ := refuses
  exact ⟨failure, mild, gives.bind_failed⟩

theorem after {value : α} (first : Gives input budget attempt (.ok value))
    (refuses : Refuses input budget (next value)) : Refuses input budget (attempt >>= next) := by
  obtain ⟨failure, mild, gives⟩ := refuses
  exact ⟨failure, mild, first.bind gives⟩

theorem expect {kind : Kind} {index : Nat} (different : input.stream.kindAt index ≠ kind) :
    Refuses input budget (expect input kind index) := by
  unfold Parser.expect
  rw [Input.kindAt, if_neg different]
  exact .throw fun deep => by cases deep

theorem supervise {rule : Attempt (Match α)} (forgetful : Forgetful input)
    (refuses : Refuses input budget rule) :
    Refuses input budget (supervise input start rule) := by
  obtain ⟨failure, mild, gives⟩ := refuses
  exact ⟨failure, mild, gives.supervise forgetful⟩

theorem guarded {rule : Attempt (Match α)} (refuses : Refuses input budget rule) :
    Refuses input (budget + 1) (guarded input start rule) := by
  obtain ⟨failure, mild, gives⟩ := refuses
  exact ⟨failure, mild, gives.guarded⟩

theorem remembered {stratum : Stratum} {compute : Attempt (Match Expr)}
    (forgetful : Forgetful input) (refuses : Refuses input budget compute) :
    Refuses input budget (remembered input stratum start compute) := by
  obtain ⟨failure, mild, gives⟩ := refuses
  exact ⟨failure, mild, gives.remembered forgetful⟩

theorem firstOf {first second : Attempt (Match α)} (firstRefuses : Refuses input budget first)
    (secondRefuses : Refuses input budget second) :
    Refuses input budget (firstOf first [second]) := by
  obtain ⟨failure, mild, gives⟩ := firstRefuses
  obtain ⟨other, otherMild, otherGives⟩ := secondRefuses
  refine ⟨failure.deepest other, deepest_mild mild otherMild, fun active before admits fresh => ?_⟩
  obtain ⟨between, ran, betweenFresh⟩ := gives active before admits fresh
  obtain ⟨after, otherRan, afterFresh⟩ := otherGives active between admits betweenFresh
  refine ⟨after, ?_, afterFresh⟩
  rw [firstOf_failed ran mild, continueWith_failed otherRan otherMild]
  rfl

end Refuses

end Steps

namespace Selects

variable {α : Type} {input : Input} {budget : Nat} {first : Attempt (Match α)}
  {others : List (Attempt (Match α))} {found : Match α}

theorem here (gives : Gives input budget first (.ok found)) :
    Selects input budget (first :: others) found := by
  intro best active before admits fresh
  obtain ⟨after, ran, afterFresh⟩ := gives active before admits fresh
  exact ⟨_, continueWith_found ran, afterFresh.nesting, afterFresh.unfelt, afterFresh.count,
    afterFresh.reported⟩

theorem next (refuses : Refuses input budget first) (selects : Selects input budget others found) :
    Selects input budget (first :: others) found := by
  intro best active before admits fresh
  obtain ⟨failure, mild, refused⟩ := refuses
  obtain ⟨between, ran, betweenFresh⟩ := refused active before admits fresh
  rw [continueWith_failed ran mild]
  exact selects _ active between admits betweenFresh

end Selects

section Follow

variable {stream : TokenStream} {index : Nat}

/-- No subscript and no arguments follow. -/
def Unsuffixed (stream : TokenStream) (index : Nat) : Prop :=
  stream.kindAt index ≠ .leftParen ∧ stream.kindAt index ≠ .leftBracket

/-- Nothing follows that continues an expression. -/
structure EndsExpression (stream : TokenStream) (index : Nat) : Prop where
  unsuffixed : Unsuffixed stream index
  unextended : BinaryOperator.ofKind? (stream.kindAt index) = none
  unassigned : AssignOperator.ofKind? (stream.kindAt index) = none

/-- Kinds of tokens that expressions stand before. -/
def delimits : Kind → Bool
  | .rightParen | .rightBracket | .comma | .semicolon => true
  | _ => false

theorem endsExpression_of_delimits (delimiter : delimits (stream.kindAt index) = true) :
    EndsExpression stream index := by
  unfold delimits at delimiter
  split at delimiter
  case h_5 => cases delimiter
  all_goals
    refine ⟨⟨?_, ?_⟩, ?_, ?_⟩ <;> simp [*, BinaryOperator.ofKind?, AssignOperator.ofKind?]

theorem unsuffixed_of_binary {operator : BinaryOperator}
    (denotes : BinaryOperator.ofKind? (stream.kindAt index) = some operator) :
    Unsuffixed stream index := by
  have plain := plain_of_binary denotes
  constructor <;> intro opens <;> rw [opens] at plain <;> cases plain

theorem unsuffixed_of_assign {operator : AssignOperator}
    (denotes : AssignOperator.ofKind? (stream.kindAt index) = some operator) :
    Unsuffixed stream index := by
  have plain := plain_of_assign denotes
  constructor <;> intro opens <;> rw [opens] at plain <;> cases plain

theorem unassigned_of_binary {kind : Kind} {operator : BinaryOperator}
    (denotes : BinaryOperator.ofKind? kind = some operator) :
    AssignOperator.ofKind? kind = none := by
  unfold BinaryOperator.ofKind? at denotes
  split at denotes <;> first | rfl | cases denotes

end Follow

section Expressions

variable {input : Input} {start stop budget : Nat}

theorem expression_gives (forgetful : Forgetful input) {stratum : Stratum}
    {outcome : Outcome Expr}
    (gives : Gives input budget (expressionBody input (expression input budget) stratum start)
      outcome) :
    Gives input (budget + 1) (expression input (budget + 1) stratum start) outcome :=
  (gives.guarded.remembered forgetful).supervise forgetful

theorem expression_refuses (forgetful : Forgetful input) {stratum : Stratum}
    (refuses : Refuses input budget
      (expressionBody input (expression input budget) stratum start)) :
    Refuses input (budget + 1) (expression input (budget + 1) stratum start) :=
  (refuses.guarded.remembered forgetful).supervise forgetful

theorem unary_plain (unsigned : UnaryOperator.ofKind? (input.stream.kindAt start) = none)
    (nested : Nested) : expressionBody input nested .unary start = suffixed input nested start := by
  unfold expressionBody Input.kindAt
  rw [unsigned]

theorem primary_refuses_hopeless (forgetful : Forgetful input) (nested : Nested)
    (inside : start ≤ input.stream.lastIndex)
    (hopeless : startsExpression (input.stream.kindAt start) = false) :
    Refuses input budget (primary input nested start) := by
  apply Refuses.supervise forgetful
  obtain ⟨token, found⟩ := TokenStream.get?_isSome_of_le inside
  rw [TokenStream.kindAt_of_get? found] at hopeless
  apply Refuses.after (.tokenAt found)
  dsimp only
  split <;> rename_i tokenKind
  case h_7 => exact .throw nofun
  all_goals
    rw [tokenKind] at hopeless
    cases hopeless

theorem unary_refuses_hopeless (forgetful : Forgetful input)
    (inside : start ≤ input.stream.lastIndex)
    (hopeless : startsExpression (input.stream.kindAt start) = false) :
    Refuses input (budget + 1) (expression input (budget + 1) .unary start) := by
  apply expression_refuses forgetful
  rw [unary_plain (unaryOperator_hopeless hopeless)]
  exact (primary_refuses_hopeless forgetful _ inside hopeless).bind.supervise forgetful

theorem cast_plain (notCast : ¬ (input.stream.kindAt start = .leftParen ∧
      (input.stream.kindAt (start + 1)).isTypeSpecifier = true)) (nested : Nested) :
    expressionBody input nested .cast start = nested .unary start := by
  unfold expressionBody Input.kindAt
  rw [if_neg notCast]

theorem cast_refuses_hopeless (forgetful : Forgetful input)
    (inside : start ≤ input.stream.lastIndex)
    (hopeless : startsExpression (input.stream.kindAt start) = false) :
    Refuses input (budget + 2) (expression input (budget + 2) .cast start) := by
  apply expression_refuses forgetful
  rw [cast_plain]
  · exact unary_refuses_hopeless forgetful inside hopeless
  · rintro ⟨opens, -⟩
    rw [opens] at hopeless
    cases hopeless

theorem assignment_refuses_hopeless (forgetful : Forgetful input)
    (inside : start ≤ input.stream.lastIndex)
    (hopeless : startsExpression (input.stream.kindAt start) = false) :
    Refuses input (budget + 3) (expression input (budget + 3) .assignment start) := by
  apply expression_refuses forgetful
  apply Refuses.firstOf
  · exact (unary_refuses_hopeless forgetful inside hopeless).bind.supervise forgetful
  · exact (cast_refuses_hopeless forgetful inside hopeless).bind.supervise forgetful

end Expressions

end MiniC.Parser
