import MiniC.Proofs.Completeness

/-!
# Derived expressions are matched

The repetitions of the grammar stand on the left, and the parser finds them by loops
from the left.  So a part of a repetition is described by what it leads to: the rule that
is started at its beginning answers as its loop does from its end on.
-/

namespace MiniC.Parser

section Phrases

variable {input : Input} {start middle stop : Nat} {tree : Expr}

/-- What the unary expression at the start of an operand is: there is none, or it ends with
the operand or before an operator. -/
def Leads (input : Input) (budget start stop : Nat) : Prop :=
  Refuses input budget (expression input budget .unary start) ∨
    ∃ node place,
      Gives input budget (expression input budget .unary start) (.ok { node, stop := place }) ∧
      (place = stop ∨
        ∃ operator, BinaryOperator.ofKind? (input.stream.kindAt place) = some operator)

/-- The suffixes of an expression lead to the loop that takes more of them. -/
def LeadsToSuffixes (input : Input) (tree : Expr) (budget start stop : Nat) : Prop :=
  ∃ node, node.withoutSpans = tree ∧ ∀ outcome,
    (∀ fuel, input.stream.lastIndex < fuel + stop →
      Gives input budget (suffixes input (expression input budget) fuel start node stop) outcome) →
    Gives input budget (suffixed input (expression input budget) start) outcome

/-- An operand with operators leads to the loop that takes looser ones. -/
def LeadsToClimb (input : Input) (tree : Expr) (budget level start stop : Nat) : Prop :=
  ∃ node, node.withoutSpans = tree ∧ ∀ minLevel outcome, minLevel ≤ level →
    (∀ fuel, input.stream.lastIndex < fuel + stop →
      Gives input budget (climb input (expression input budget .cast) fuel minLevel start node stop)
        outcome) →
    ∀ fuel, input.stream.lastIndex < fuel + start →
      Gives input budget
        (do
          let first ← expression input budget .cast start
          climb input (expression input budget .cast) fuel minLevel start first.node first.stop)
        outcome

/-- What a phrase that is derived leads to, within enough nesting. -/
def Completes (input : Input) (start stop : Nat) : Phrase → Prop
  | .expr .primary tree =>
      ∀ budget, 3 * (input.stream.lastIndex - start) ≤ budget →
        Builds input budget Expr.withoutSpans (primary input (expression input budget) start)
          tree stop
  | .expr .suffixed tree =>
      ∀ budget, 3 * (input.stream.lastIndex - start) ≤ budget →
        LeadsToSuffixes input tree budget start stop
  | .expr .unary tree =>
      Unsuffixed input.stream stop →
        ∀ budget, 3 * (input.stream.lastIndex - start) + 1 ≤ budget →
          Builds input budget Expr.withoutSpans (expression input budget .unary start) tree stop
  | .expr .cast tree =>
      Unsuffixed input.stream stop →
        ∀ budget, 3 * (input.stream.lastIndex - start) + 2 ≤ budget →
          Builds input budget Expr.withoutSpans (expression input budget .cast start) tree stop ∧
            Leads input budget start stop
  | .expr (.level level) tree =>
      Unsuffixed input.stream stop → OperatorBelow input.stream (level + 1) stop →
        ∀ budget, 3 * (input.stream.lastIndex - start) + 2 ≤ budget →
          LeadsToClimb input tree budget level start stop ∧ Leads input budget start stop
  | .expr .assignment tree =>
      EndsExpression input.stream stop →
        ∀ budget, 3 * (input.stream.lastIndex - start) + 3 ≤ budget →
          Builds input budget Expr.withoutSpans (expression input budget .assignment start)
            tree stop
  | .arguments trees =>
      input.stream.kindAt stop = .rightParen →
        ∀ budget, 3 * (input.stream.lastIndex - start) + 3 ≤ budget →
          ∀ fuel, input.stream.lastIndex < fuel + start →
            ∃ list, Expr.listWithoutSpans list = trees ∧
              Gives input budget (argumentsFrom input (expression input budget) fuel start)
                (.ok { node := list, stop := stop + 1 })

/-- The index of a token that starts an expression is not the last one. -/
theorem lt_lastIndex_of_starts {stream : TokenStream}
    (starts : startsExpression (stream.kindAt start) = true) : start < stream.lastIndex := by
  apply TokenStream.lt_lastIndex_of_kindAt
  intro isEnd
  rw [isEnd] at starts
  cases starts

theorem get?_of_kindAt {stream : TokenStream} {index : Nat} {kind : Kind}
    (isKind : stream.kindAt index = kind) (notEnd : kind ≠ .endOfInput) :
    ∃ token, stream.get? index = some token ∧ token.kind = kind := by
  subst isKind
  have inside := TokenStream.lt_lastIndex_of_kindAt notEnd
  obtain ⟨token, found⟩ := TokenStream.get?_isSome_of_le (Nat.le_of_lt inside)
  exact ⟨token, found, (TokenStream.kindAt_of_get? found).symm⟩

theorem suffixes_end {nested : Nested} {node : Expr} {fuel : Nat}
    (unsuffixed : Unsuffixed input.stream stop) :
    Gives input budget (suffixes input nested (fuel + 1) start node stop) (.ok { node, stop }) := by
  unfold suffixes Input.kindAt
  split
  · exact absurd ‹_› unsuffixed.2
  · exact absurd ‹_› unsuffixed.1
  · exact .pure

/-- The loop that takes operators ends where none of a sufficient level follows. -/
theorem climb_end {operand : Nat → Attempt (Match Expr)} {node : Expr} {fuel minLevel : Nat}
    (below : OperatorBelow input.stream minLevel stop) :
    Gives input budget (climb input operand (fuel + 1) minLevel start node stop)
      (.ok { node, stop }) := by
  unfold climb Input.kindAt
  split
  · exact .pure
  · rename_i operator denotes
    rw [if_pos (below operator denotes)]
    exact .pure

theorem Derives.inside {stream : TokenStream} {rank : Rank}
    (derived : Derives stream (.expr rank tree) start stop) : stop ≤ stream.lastIndex :=
  (derived.balanced.reaches (Nat.le_of_lt (lt_lastIndex_of_starts derived.startsExpression))).inside

/-- Enough fuel for a loop is some, and enough for the indices to come. -/
theorem fuel_positive {last index fuel : Nat} (enough : last < fuel + index)
    (inside : index ≤ last) :
    ∃ less, fuel = less + 1 ∧ ∀ later, index < later → last < less + later :=
  ⟨fuel - 1, by omega, by omega⟩

theorem fuel_ample (input : Input) (index : Nat) :
    input.stream.lastIndex < input.fuel + index := by
  rw [Nat.add_comm]
  exact fuel_enough input index

theorem completes_identifier (forgetful : Forgetful input) {token : Token}
    (found : input.stream.get? start = some token)
    (isName : token.kind = .identifier) :
    Completes input start (start + 1) (.expr .primary (.identifier none token.lexeme)) := by
  intro budget _
  refine ⟨.identifier (covering start (start + 1)) token.lexeme, rfl, ?_⟩
  apply Gives.supervise forgetful
  apply Gives.bind (.tokenAt found)
  dsimp only
  rw [isName]
  exact .pure

theorem completes_number (forgetful : Forgetful input) {token : Token} {value : Binary64}
    (found : input.stream.get? start = some token) (numeric : isNumeric token.kind = true)
    (isNumber : token.constant = .number value) :
    Completes input start (start + 1) (.expr .primary (.number none value)) := by
  intro budget _
  refine ⟨.number (covering start (start + 1)) value, rfl, ?_⟩
  apply Gives.supervise forgetful
  apply Gives.bind (.tokenAt found)
  unfold isNumeric at numeric
  split at numeric
  case h_4 => cases numeric
  all_goals
    rename_i tokenKind
    simp only [tokenKind, isNumber]
    exact .pure

theorem completes_string (forgetful : Forgetful input) {token : Token}
    (found : input.stream.get? start = some token)
    (isString : token.kind = .stringLiteral) :
    Completes input start (start + 1)
      (.expr .primary (.string none (Literal.text token.lexeme))) := by
  intro budget _
  refine ⟨.string (covering start (start + 1)) (Literal.text token.lexeme), rfl, ?_⟩
  apply Gives.supervise forgetful
  apply Gives.bind (.tokenAt found)
  dsimp only
  rw [isString]
  exact .pure

theorem completes_paren (forgetful : Forgetful input) {inner : Expr}
    (opens : input.stream.kindAt start = .leftParen)
    (completes : Completes input (start + 1) stop (.expr .assignment inner))
    (closes : input.stream.kindAt stop = .rightParen) :
    Completes input start (stop + 1) (.expr .primary (.paren none inner)) := by
  intro budget room
  obtain ⟨token, found, isOpen⟩ := get?_of_kindAt opens (by decide)
  have inside : start < input.stream.lastIndex :=
    lt_lastIndex_of_starts (by rw [opens]; rfl)
  have ends : EndsExpression input.stream stop := endsExpression_of_delimits (by rw [closes]; rfl)
  obtain ⟨node, rfl, gives⟩ := completes ends budget (by omega)
  refine ⟨.paren (covering start (stop + 1)) node, rfl, ?_⟩
  apply Gives.supervise forgetful
  apply Gives.bind (.tokenAt found)
  dsimp only
  rw [isOpen]
  exact gives.bind ((Gives.expect closes).bind .pure)

theorem completes_bare (forgetful : Forgetful input)
    (completes : Completes input start stop (.expr .primary tree)) :
    Completes input start stop (.expr .suffixed tree) := by
  intro budget room
  obtain ⟨node, rfl, gives⟩ := completes budget room
  refine ⟨node, rfl, fun outcome continues => ?_⟩
  apply Gives.supervise forgetful
  exact gives.bind (continues _ (fuel_ample input stop))

theorem completes_subscript {index : Expr}
    (completes : Completes input start middle (.expr .suffixed tree))
    (inside : middle ≤ input.stream.lastIndex) (le : start ≤ middle)
    (opens : input.stream.kindAt middle = .leftBracket)
    (indexCompletes : Completes input (middle + 1) stop (.expr .assignment index))
    (later : middle < stop) (closes : input.stream.kindAt stop = .rightBracket) :
    Completes input start (stop + 1) (.expr .suffixed (.subscript none tree index)) := by
  intro budget room
  have before : middle < input.stream.lastIndex :=
    TokenStream.lt_lastIndex_of_kindAt_eq opens (by decide)
  have ends : EndsExpression input.stream stop := endsExpression_of_delimits (by rw [closes]; rfl)
  obtain ⟨node, rfl, leads⟩ := completes budget room
  obtain ⟨indexNode, rfl, indexGives⟩ := indexCompletes ends budget (by omega)
  refine ⟨.subscript (covering start (stop + 1)) node indexNode, rfl, fun outcome continues => ?_⟩
  apply leads
  intro fuel enough
  obtain ⟨fuel, rfl, enoughLater⟩ := fuel_positive enough inside
  unfold suffixes Input.kindAt
  rw [opens]
  exact indexGives.bind ((Gives.expect closes).bind (continues fuel (enoughLater _ (by omega))))

theorem completes_emptyCall (forgetful : Forgetful input)
    (completes : Completes input start middle (.expr .suffixed tree))
    (inside : middle ≤ input.stream.lastIndex)
    (opens : input.stream.kindAt middle = .leftParen)
    (closes : input.stream.kindAt (middle + 1) = .rightParen) :
    Completes input start (middle + 2) (.expr .suffixed (.call none tree [])) := by
  intro budget room
  obtain ⟨node, rfl, leads⟩ := completes budget room
  refine ⟨.call (covering start (middle + 2)) node [], rfl, fun outcome continues => ?_⟩
  apply leads
  intro fuel enough
  obtain ⟨fuel, rfl, enoughLater⟩ := fuel_positive enough inside
  have list : Gives input budget (arguments input (expression input budget) middle)
      (.ok { node := [], stop := middle + 2 }) := by
    apply Gives.supervise forgetful
    rw [Input.kindAt, if_pos closes]
    exact .pure
  unfold suffixes Input.kindAt
  rw [opens]
  exact list.bind (continues fuel (enoughLater _ (by omega)))

theorem completes_call (forgetful : Forgetful input) {trees : List Expr}
    (completes : Completes input start middle (.expr .suffixed tree))
    (inside : middle ≤ input.stream.lastIndex) (le : start ≤ middle)
    (opens : input.stream.kindAt middle = .leftParen)
    (starts : startsExpression (input.stream.kindAt (middle + 1)) = true)
    (argumentsComplete : Completes input (middle + 1) stop (.arguments trees))
    (later : middle < stop) (closes : input.stream.kindAt stop = .rightParen) :
    Completes input start (stop + 1) (.expr .suffixed (.call none tree trees)) := by
  intro budget room
  have before : middle < input.stream.lastIndex :=
    TokenStream.lt_lastIndex_of_kindAt_eq opens (by decide)
  obtain ⟨node, rfl, leads⟩ := completes budget room
  obtain ⟨listNodes, rfl, listGives⟩ := argumentsComplete closes budget (by omega) input.fuel
    (fuel_ample input (middle + 1))
  refine ⟨.call (covering start (stop + 1)) node listNodes, rfl, fun outcome continues => ?_⟩
  apply leads
  intro fuel enough
  obtain ⟨fuel, rfl, enoughLater⟩ := fuel_positive enough inside
  have list : Gives input budget (arguments input (expression input budget) middle)
      (.ok { node := listNodes, stop := stop + 1 }) := by
    apply Gives.supervise forgetful
    rw [Input.kindAt, if_neg]
    · exact listGives
    · intro closed
      rw [closed] at starts
      cases starts
  unfold suffixes Input.kindAt
  rw [opens]
  exact list.bind (continues fuel (enoughLater _ (by omega)))

theorem completes_lastArgument (completes : Completes input start stop (.expr .assignment tree))
    (inside : start ≤ input.stream.lastIndex) :
    Completes input start stop (.arguments [tree]) := by
  intro closes budget room fuel enough
  obtain ⟨fuel, rfl, -⟩ := fuel_positive enough inside
  have ends : EndsExpression input.stream stop := endsExpression_of_delimits (by rw [closes]; rfl)
  obtain ⟨node, rfl, gives⟩ := completes ends budget room
  refine ⟨[node], rfl, ?_⟩
  unfold argumentsFrom Input.kindAt
  apply gives.bind
  simp only [closes]
  exact .pure

theorem completes_moreArguments {rest : List Expr}
    (completes : Completes input start middle (.expr .assignment tree))
    (inside : start ≤ input.stream.lastIndex) (lt : start < middle)
    (comma : input.stream.kindAt middle = .comma)
    (restCompletes : Completes input (middle + 1) stop (.arguments rest)) :
    Completes input start stop (.arguments (tree :: rest)) := by
  intro closes budget room fuel enough
  obtain ⟨fuel, rfl, enoughLater⟩ := fuel_positive enough inside
  have ends : EndsExpression input.stream middle := endsExpression_of_delimits (by rw [comma]; rfl)
  obtain ⟨node, rfl, gives⟩ := completes ends budget room
  obtain ⟨nodes, rfl, restGives⟩ :=
    restCompletes closes budget (by omega) fuel (enoughLater _ (by omega))
  refine ⟨node :: nodes, rfl, ?_⟩
  unfold argumentsFrom Input.kindAt
  apply gives.bind
  simp only [comma]
  exact restGives.bind .pure

theorem completes_unsigned (forgetful : Forgetful input)
    (completes : Completes input start stop (.expr .suffixed tree))
    (starts : startsPrimary (input.stream.kindAt start) = true)
    (inside : stop ≤ input.stream.lastIndex) :
    Completes input start stop (.expr .unary tree) := by
  intro unsuffixed budget room
  obtain ⟨budget, rfl⟩ : ∃ less, budget = less + 1 := ⟨budget - 1, by omega⟩
  obtain ⟨node, rfl, leads⟩ := completes budget (by omega)
  refine ⟨node, rfl, expression_gives forgetful ?_⟩
  have unsigned : UnaryOperator.ofKind? (input.stream.kindAt start) = none := by
    unfold startsPrimary at starts
    split at starts <;> first | rw [‹input.stream.kindAt start = _›]; rfl | cases starts
  rw [unary_plain unsigned]
  apply leads
  intro fuel enough
  obtain ⟨fuel, rfl, -⟩ := fuel_positive enough inside
  exact suffixes_end unsuffixed

theorem completes_unary (forgetful : Forgetful input) {operator : UnaryOperator}
    (denotes : UnaryOperator.ofKind? (input.stream.kindAt start) = some operator)
    (completes : Completes input (start + 1) stop (.expr .cast tree)) :
    Completes input start stop (.expr .unary (.unary none operator tree)) := by
  intro unsuffixed budget room
  have before : start < input.stream.lastIndex :=
    lt_lastIndex_of_starts (startsExpression_of_unary denotes)
  obtain ⟨budget, rfl⟩ : ∃ less, budget = less + 1 := ⟨budget - 1, by omega⟩
  obtain ⟨⟨node, rfl, gives⟩, -⟩ := completes unsuffixed budget (by omega)
  refine ⟨.unary (covering start stop) operator node, rfl, expression_gives forgetful ?_⟩
  unfold expressionBody Input.kindAt
  simp only [denotes]
  exact gives.bind .pure

theorem hopeless_of_specifier {kind : Kind} (specifies : kind.isTypeSpecifier = true) :
    startsExpression kind = false := by
  unfold Kind.isTypeSpecifier at specifies
  split at specifies <;> first | rfl | cases specifies

theorem completes_uncast (forgetful : Forgetful input)
    (completes : Completes input start stop (.expr .unary tree))
    (opensExpression : OpensExpression input.stream start) :
    Completes input start stop (.expr .cast tree) := by
  intro unsuffixed budget room
  obtain ⟨budget, rfl⟩ : ∃ less, budget = less + 1 := ⟨budget - 1, by omega⟩
  constructor
  · obtain ⟨node, rfl, gives⟩ := completes unsuffixed budget (by omega)
    refine ⟨node, rfl, expression_gives forgetful ?_⟩
    rw [cast_plain]
    · exact gives
    · rintro ⟨opens, specifies⟩
      have starts := opensExpression opens
      rw [hopeless_of_specifier specifies] at starts
      cases starts
  · obtain ⟨node, -, gives⟩ := completes unsuffixed (budget + 1) (by omega)
    exact .inr ⟨node, stop, gives, .inl rfl⟩

theorem specifierRun_end {stream : TokenStream} {count : Nat}
    (ends : (stream.kindAt start).isTypeSpecifier = false) :
    specifierRun stream count start = [] := by
  cases count with
  | zero => rfl
  | succ count =>
      unfold specifierRun
      cases found : stream.get? start with
      | none => rfl
      | some token =>
          rw [TokenStream.kindAt_of_get? found] at ends
          simp [Token.isTypeSpecifier, ends]

/-- The run of type specifiers is the derived one when no specifier follows. -/
theorem specifierRun_eq {stream : TokenStream} {list : List Token} {count : Nat}
    (specified : Specifiers stream list start stop)
    (ends : (stream.kindAt stop).isTypeSpecifier = false)
    (enough : stream.lastIndex < count + start) : specifierRun stream count start = list := by
  induction specified generalizing count with
  | last found specifies =>
      obtain ⟨count, rfl, -⟩ := fuel_positive enough (TokenStream.le_of_get? found)
      unfold specifierRun
      simp [found, specifies, specifierRun_end ends]
  | more found specifies _ induction =>
      obtain ⟨count, rfl, enoughLater⟩ := fuel_positive enough (TokenStream.le_of_get? found)
      unfold specifierRun
      simp [found, specifies, induction ends (enoughLater _ (Nat.lt_succ_self _))]

theorem Specifiers.stop_eq {stream : TokenStream} {list : List Token}
    (specified : Specifiers stream list start stop) : stop = start + list.length := by
  induction specified with
  | last => rfl
  | more _ _ _ induction =>
      rw [induction, List.length_cons]
      omega

theorem specifiers_gives (forgetful : Forgetful input) {list : List Token}
    (specified : Specifiers input.stream list start stop)
    (ends : (input.stream.kindAt stop).isTypeSpecifier = false) :
    Gives input budget (specifiers input start) (.ok { node := list, stop }) := by
  have nonempty : list.isEmpty = false := by
    cases specified <;> rfl
  have inside : start < input.stream.lastIndex := by
    apply TokenStream.lt_lastIndex_of_kindAt
    intro isEnd
    have starts := specified.starts
    rw [isEnd] at starts
    cases starts
  obtain ⟨token, found⟩ := TokenStream.get?_isSome_of_le (Nat.le_of_lt inside)
  have runEq : specifierRun input.stream input.fuel start = list :=
    specifierRun_eq specified ends (fuel_ample input start)
  apply Gives.supervise forgetful
  apply Gives.bind (.tokenAt found)
  simp only [runEq, nonempty, Bool.false_eq_true, if_false, ← specified.stop_eq]
  exact .pure

theorem completes_cast (forgetful : Forgetful input) {specifiers : List Token}
    (opens : input.stream.kindAt start = .leftParen)
    (specified : Specifiers input.stream specifiers (start + 1) middle)
    (closes : input.stream.kindAt middle = .rightParen)
    (completes : Completes input (middle + 1) stop (.expr .cast tree)) :
    Completes input start stop (.expr .cast (.cast none specifiers tree)) := by
  intro unsuffixed budget room
  have before : start < input.stream.lastIndex :=
    lt_lastIndex_of_starts (by rw [opens]; rfl)
  have later := specified.lt
  obtain ⟨budget, rfl⟩ : ∃ less, budget = less + 4 := ⟨budget - 4, by omega⟩
  constructor
  · obtain ⟨⟨node, rfl, gives⟩, -⟩ := completes unsuffixed (budget + 3) (by omega)
    refine ⟨.cast (covering start stop) specifiers node, rfl, expression_gives forgetful ?_⟩
    unfold expressionBody Input.kindAt
    rw [if_pos ⟨opens, specified.starts⟩]
    apply Gives.firstOf
    apply Gives.supervise forgetful
    apply (specifiers_gives forgetful specified (by rw [closes]; rfl)).bind
    exact (Gives.expect closes).bind (gives.bind .pure)
  · -- the parenthesis does not open an expression, so there is no unary expression
    obtain ⟨token, found, isOpen⟩ := get?_of_kindAt opens (by decide)
    refine .inl (expression_refuses forgetful ?_)
    rw [unary_plain (by rw [opens]; rfl)]
    apply Refuses.supervise forgetful
    apply Refuses.bind
    apply Refuses.supervise forgetful
    apply Refuses.after (.tokenAt found)
    dsimp only
    rw [isOpen]
    apply Refuses.bind
    exact assignment_refuses_hopeless forgetful before (hopeless_of_specifier specified.starts)

theorem completes_operand (completes : Completes input start stop (.expr .cast tree))
    (lt : start < stop) :
    Completes input start stop (.expr (.level BinaryOperator.levels) tree) := by
  intro unsuffixed _ budget room
  obtain ⟨⟨node, rfl, gives⟩, leads⟩ := completes unsuffixed budget room
  refine ⟨⟨node, rfl, fun minLevel outcome _ continues fuel enough => ?_⟩, leads⟩
  exact gives.bind (continues fuel (by omega))

theorem completes_tighter {level : Nat}
    (completes : Completes input start stop (.expr (.level (level + 1)) tree)) :
    Completes input start stop (.expr (.level level) tree) := by
  intro unsuffixed below budget room
  obtain ⟨⟨node, treeEq, climbs⟩, leads⟩ := completes unsuffixed
    (fun operator denotes => Nat.lt_succ_of_lt (below operator denotes)) budget room
  exact ⟨⟨node, treeEq, fun minLevel outcome le => climbs minLevel outcome (Nat.le_succ_of_le le)⟩,
    leads⟩

theorem completes_binary {operator : BinaryOperator} {right : Expr}
    (completes : Completes input start middle (.expr (.level operator.level) tree))
    (lt : start < middle)
    (denotes : BinaryOperator.ofKind? (input.stream.kindAt middle) = some operator)
    (rightCompletes : Completes input (middle + 1) stop (.expr (.level (operator.level + 1)) right))
    (rightLt : middle + 1 < stop) (inside : stop ≤ input.stream.lastIndex) :
    Completes input start stop
      (.expr (.level operator.level) (.binary none operator tree right)) := by
  intro unsuffixed below budget room
  have atOperator : OperatorBelow input.stream (operator.level + 1) middle := by
    intro other otherDenotes
    cases denotes.symm.trans otherDenotes
    exact Nat.lt_succ_self _
  obtain ⟨⟨node, rfl, climbs⟩, leads⟩ :=
    completes (unsuffixed_of_binary denotes) atOperator budget room
  obtain ⟨⟨rightNode, rfl, rightClimbs⟩, -⟩ := rightCompletes unsuffixed
    (fun other denotes => Nat.lt_succ_of_lt (below other denotes)) budget (by omega)
  refine ⟨⟨.binary (covering start stop) operator node rightNode, rfl, ?_⟩, ?_⟩
  · intro minLevel outcome le continues
    apply climbs minLevel outcome le
    intro fuel enough
    obtain ⟨fuel, rfl, enoughLater⟩ := fuel_positive enough (by omega)
    unfold climb Input.kindAt
    simp only [denotes, if_neg (Nat.not_lt_of_le le)]
    have operand := rightClimbs (operator.level + 1) (.ok { node := rightNode, stop })
      (Nat.le_refl _) (fun fuel enough => by
        obtain ⟨fuel, rfl, -⟩ := fuel_positive enough inside
        exact climb_end below) fuel (enoughLater _ (Nat.lt_succ_self _))
    exact operand.andThen (continues fuel (enoughLater _ (by omega)))
  · rcases leads with refuses | ⟨leadNode, place, gives, atEnd | atOther⟩
    · exact .inl refuses
    · exact .inr ⟨leadNode, place, gives, .inr ⟨operator, by rw [atEnd, denotes]⟩⟩
    · exact .inr ⟨leadNode, place, gives, .inr atOther⟩

/-- No assignment starts with an operand that no assignment operator follows. -/
theorem assignmentForm_refuses (forgetful : Forgetful input) {budget : Nat}
    (leads : Leads input budget start stop)
    (ends : AssignOperator.ofKind? (input.stream.kindAt stop) = none) :
    Refuses input budget (assignmentForm input (expression input budget) start) := by
  apply Refuses.supervise forgetful
  rcases leads with refuses | ⟨node, place, gives, follows⟩
  · exact refuses.bind
  · have none : AssignOperator.ofKind? (input.stream.kindAt place) = none := by
      rcases follows with rfl | ⟨operator, denotes⟩
      · exact ends
      · exact unassigned_of_binary denotes
    apply Refuses.after gives
    simp only [Input.kindAt, none]
    exact .throw fun deep => by cases deep

theorem completes_unassigned (forgetful : Forgetful input)
    (completes : Completes input start stop (.expr (.level 0) tree))
    (inside : stop ≤ input.stream.lastIndex) :
    Completes input start stop (.expr .assignment tree) := by
  intro ends budget room
  obtain ⟨budget, rfl⟩ : ∃ less, budget = less + 1 := ⟨budget - 1, by omega⟩
  have none : OperatorBelow input.stream 0 stop := by
    intro operator denotes
    cases ends.unextended.symm.trans denotes
  obtain ⟨⟨node, rfl, climbs⟩, leads⟩ := completes ends.unsuffixed
    (fun operator denotes => absurd (none operator denotes) (Nat.not_lt_zero _)) budget (by omega)
  refine ⟨node, rfl, expression_gives forgetful ?_⟩
  apply Gives.firstOf_later (assignmentForm_refuses forgetful leads ends.unassigned)
  apply Selects.here
  apply Gives.supervise forgetful
  apply climbs 0 _ (Nat.le_refl 0)
  · intro fuel enough
    obtain ⟨fuel, rfl, -⟩ := fuel_positive enough inside
    exact climb_end none
  · exact fuel_ample input start

theorem completes_assign (forgetful : Forgetful input) {operator : AssignOperator} {value : Expr}
    (completes : Completes input start middle (.expr .unary tree)) (lt : start < middle)
    (denotes : AssignOperator.ofKind? (input.stream.kindAt middle) = some operator)
    (valueCompletes : Completes input (middle + 1) stop (.expr .assignment value)) :
    Completes input start stop (.expr .assignment (.assign none operator tree value)) := by
  intro ends budget room
  obtain ⟨budget, rfl⟩ : ∃ less, budget = less + 1 := ⟨budget - 1, by omega⟩
  obtain ⟨node, rfl, gives⟩ := completes (unsuffixed_of_assign denotes) budget (by omega)
  have before : middle < input.stream.lastIndex := by
    apply TokenStream.lt_lastIndex_of_kindAt
    intro isEnd
    rw [isEnd] at denotes
    cases denotes
  obtain ⟨valueNode, rfl, valueGives⟩ := valueCompletes ends budget (by omega)
  refine ⟨.assign (covering start stop) operator node valueNode, rfl,
    expression_gives forgetful ?_⟩
  apply Gives.firstOf
  apply Gives.supervise forgetful
  apply gives.bind
  simp only [Input.kindAt, denotes]
  exact valueGives.bind .pure

end Phrases

/-- Every derived phrase is found, within enough nesting and where nothing continues it. -/
theorem Derives.completes {input : Input} (forgetful : Forgetful input) {phrase : Phrase}
    {start stop : Nat} (derived : Derives input.stream phrase start stop) :
    Completes input start stop phrase := by
  induction derived with
  | identifier found isName => exact completes_identifier forgetful found isName
  | number found numeric value => exact completes_number forgetful found numeric value
  | string found isString => exact completes_string forgetful found isString
  | paren opens _ closes induction => exact completes_paren forgetful opens induction closes
  | bare _ induction => exact completes_bare forgetful induction
  | subscript array opens index closes arrayInduction indexInduction =>
      exact completes_subscript arrayInduction array.inside (Nat.le_of_lt array.lt) opens
        indexInduction (Nat.lt_of_succ_lt index.lt) closes
  | emptyCall callee opens closes induction =>
      exact completes_emptyCall forgetful induction callee.inside opens closes
  | call callee opens arguments closes calleeInduction argumentsInduction =>
      exact completes_call forgetful calleeInduction callee.inside (Nat.le_of_lt callee.lt) opens
        arguments.starts argumentsInduction (Nat.lt_of_succ_lt arguments.lt) closes
  | lastArgument argument induction =>
      exact completes_lastArgument induction
        (Nat.le_of_lt (lt_lastIndex_of_starts argument.startsExpression))
  | moreArguments argument comma _ induction restInduction =>
      exact completes_moreArguments induction
        (Nat.le_of_lt (lt_lastIndex_of_starts argument.startsExpression)) argument.lt comma
        restInduction
  | unsigned suffixed induction =>
      exact completes_unsigned forgetful induction suffixed.starts.1 suffixed.inside
  | unary denotes _ induction => exact completes_unary forgetful denotes induction
  | uncast unary induction => exact completes_uncast forgetful induction unary.starts.2
  | cast opens specified closes _ induction =>
      exact completes_cast forgetful opens specified closes induction
  | operand cast induction => exact completes_operand induction cast.lt
  | tighter _ induction => exact completes_tighter induction
  | binary left denotes right leftInduction rightInduction =>
      exact completes_binary leftInduction left.lt denotes rightInduction right.lt right.inside
  | unassigned level induction => exact completes_unassigned forgetful induction level.inside
  | assign target denotes _ targetInduction valueInduction =>
      exact completes_assign forgetful targetInduction target.lt denotes valueInduction

theorem Derives.found {input : Input} (forgetful : Forgetful input) {tree : Expr}
    {start stop budget : Nat} (derived : Derives input.stream (.expr .assignment tree) start stop)
    (delimiter : delimits (input.stream.kindAt stop) = true)
    (room : 3 * (input.stream.lastIndex - start) + 3 ≤ budget) :
    Builds input budget Expr.withoutSpans (expression input budget .assignment start) tree stop :=
  derived.completes forgetful (endsExpression_of_delimits delimiter) budget room

end MiniC.Parser
