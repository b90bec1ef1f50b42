import MiniC.Parser.Expression
import MiniC.Proofs.Confinement
import MiniC.Proofs.Inversion

/-!
# Expressions are confined

An expression started inside the stream takes at least one token and no brace,
and its failures are noticed not before its start.  The loops of the rules never
run out of their bounds, because every round takes a token.
-/

namespace MiniC

theorem Token.kind_of_constant_tooLarge {token : Token}
    (tooLarge : token.constant = .tooLarge) : token.kind = .integerConstant := by
  unfold Token.constant at tooLarge
  split at tooLarge
  · unfold Constant.ofCharacter at tooLarge
    split at tooLarge <;> cases tooLarge
  · assumption
  · unfold Constant.ofDouble at tooLarge
    split at tooLarge <;> cases tooLarge

namespace Parser

/-- Matches of expressions from every start inside the stream on. -/
def NestedConfined (input : Input) (nested : Nested) : Prop :=
  ∀ stratum start, start ≤ input.stream.lastIndex →
    Confined input.stream start (nested stratum start) (SpansExpr input.stream start)

section Primitives

variable {α : Type} {input : Input} {start middle : Nat}

theorem Reaches.operator {operators : Kind → Option α} {operator : α}
    (reached : Reaches input.stream start middle)
    (denotes : operators (input.kindAt middle) = some operator)
    (none : operators .endOfInput = none ∧ operators .leftBrace = none ∧
      operators .rightBrace = none) :
    Reaches input.stream start (middle + 1) := by
  obtain ⟨endNone, leftNone, rightNone⟩ := none
  apply reached.step
  · intro atEnd
    rw [Input.kindAt, atEnd, endNone] at denotes
    cases denotes
  · rintro (left | right)
    · rw [Input.kindAt, left, leftNone] at denotes
      cases denotes
    · rw [Input.kindAt, right, rightNone] at denotes
      cases denotes

theorem tokenAt_confined (inside : start ≤ input.stream.lastIndex) {middle : Nat} :
    Confined input.stream middle (liftM (tokenAt input start) : Attempt Token)
      fun token => input.stream.get? start = some token := by
  intro before orderly
  obtain ⟨token, found⟩ := TokenStream.get?_isSome_of_le inside
  have run : (liftM (tokenAt input start) : Attempt Token).run before = .ok (.ok token) before := by
    change EStateM.bind (tokenAt input start) _ before = _
    simp only [EStateM.bind, tokenAt, found]
    rfl
  rw [run]
  exact ⟨.refl orderly, found⟩

theorem expect_confined {kind : Kind} (reached : Reaches input.stream start middle) :
    Confined input.stream start (expect input kind middle)
      fun next => next = middle + 1 ∧ input.kindAt middle = kind := by
  unfold expect
  split
  · rename_i kindEq
    exact .pure ⟨rfl, kindEq⟩
  · exact .throw (.missing_at reached _ [])

theorem tooDeep_confined (inside : start ≤ input.stream.lastIndex) {levels : Nat}
    {Ends : α → Prop} : Confined input.stream start (tooDeep start levels : Attempt α) Ends := by
  intro before orderly
  refine ⟨⟨orderly, fun _ _ _ => rfl, ⟨[], rfl, by simp⟩, Nat.le_refl _, rfl, rfl,
    [], rfl, by simp⟩, ?_⟩
  exact .failure_at (.refl inside) _ _

theorem guarded_confined {rule : Attempt (Match α)} {Ends : Match α → Prop}
    (inside : start ≤ input.stream.lastIndex)
    (confined : Confined input.stream start rule Ends) :
    Confined input.stream start (guarded input start rule) Ends := by
  intro before orderly
  cases refusal : refusal? input before.nesting with
  | some levels =>
      have refused : Confined input.stream start (tooDeep start levels : Attempt (Match α)) Ends :=
        tooDeep_confined inside
      rw [guarded_refused refusal]
      exact refused before orderly
  | none =>
      have ran := confined before.entered orderly
      rw [guarded_admitted refusal]
      cases run : rule.run before.entered with
      | error fault after =>
          rw [run] at ran
          rw [deeper_fault run]
          exact ran
      | ok outcome after =>
          rw [run] at ran
          obtain ⟨effect, answers⟩ := ran
          rw [deeper_ok run]
          exact ⟨⟨effect.orderly, effect.frame, effect.noted, effect.counted, effect.reported,
            congrArg (· - 1) effect.nesting, effect.met⟩, answers⟩

theorem supervise_confined {rule : Attempt (Match α)} {Ends : Match α → Prop}
    (inside : start ≤ input.stream.lastIndex)
    (spans : ∀ found, Ends found → Spans input.stream start found)
    (confined : Confined input.stream start rule Ends) :
    Confined input.stream start (supervise input start rule) Ends := by
  unfold supervise
  split
  · -- the supervisor only looks at the answer, and every answer passes
    have passes : ∀ outcome : Outcome α, Answers input.stream start Ends outcome →
        outcome.Inside input.stream start := by
      intro outcome answers
      cases outcome with
      | ok found =>
          have found := spans found answers
          exact ⟨found.lt, found.inside⟩
      | error failure =>
          have within : Within input.stream start failure := answers
          have bound : blockEnd input.stream start ≤ input.stream.lastIndex := blockEnd_le inside
          have depthLe := within.depth_le
          exact ⟨⟨within.depth_ge, by omega⟩, within.position_ge, within.position_le⟩
    rw [if_neg (Nat.not_lt.mpr inside)]
    change Steady input.stream start (rule.run >>= fun outcome =>
      if Outcome.Inside input.stream start outcome then
        meet (failure? outcome).toList >>= fun _ => pure outcome
      else abort .pastEnd) (Answers input.stream start Ends)
    refine Steady.bind confined ?_
    intro outcome answers
    rw [if_pos (passes outcome answers)]
    refine Steady.bind (.meet ?_) fun _ _ => .pure answers
    intro failure member
    cases outcome with
    | ok found => cases member
    | error known =>
        rw [List.mem_singleton.mp member]
        exact answers
  · exact confined

theorem continueWith_steady {best : Diagnostic} {Ends : Match α → Prop}
    {others : List (Attempt (Match α))} (bestWithin : Within input.stream start best)
    (confined : ∀ other ∈ others, Confined input.stream start other Ends) :
    Steady input.stream start (Choice.continueWith note best (others.map ExceptT.run))
      (Answers input.stream start Ends) := by
  induction others generalizing best with
  | nil => exact Confined.throw bestWithin
  | cons other others induction =>
      refine Steady.bind (confined other (by simp)) ?_
      intro outcome answers
      cases outcome with
      | ok found => exact Steady.bind (.note bestWithin) fun _ _ => Confined.pure answers
      | error failure =>
          have failureWithin : Within input.stream start failure := answers
          dsimp only
          split
          · exact Confined.throw failureWithin
          · exact induction (bestWithin.deepest failureWithin)
              fun other member => confined other (by simp [member])

theorem firstOf_confined {first : Attempt (Match α)} {others : List (Attempt (Match α))}
    {Ends : Match α → Prop} (firstConfined : Confined input.stream start first Ends)
    (confined : ∀ other ∈ others, Confined input.stream start other Ends) :
    Confined input.stream start (firstOf first others) Ends := by
  refine Steady.bind firstConfined ?_
  intro outcome answers
  cases outcome with
  | ok found => exact Confined.pure answers
  | error failure =>
      dsimp only
      split
      · exact Confined.throw answers
      · exact continueWith_steady answers confined

theorem lookUp_steady {stratum : Stratum} {middle : Nat} :
    Steady input.stream middle (lookUp input stratum start) fun found =>
      ∀ entry, found = some entry → Settled input.stream start entry := by
  intro before orderly
  refine ⟨.refl orderly, ?_⟩
  intro entry found
  change (if input.caching then before.memo.find? stratum start else none) = some entry at found
  split at found
  · exact orderly stratum start entry found
  · cases found

/-- Whenever nesting is too deep, that is felt. -/
def Candid (stream : TokenStream) (attempt : Attempt α) : Prop :=
  ∀ before after outcome, Orderly stream before.memo →
    attempt.run before = .ok outcome after → after.limitFelt = false → Mild outcome

theorem isolated_steady {attempt : Attempt α} {Ends : α → Prop} {p : Prop}
    (confined : Confined input.stream start attempt Ends)
    (candid : p → Candid input.stream attempt) :
    Steady input.stream start (isolated attempt.run) fun result =>
      Answers input.stream start Ends result.value ∧
        (∀ failure, result.superseded = some failure → Within input.stream start failure) ∧
          (p → result.limitFelt = false → Mild result.value) := by
  intro before orderly
  have run := confined { before with noted := [], limitFelt := false } orderly
  unfold isolated
  cases result : attempt.run { before with noted := [], limitFelt := false } with
  | error fault after =>
      rw [result] at run
      exact run
  | ok value after =>
      rw [result] at run
      obtain ⟨effect, answers⟩ := run
      refine ⟨⟨effect.orderly, effect.frame, ⟨[], rfl, by simp⟩, effect.counted,
        effect.reported, effect.nesting, effect.met⟩, answers,
        Within.deepestNoted (effect.noted_within rfl),
        fun holds => candid holds _ after value ?_ result⟩
      exact orderly

theorem remember_steady {stratum : Stratum} {entry : Memo.Entry}
    (inside : start ≤ input.stream.lastIndex) (settled : Settled input.stream start entry) :
    Steady input.stream start
      (modify fun state => { state with memo := state.memo.insert stratum start entry })
      fun _ => True := by
  intro before orderly
  refine ⟨⟨orderly.insert settled, fun other place outside => ?_, ⟨[], rfl, by simp⟩,
    Nat.le_refl _, rfl, rfl, [], rfl, by simp⟩, trivial⟩
  have startInside : start ≤ blockEnd input.stream start := le_blockEnd inside
  change (before.memo.insert stratum start entry).find? other place = _
  rw [Memo.find?_insert, if_neg (by omega)]

theorem remembered_confined {stratum : Stratum} {compute : Attempt (Match Expr)}
    (inside : start ≤ input.stream.lastIndex)
    (confined : Confined input.stream start compute (SpansExpr input.stream start))
    (candid : startsExpression (input.stream.kindAt start) = false →
      Candid input.stream compute) :
    Confined input.stream start (remembered input stratum start compute)
      (SpansExpr input.stream start) := by
  refine Steady.bind lookUp_steady ?_
  intro found known
  cases found with
  | some entry =>
      have settled := known entry rfl
      refine Steady.bind (.noteAny settled.within) fun _ _ => ?_
      have metWithin : ∀ failure ∈ entry.superseded.toList, Within input.stream start failure :=
        fun failure member => settled.within failure (by simpa using member)
      split
      · exact Steady.bind (.meet metWithin) fun _ _ => Steady.pure settled.answers
      · exact Steady.pure settled.answers
  | none =>
      refine Steady.bind (isolated_steady confined candid) ?_
      intro result post
      obtain ⟨answers, within, mild⟩ := post
      refine Steady.bind (.noteAny within) fun _ _ => ?_
      by_cases felt : result.limitFelt = true
      · simp only [felt, if_true]
        exact Steady.pure answers
      · have unfelt : result.limitFelt = false := by simpa using felt
        simp only [unfelt]
        refine Steady.bind (remember_steady inside ⟨answers, within, fun hopeless => ?_⟩)
          fun _ _ => Steady.pure answers
        exact mild hopeless unfelt

end Primitives

section Specifiers

variable {input : Input} {start : Nat}

theorem specifierRun_reaches {count : Nat} {lower : Nat}
    (reached : Reaches input.stream lower start) :
    Reaches input.stream lower
      (start + (specifierRun input.stream count start).length) := by
  induction count generalizing start with
  | zero => simpa [specifierRun] using reached
  | succ count induction =>
      unfold specifierRun
      split
      · rename_i token found
        split
        · rename_i specifies
          have kindEq : input.stream.kindAt start = token.kind := TokenStream.kindAt_of_get? found
          have next : Reaches input.stream lower (start + 1) := by
            unfold Token.isTypeSpecifier at specifies
            apply reached.step
            · intro atEnd
              rw [← kindEq, atEnd] at specifies
              cases specifies
            · rintro (brace | brace) <;>
                (rw [← kindEq, brace] at specifies; cases specifies)
          have rest := induction next
          simpa [Nat.add_assoc, Nat.add_comm 1] using rest
        · simpa using reached
      · simpa using reached

theorem specifiers_confined (inside : start ≤ input.stream.lastIndex) :
    Confined input.stream start (specifiers input start) (Spans input.stream start) := by
  refine supervise_confined inside (fun _ spans => spans) ?_
  refine Confined.bind (tokenAt_confined inside) fun token found => ?_
  dsimp only
  split
  · exact .throw (.missing_at (.refl inside) _ [])
  · rename_i some
    have positive : 0 < (specifierRun input.stream input.fuel start).length := by
      rw [List.length_pos_iff]
      simpa using some
    exact .pure (.of_stop (by omega) (specifierRun_reaches (.refl inside)) rfl)

end Specifiers

section Strata

variable {input : Input} {nested : Nested} {start middle : Nat}

theorem NestedConfined.expr (nestedConfined : NestedConfined input nested) (stratum : Stratum)
    (reached : Reaches input.stream start middle) :
    Confined input.stream start (nested stratum middle) (SpansExpr input.stream middle) :=
  (nestedConfined stratum middle reached.inside).from_later reached

theorem assignmentForm_confined (nestedConfined : NestedConfined input nested)
    (inside : start ≤ input.stream.lastIndex) :
    Confined input.stream start (assignmentForm input nested start)
      (SpansExpr input.stream start) := by
  refine supervise_confined inside (fun _ spans => spans.toSpans) ?_
  refine Confined.bind (nestedConfined .unary start inside) fun target targetSpans => ?_
  cases operator : AssignOperator.ofKind? (input.kindAt target.stop) with
  | none => exact .throw (.missing_at targetSpans.reaches _ [])
  | some operator =>
      have next : Reaches input.stream start (target.stop + 1) :=
        targetSpans.reaches.operator operator ⟨rfl, rfl, rfl⟩
      refine Confined.bind (nestedConfined.expr .assignment next) fun value valueSpans => ?_
      exact .pure ⟨.of_stop (by have := next.le; have := valueSpans.lt; omega)
        (next.trans valueSpans.reaches) rfl, targetSpans.starts⟩

theorem climb_confined {operand : Nat → Attempt (Match Expr)} {lower : Nat}
    (operandConfined : ∀ index, index ≤ input.stream.lastIndex →
      Confined input.stream index (operand index) (SpansExpr input.stream index))
    {fuel minLevel index : Nat} {left : Expr}
    (reached : Reaches input.stream lower index)
    (enough : input.stream.lastIndex < index + fuel) :
    Confined input.stream lower (climb input operand fuel minLevel start left index)
      fun found => index ≤ found.stop ∧ Reaches input.stream lower found.stop := by
  induction fuel generalizing minLevel start left index with
  | zero =>
      have := reached.inside
      omega
  | succ fuel induction =>
      unfold climb
      cases operator : BinaryOperator.ofKind? (input.kindAt index) with
      | none => exact .pure ⟨Nat.le_refl _, reached⟩
      | some operator =>
          dsimp only
          split
          · exact .pure ⟨Nat.le_refl _, reached⟩
          · have next : Reaches input.stream lower (index + 1) :=
              reached.operator operator ⟨rfl, rfl, rfl⟩
            refine Confined.bind ((operandConfined (index + 1) next.inside).from_later next)
              fun first firstSpans => ?_
            have afterFirst := firstSpans.lt
            refine Confined.bind (induction (next.trans firstSpans.reaches) (by omega))
              fun right rightEnds => ?_
            have afterRight := rightEnds.1
            refine (induction rightEnds.2 (by omega)).mono fun found ends => ?_
            exact ⟨by have := ends.1; omega, ends.2⟩

theorem fuel_enough (input : Input) (index : Nat) :
    input.stream.lastIndex < index + input.fuel := by
  have sizeEq := input.stream.size_eq
  unfold Input.fuel
  omega

theorem binary_confined (nestedConfined : NestedConfined input nested) {minLevel : Nat}
    (inside : start ≤ input.stream.lastIndex) :
    Confined input.stream start (binary input nested minLevel start)
      (SpansExpr input.stream start) := by
  refine supervise_confined inside (fun _ spans => spans.toSpans) ?_
  refine Confined.bind (nestedConfined .cast start inside) fun first firstSpans => ?_
  have operandConfined := nestedConfined .cast
  refine (climb_confined operandConfined firstSpans.reaches (fuel_enough input _)).mono
    fun found ends => ?_
  exact ⟨⟨by have := firstSpans.lt; have := ends.1; omega, ends.2⟩, firstSpans.starts⟩

theorem castForm_confined (nestedConfined : NestedConfined input nested)
    (opens : input.kindAt start = .leftParen) :
    Confined input.stream start (castForm input nested start)
      (SpansExpr input.stream start) := by
  have inside : start < input.stream.lastIndex :=
    TokenStream.lt_lastIndex_of_kindAt_eq opens (by decide)
  have next := (Reaches.refl (Nat.le_of_lt inside)).next opens rfl
  refine supervise_confined (Nat.le_of_lt inside) (fun _ spans => spans.toSpans) ?_
  refine Confined.bind ((specifiers_confined next.inside).from_later next) fun types typesSpans => ?_
  have afterTypes := next.trans typesSpans.reaches
  refine Confined.bind (expect_confined afterTypes) fun stop closes => ?_
  obtain ⟨rfl, closes⟩ := closes
  have afterParen := afterTypes.next closes rfl
  refine Confined.bind (nestedConfined.expr .cast afterParen) fun operand operandSpans => ?_
  have startKind : startsExpression (input.stream.kindAt start) = true := by
    rw [← Input.kindAt, opens]
    rfl
  exact .pure ⟨.of_stop (by have := afterParen.le; have := operandSpans.lt; omega)
    (afterParen.trans operandSpans.reaches) rfl, startKind⟩

theorem argumentsFrom_confined (nestedConfined : NestedConfined input nested)
    {fuel index : Nat} (reached : Reaches input.stream start index)
    (enough : input.stream.lastIndex < index + fuel) :
    Confined input.stream start (argumentsFrom input nested fuel index)
      fun found => index < found.stop ∧ Reaches input.stream start found.stop := by
  induction fuel generalizing index with
  | zero =>
      have := reached.inside
      omega
  | succ fuel induction =>
      unfold argumentsFrom
      refine Confined.bind (nestedConfined.expr .assignment reached) fun argument spans => ?_
      have after := reached.trans spans.reaches
      have later := spans.lt
      split
      · rename_i closes
        exact .pure ⟨by simp only; omega, after.next closes rfl⟩
      · rename_i comma
        refine Confined.bind (induction (after.next comma rfl) (by omega)) fun rest ends => ?_
        exact .pure ⟨by have := ends.1; simp only; omega, ends.2⟩
      · exact .throw (.missing_at after _ _)

theorem arguments_confined (nestedConfined : NestedConfined input nested)
    (opens : input.kindAt start = .leftParen) :
    Confined input.stream start (arguments input nested start) (Spans input.stream start) := by
  have inside : start < input.stream.lastIndex :=
    TokenStream.lt_lastIndex_of_kindAt_eq opens (by decide)
  have next := (Reaches.refl (Nat.le_of_lt inside)).next opens rfl
  refine supervise_confined (Nat.le_of_lt inside) (fun _ spans => spans) ?_
  split
  · rename_i closes
    exact .pure (.of_stop (by omega) (next.next closes rfl) rfl)
  · refine (argumentsFrom_confined nestedConfined next (fuel_enough input _)).mono
      fun found ends => ?_
    exact ⟨by have := ends.1; omega, ends.2⟩

theorem spansExpr_token {found : Match Expr} (inside : start ≤ input.stream.lastIndex)
    (starts : startsExpression (input.stream.kindAt start) = true)
    (stopEq : found.stop = start + 1) : SpansExpr input.stream start found := by
  have notEnd : input.stream.kindAt start ≠ .endOfInput := by
    intro atEnd
    rw [atEnd] at starts
    cases starts
  have plain : ¬ isBrace (input.stream.kindAt start) := by
    rintro (left | right)
    · rw [left] at starts
      cases starts
    · rw [right] at starts
      cases starts
  exact ⟨.of_stop (Nat.lt_succ_self start) ((Reaches.refl inside).step notEnd plain) stopEq,
    starts⟩

theorem primary_confined (nestedConfined : NestedConfined input nested)
    (inside : start ≤ input.stream.lastIndex) :
    Confined input.stream start (primary input nested start)
      (SpansExpr input.stream start) := by
  refine supervise_confined inside (fun _ spans => spans.toSpans) ?_
  refine Confined.bind (tokenAt_confined inside) fun token found => ?_
  have kindEq : input.stream.kindAt start = token.kind := TokenStream.kindAt_of_get? found
  dsimp only
  cases tokenKind : token.kind
  case identifier | stringLiteral =>
    exact .pure (spansExpr_token inside (by rw [kindEq, tokenKind]; rfl) rfl)
  case integerConstant | doubleConstant | charConstant =>
    cases value : token.constant with
    | number value =>
        exact .pure (spansExpr_token inside (by rw [kindEq, tokenKind]; rfl) rfl)
    | tooLarge =>
        exact Steady.abort ⟨rfl, start, token, found,
          Token.kind_of_constant_tooLarge value, value⟩
    | invalid => exact .throw (.failure_at (.refl inside) _ _)
  case leftParen =>
    have opens : input.kindAt start = .leftParen := kindEq.trans tokenKind
    have next := (Reaches.refl inside).next opens rfl
    refine Confined.bind (nestedConfined.expr .assignment next) fun inner innerSpans => ?_
    have afterInner := next.trans innerSpans.reaches
    refine Confined.bind (expect_confined afterInner) fun stop closes => ?_
    obtain ⟨rfl, closes⟩ := closes
    have later := innerSpans.lt
    exact .pure ⟨.of_stop (by omega) (afterInner.next closes rfl) rfl,
      by rw [kindEq, tokenKind]; rfl⟩
  all_goals exact .throw (.failure_at (.refl inside) _ _)

theorem suffixes_confined (nestedConfined : NestedConfined input nested) {lower : Nat}
    {fuel index : Nat} {node : Expr} (reached : Reaches input.stream lower index)
    (enough : input.stream.lastIndex < index + fuel) :
    Confined input.stream lower (suffixes input nested fuel start node index)
      fun found => index ≤ found.stop ∧ Reaches input.stream lower found.stop := by
  induction fuel generalizing node index with
  | zero =>
      have := reached.inside
      omega
  | succ fuel induction =>
      unfold suffixes
      split
      · rename_i opens
        have next := reached.next opens rfl
        refine Confined.bind (nestedConfined.expr .assignment next) fun subscript spans => ?_
        have after := next.trans spans.reaches
        refine Confined.bind (expect_confined after) fun stop closes => ?_
        obtain ⟨rfl, closes⟩ := closes
        have later := spans.lt
        refine (induction (after.next closes rfl) (by omega)).mono fun found ends => ?_
        exact ⟨by have := ends.1; omega, ends.2⟩
      · rename_i opens
        refine Confined.bind ((arguments_confined nestedConfined opens).from_later reached)
          fun list spans => ?_
        have later := spans.lt
        refine (induction (reached.trans spans.reaches) (by omega)).mono fun found ends => ?_
        exact ⟨by have := ends.1; omega, ends.2⟩
      · exact .pure ⟨Nat.le_refl _, reached⟩

theorem suffixed_confined (nestedConfined : NestedConfined input nested)
    (inside : start ≤ input.stream.lastIndex) :
    Confined input.stream start (suffixed input nested start)
      (SpansExpr input.stream start) := by
  refine supervise_confined inside (fun _ spans => spans.toSpans) ?_
  refine Confined.bind (primary_confined nestedConfined inside) fun first firstSpans => ?_
  refine (suffixes_confined nestedConfined firstSpans.reaches (fuel_enough input _)).mono
    fun found ends => ?_
  exact ⟨⟨by have := firstSpans.lt; have := ends.1; omega, ends.2⟩, firstSpans.starts⟩

theorem startsExpression_of_unary {kind : Kind} {operator : UnaryOperator}
    (denotes : UnaryOperator.ofKind? kind = some operator) : startsExpression kind = true := by
  cases kind <;> first | rfl | cases denotes

theorem expressionBody_confined (nestedConfined : NestedConfined input nested)
    (stratum : Stratum) (inside : start ≤ input.stream.lastIndex) :
    Confined input.stream start (expressionBody input nested stratum start)
      (SpansExpr input.stream start) := by
  cases stratum with
  | assignment =>
      refine firstOf_confined (assignmentForm_confined nestedConfined inside) ?_
      simp only [List.mem_singleton, forall_eq]
      exact binary_confined nestedConfined inside
  | cast =>
      unfold expressionBody
      dsimp only
      split
      · rename_i both
        refine firstOf_confined (castForm_confined nestedConfined both.1) ?_
        simp only [List.mem_singleton, forall_eq]
        exact nestedConfined .unary start inside
      · exact nestedConfined .unary start inside
  | unary =>
      unfold expressionBody
      dsimp only
      split
      · exact suffixed_confined nestedConfined inside
      · rename_i operator denotes
        have next : Reaches input.stream start (start + 1) :=
          (Reaches.refl inside).operator denotes ⟨rfl, rfl, rfl⟩
        refine Confined.bind (nestedConfined.expr .cast next) fun operand operandSpans => ?_
        have starts : startsExpression (input.stream.kindAt start) = true :=
          startsExpression_of_unary denotes
        exact .pure ⟨.of_stop (by have := operandSpans.lt; omega)
          (next.trans operandSpans.reaches) rfl, starts⟩

end Strata

theorem kind_merge (first second : Diagnostic) : (first.merge second).kind = first.kind := by
  unfold Diagnostic.merge Diagnostic.merge?
  split
  · split <;> rfl
  · rfl

theorem deepest_mild {first second : Diagnostic} (firstMild : first.kind ≠ .nestingTooDeep)
    (secondMild : second.kind ≠ .nestingTooDeep) :
    (first.deepest second).kind ≠ .nestingTooDeep := by
  unfold Diagnostic.deepest
  split
  · exact secondMild
  · split
    · exact firstMild
    · rw [kind_merge]
      exact firstMild

namespace Candid

variable {α β : Type} {stream : TokenStream} {start : Nat}

theorem supervise {input : Input} {rule : Attempt (Match α)} (candid : Candid stream rule) :
    Candid stream (supervise input start rule) := by
  intro before after outcome orderly run unfelt
  obtain ⟨between, ran, rfl⟩ := supervise_ok run
  exact candid before between outcome orderly ran (by simpa using unfelt)

theorem refused {first : Attempt α} {next : α → Attempt β} (candid : Candid stream first)
    (refuses : Confined stream start first fun _ => False) : Candid stream (first >>= next) := by
  intro before after outcome orderly run felt
  rcases bind_ok run with ⟨value, between, matched, -⟩ | ⟨failure, failed, rfl⟩
  · have alone := refuses before orderly
    rw [matched] at alone
    exact alone.2.elim
  · have mild := candid _ _ _ orderly failed felt
    exact fun other same => by
      cases same
      exact mild failure rfl

theorem firstOf {first second : Attempt (Match α)} {Ends : Match α → Prop}
    (firstCandid : Candid stream first) (confined : Confined stream start first Ends)
    (secondCandid : Candid stream second) : Candid stream (firstOf first [second]) := by
  intro before after outcome orderly run felt
  rcases firstOf_pair_ok run with
    ⟨only, -⟩ | ⟨failure, between, answer, last, failed, failureMild, ran, chosen⟩
  · exact firstCandid _ _ _ orderly only felt
  · have alone := confined before orderly
    rw [failed] at alone
    have answerMild := secondCandid between last answer alone.1.orderly ran
    cases chosen with
    | found found => exact fun _ impossible => nomatch impossible
    | tooDeep tooDeep => exact answerMild felt
    | deepest mild =>
        intro deepest same
        cases same
        exact deepest_mild failureMild mild

end Candid

section Hopeless

variable {input : Input} {nested : Nested} {start : Nat}

theorem NestedConfined.refuses (nestedConfined : NestedConfined input nested)
    (inside : start ≤ input.stream.lastIndex)
    (hopeless : startsExpression (input.stream.kindAt start) = false) (stratum : Stratum) :
    Confined input.stream start (nested stratum start) fun _ => False := by
  refine (nestedConfined stratum start inside).mono fun found spans => ?_
  have starts := spans.starts
  rw [hopeless] at starts
  cases starts

theorem primary_hopeless (hopeless : startsExpression (input.stream.kindAt start) = false)
    {before after : State} {outcome : Outcome Expr}
    (run : (primary input nested start).run before = .ok outcome after) :
    outcome = .error (.failure .expectedExpression start) ∧
      after = before.meeting input (failure? outcome).toList := by
  obtain ⟨between, ruleRun, rfl⟩ := supervise_ok run
  rcases bind_ok ruleRun with ⟨token, between, ran, rest⟩ | ⟨failure, ran, -⟩
  · obtain ⟨known, looked, same⟩ := lift_ok ran
    cases same
    obtain ⟨found, rfl⟩ := tokenAt_ok looked
    have kindEq : input.stream.kindAt start = token.kind := TokenStream.kindAt_of_get? found
    rw [kindEq] at hopeless
    dsimp only at rest
    split at rest <;> rename_i tokenKind
    case h_7 =>
      cases rest
      exact ⟨rfl, rfl⟩
    all_goals
      rw [tokenKind] at hopeless
      cases hopeless
  · obtain ⟨known, -, impossible⟩ := lift_ok ran
    cases impossible

theorem primary_candid (hopeless : startsExpression (input.stream.kindAt start) = false) :
    Candid input.stream (primary input nested start) := by
  intro before after outcome _ run _ failure same
  rw [(primary_hopeless hopeless run).1] at same
  cases same
  exact nofun

theorem primary_refuses (nestedConfined : NestedConfined input nested)
    (inside : start ≤ input.stream.lastIndex)
    (hopeless : startsExpression (input.stream.kindAt start) = false) :
    Confined input.stream start (primary input nested start) fun _ => False := by
  refine (primary_confined nestedConfined inside).mono fun found spans => ?_
  have starts := spans.starts
  rw [hopeless] at starts
  cases starts

theorem unaryOperator_hopeless {kind : Kind} (hopeless : startsExpression kind = false) :
    UnaryOperator.ofKind? kind = none := by
  cases denotes : UnaryOperator.ofKind? kind with
  | none => rfl
  | some operator =>
      rw [startsExpression_of_unary denotes] at hopeless
      cases hopeless

/-- Too deep nesting is felt where no expression starts. -/
def NestedCandid (input : Input) (nested : Nested) : Prop :=
  ∀ stratum start, start ≤ input.stream.lastIndex →
    startsExpression (input.stream.kindAt start) = false →
      Candid input.stream (nested stratum start)

theorem expressionBody_candid (nestedConfined : NestedConfined input nested)
    (nestedCandid : NestedCandid input nested) (stratum : Stratum)
    (inside : start ≤ input.stream.lastIndex)
    (hopeless : startsExpression (input.stream.kindAt start) = false) :
    Candid input.stream (expressionBody input nested stratum start) := by
  have refuses := nestedConfined.refuses inside hopeless
  cases stratum with
  | assignment =>
      refine .firstOf (.supervise (.refused (nestedCandid .unary start inside hopeless)
        (refuses .unary))) (assignmentForm_confined nestedConfined inside) ?_
      exact .supervise (.refused (nestedCandid .cast start inside hopeless) (refuses .cast))
  | cast =>
      unfold expressionBody
      dsimp only
      split
      · rename_i both
        have opens : input.stream.kindAt start = .leftParen := both.1
        rw [opens] at hopeless
        cases hopeless
      · exact nestedCandid .unary start inside hopeless
  | unary =>
      unfold expressionBody
      have noOperator : UnaryOperator.ofKind? (input.kindAt start) = none :=
        unaryOperator_hopeless hopeless
      dsimp only
      rw [noOperator]
      exact .supervise (.refused (primary_candid hopeless)
        (primary_refuses nestedConfined inside hopeless))

theorem remembered_candid {stratum : Stratum} {compute : Attempt (Match Expr)}
    (hopeless : startsExpression (input.stream.kindAt start) = false)
    (candid : Candid input.stream compute) :
    Candid input.stream (remembered input stratum start compute) := by
  intro before after outcome orderly run felt
  rcases remembered_ok run with ⟨entry, recalled, rfl, -⟩ | ⟨between, -, computed, rfl⟩
  · unfold recalled? at recalled
    split at recalled
    · exact (orderly stratum start entry recalled).mild hopeless
    · cases recalled
  · have unfelt : between.limitFelt = false := (Bool.or_eq_false_iff.mp felt).2
    refine candid _ between outcome ?_ computed unfelt
    exact orderly

theorem tooDeep_candid {α : Type} {levels : Nat} :
    Candid input.stream (tooDeep start levels : Attempt α) := by
  intro before after outcome _ run felt
  cases run
  cases felt

theorem guarded_candid {α : Type} {rule : Attempt (Match α)} (candid : Candid input.stream rule) :
    Candid input.stream (guarded input start rule) := by
  intro before after outcome orderly run felt
  cases guarded_ok run with
  | refused => cases felt
  | admitted _ ran => exact candid before.entered _ outcome orderly ran felt

end Hopeless

/-- Expressions are confined to their starts, whatever nesting is allowed, and where
none starts too deep nesting is felt. -/
theorem expression_settled (input : Input) (budget : Nat) :
    NestedConfined input (expression input budget) ∧
      NestedCandid input (expression input budget) := by
  induction budget with
  | zero =>
      refine ⟨fun stratum start inside => ?_, fun stratum start inside hopeless => ?_⟩
      · exact supervise_confined inside (fun _ spans => spans.toSpans)
          (remembered_confined inside (guarded_confined inside (tooDeep_confined inside))
            fun _ => guarded_candid tooDeep_candid)
      · exact .supervise (remembered_candid hopeless (guarded_candid tooDeep_candid))
  | succ budget induction =>
      obtain ⟨confined, candid⟩ := induction
      have body : ∀ stratum start, start ≤ input.stream.lastIndex →
          startsExpression (input.stream.kindAt start) = false →
            Candid input.stream
              (expressionBody input (expression input budget) stratum start) :=
        fun stratum start inside => expressionBody_candid confined candid stratum inside
      refine ⟨fun stratum start inside => ?_, fun stratum start inside hopeless => ?_⟩
      · exact supervise_confined inside (fun _ spans => spans.toSpans)
          (remembered_confined inside
            (guarded_confined inside (expressionBody_confined confined stratum inside))
            fun hopeless => guarded_candid (body stratum start inside hopeless))
      · exact .supervise
          (remembered_candid hopeless (guarded_candid (body stratum start inside hopeless)))

theorem expression_confined (input : Input) (budget : Nat) :
    NestedConfined input (expression input budget) :=
  (expression_settled input budget).1

end Parser

end MiniC
