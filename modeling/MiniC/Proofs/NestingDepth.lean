import MiniC.Proofs.BracketBalance
import MiniC.Proofs.Covering
import MiniC.Proofs.Levels
import MiniC.Proofs.Memoisation

/-!
# How deep guarded calls nest

Every guarded call needs room for itself and for the calls below it.  What it needs
is bounded by what is left of the stream from its start on: an expression calls a
tighter one at the same start, or any one further on; a shape calls one that ends
earlier, or anything further on that ends no later; a statement calls an expression
at the same start, or anything further on.  So with room for five calls a token no
run is ever short of room.
-/

namespace MiniC.Parser

/-- How many strata of expressions may call each other at the same start. -/
def Stratum.weight : Stratum → Nat
  | .assignment => 3
  | .cast => 2
  | .unary => 1

/-- The guarded calls that are active at a time below an expression, itself included. -/
def exprNeed (stream : TokenStream) (stratum : Stratum) (start : Nat) : Nat :=
  3 * (stream.lastIndex - start) + stratum.weight

/-- The guarded calls that are active at a time below a shape, itself included. -/
def shapeNeed (stream : TokenStream) (start stop : Nat) : Nat :=
  (stop - start) + 3 * (stream.lastIndex - start) + 1

/-- The guarded calls that are active at a time below a statement, itself included. -/
def statementNeed (stream : TokenStream) (start : Nat) : Nat :=
  5 * (stream.lastIndex - start) + 4

/-- Expressions need no more levels than is said. -/
def NestedNeeds (input : Input) (budget need : Nat) (nested : Nested) : Prop :=
  ∀ stratum start, start ≤ input.stream.lastIndex → exprNeed input.stream stratum start ≤ need →
    Needs input budget need (nested stratum start)

/-- Shapes need no more levels than is said. -/
def ResolverNeeds (input : Input) (budget need : Nat) (resolver : Resolver) : Prop :=
  ∀ start stop, Clear input.stream start stop → shapeNeed input.stream start stop ≤ need →
    Needs input budget need (resolver start stop)

/-- Declarators need no more levels than a shape that goes up to the end. -/
def DeclaratorsNeed (input : Input) (budget need : Nat)
    (declared : Nat → Attempt (Match Declarator)) : Prop :=
  ∀ start, start ≤ input.stream.lastIndex →
    shapeNeed input.stream start input.stream.lastIndex ≤ need →
      Needs input budget need (declared start)

/-- Statements need no more levels than is said. -/
def StatementsNeed (input : Input) (budget need : Nat)
    (inner : Nat → Attempt (Match Statement)) : Prop :=
  ∀ start, start ≤ input.stream.lastIndex → statementNeed input.stream start ≤ need →
    Needs input budget need (inner start)

/-- Declarations need no more than four levels for each token after their start. -/
def DeclarationsNeed (input : Input) (budget need : Nat)
    (declarations : Nat → Attempt (Match Declaration)) : Prop :=
  ∀ start, start ≤ input.stream.lastIndex → 4 * (input.stream.lastIndex - start) ≤ need →
    Needs input budget need (declarations start)

section Expressions

variable {input : Input} {budget need : Nat} {nested : Nested} {base start : Nat}

theorem NestedNeeds.later (needs : NestedNeeds input budget need nested)
    (enough : 3 * (input.stream.lastIndex - base) ≤ need) (ahead : base < start)
    (inside : start ≤ input.stream.lastIndex) (stratum : Stratum) :
    Needs input budget need (nested stratum start) := by
  apply needs stratum start inside
  have weighs : stratum.weight ≤ 3 := by cases stratum <;> decide
  unfold exprNeed
  omega

theorem specifiers_needs (inside : start ≤ input.stream.lastIndex) :
    Needs input budget need (specifiers input start) :=
  .supervise (.token inside fun _ _ => .ite (fun _ => .throw) fun _ => .pure)

variable (confined : NestedConfined input nested)
  (needs : NestedNeeds input budget need nested)

include confined needs

theorem assignmentForm_needs (inside : start ≤ input.stream.lastIndex)
    (enough : exprNeed input.stream .assignment start ≤ need + 1) :
    Needs input budget need (assignmentForm input nested start) := by
  simp only [exprNeed, Stratum.weight] at enough
  have tighter : exprNeed input.stream .unary start ≤ need := by
    simp only [exprNeed, Stratum.weight]
    omega
  refine .supervise (.bind (needs .unary start inside tighter) (confined .unary start inside)
    fun target targetSpans => ?_)
  cases operator : AssignOperator.ofKind? (input.kindAt target.stop) with
  | none => exact .throw
  | some operator =>
      have next : Reaches input.stream start (target.stop + 1) :=
        targetSpans.reaches.operator operator ⟨rfl, rfl, rfl⟩
      have ahead := targetSpans.lt
      exact .bind (needs.later (by omega) (Nat.lt_succ_of_lt ahead) next.inside .assignment)
        (confined.expr .assignment next) fun _ _ => .pure

theorem climb_needs (enough : 3 * (input.stream.lastIndex - base) ≤ need)
    {fuel minLevel index : Nat} {left : Expr} (ahead : base < index)
    (inside : index ≤ input.stream.lastIndex) (ample : input.stream.lastIndex < index + fuel) :
    Needs input budget need (climb input (nested .cast) fuel minLevel start left index) := by
  induction fuel generalizing minLevel start left index with
  | zero => exact .abort
  | succ fuel induction =>
      unfold climb
      cases denotes : BinaryOperator.ofKind? (input.kindAt index) with
      | none => exact .pure
      | some operator =>
          refine .ite (fun _ => .pure) fun _ => ?_
          have next : Reaches input.stream index (index + 1) :=
            (Reaches.refl inside).operator denotes ⟨rfl, rfl, rfl⟩
          refine .bind (needs.later enough (Nat.lt_succ_of_lt ahead) next.inside .cast)
            (confined.expr .cast next) fun first firstSpans => ?_
          have further := firstSpans.lt
          refine .bind (induction (by omega) firstSpans.inside (by omega))
            (climb_confined (confined .cast) (next.trans firstSpans.reaches) (by omega))
            fun right rightEnds => ?_
          obtain ⟨ordered, reached⟩ := rightEnds
          exact induction (by omega) reached.inside (by omega)

theorem binary_needs {minLevel : Nat} (inside : start ≤ input.stream.lastIndex)
    (enough : exprNeed input.stream .assignment start ≤ need + 1) :
    Needs input budget need (binary input nested minLevel start) := by
  simp only [exprNeed, Stratum.weight] at enough
  have tighter : exprNeed input.stream .cast start ≤ need := by
    simp only [exprNeed, Stratum.weight]
    omega
  refine .supervise (.bind (needs .cast start inside tighter) (confined .cast start inside)
    fun first firstSpans => ?_)
  exact climb_needs confined needs (by omega) firstSpans.lt firstSpans.inside
    (fuel_enough input _)

theorem castForm_needs (opens : input.kindAt start = .leftParen)
    (enough : 3 * (input.stream.lastIndex - start) ≤ need) :
    Needs input budget need (castForm input nested start) := by
  have before : start < input.stream.lastIndex :=
    TokenStream.lt_lastIndex_of_kindAt_eq opens (by decide)
  refine .supervise (.bind (specifiers_needs before) (specifiers_confined before)
    fun types typesSpans => ?_)
  have ahead := typesSpans.lt
  refine .expect typesSpans.reaches fun closes => ?_
  have next := typesSpans.reaches.next closes rfl
  exact .bind (needs.later enough (by omega) next.inside .cast) (confined.expr .cast next)
    fun _ _ => .pure

theorem argumentsFrom_needs (enough : 3 * (input.stream.lastIndex - base) ≤ need)
    {fuel index : Nat} (ahead : base < index) (inside : index ≤ input.stream.lastIndex)
    (ample : input.stream.lastIndex < index + fuel) :
    Needs input budget need (argumentsFrom input nested fuel index) := by
  induction fuel generalizing index with
  | zero => exact .abort
  | succ fuel induction =>
      unfold argumentsFrom
      refine .bind (needs.later enough ahead inside .assignment)
        (confined .assignment index inside) fun argument argumentSpans => ?_
      have further := argumentSpans.lt
      cases kind : input.kindAt argument.stop
      case rightParen => exact .pure
      case comma =>
        have next := argumentSpans.reaches.next kind rfl
        exact .bind (induction (by omega) next.inside (by omega))
          (argumentsFrom_confined confined next (by omega)) fun _ _ => .pure
      all_goals exact .throw

theorem arguments_needs (opens : input.kindAt start = .leftParen)
    (enough : 3 * (input.stream.lastIndex - base) ≤ need) (ahead : base ≤ start) :
    Needs input budget need (arguments input nested start) := by
  have before : start < input.stream.lastIndex :=
    TokenStream.lt_lastIndex_of_kindAt_eq opens (by decide)
  exact .supervise (.ite (fun _ => .pure) fun _ => argumentsFrom_needs confined needs enough
    (Nat.lt_succ_of_le ahead) before (fuel_enough input _))

theorem primary_needs (inside : start ≤ input.stream.lastIndex)
    (enough : 3 * (input.stream.lastIndex - start) ≤ need) :
    Needs input budget need (primary input nested start) := by
  refine .supervise (.token inside fun token found => ?_)
  have kindEq : input.stream.kindAt start = token.kind := TokenStream.kindAt_of_get? found
  dsimp only
  cases tokenKind : token.kind
  case identifier | stringLiteral => exact .pure
  case integerConstant | doubleConstant | charConstant =>
    dsimp only
    cases token.constant with
    | number value => exact .pure
    | tooLarge => exact .abort
    | invalid => exact .throw
  case leftParen =>
    have next := (Reaches.refl inside).next (kindEq.trans tokenKind) rfl
    refine .bind (needs.later enough (Nat.lt_succ_self start) next.inside .assignment)
      (confined.expr .assignment next) fun inner innerSpans => ?_
    exact .expect (next.trans innerSpans.reaches) fun _ => .pure
  all_goals exact .throw

theorem suffixes_needs (enough : 3 * (input.stream.lastIndex - base) ≤ need)
    {fuel index : Nat} {node : Expr} (ahead : base < index)
    (inside : index ≤ input.stream.lastIndex) (ample : input.stream.lastIndex < index + fuel) :
    Needs input budget need (suffixes input nested fuel start node index) := by
  induction fuel generalizing node index with
  | zero => exact .abort
  | succ fuel induction =>
      unfold suffixes
      cases kind : input.kindAt index
      case leftBracket =>
        have next := (Reaches.refl inside).next kind rfl
        refine .bind (needs.later enough (Nat.lt_succ_of_lt ahead) next.inside .assignment)
          (confined.expr .assignment next) fun subscript subscriptSpans => ?_
        have reached := next.trans subscriptSpans.reaches
        refine .expect reached fun closes => ?_
        have further := subscriptSpans.lt
        exact induction (by omega) (reached.next closes rfl).inside (by omega)
      case leftParen =>
        refine .bind (arguments_needs confined needs kind enough (Nat.le_of_lt ahead))
          (arguments_confined confined kind) fun list listSpans => ?_
        have further := listSpans.lt
        exact induction (by omega) listSpans.inside (by omega)
      all_goals exact .pure

theorem suffixed_needs (inside : start ≤ input.stream.lastIndex)
    (enough : 3 * (input.stream.lastIndex - start) ≤ need) :
    Needs input budget need (suffixed input nested start) :=
  .supervise (.bind (primary_needs confined needs inside enough)
    (primary_confined confined inside) fun _ firstSpans =>
      suffixes_needs confined needs enough firstSpans.lt firstSpans.inside (fuel_enough input _))

theorem expressionBody_needs (stratum : Stratum) (inside : start ≤ input.stream.lastIndex)
    (enough : exprNeed input.stream stratum start ≤ need + 1) :
    Needs input budget need (expressionBody input nested stratum start) := by
  cases stratum with
  | assignment =>
      exact .firstOf_pair (assignmentForm_needs confined needs inside enough)
        (assignmentForm_confined confined inside) (binary_needs confined needs inside enough)
        (binary_confined confined inside)
  | cast =>
      simp only [exprNeed, Stratum.weight] at enough
      have unary : Needs input budget need (nested .unary start) := by
        apply needs .unary start inside
        simp only [exprNeed, Stratum.weight]
        omega
      refine .ite (fun both => ?_) fun _ => unary
      exact .firstOf_pair (castForm_needs confined needs both.1 (by omega))
        (castForm_confined confined both.1) unary (confined .unary start inside)
  | unary =>
      simp only [exprNeed, Stratum.weight] at enough
      unfold expressionBody
      dsimp only
      cases denotes : UnaryOperator.ofKind? (input.kindAt start) with
      | none => exact suffixed_needs confined needs inside (by omega)
      | some operator =>
          have next : Reaches input.stream start (start + 1) :=
            (Reaches.refl inside).operator denotes ⟨rfl, rfl, rfl⟩
          exact .bind (needs.later (by omega) (Nat.lt_succ_self start) next.inside .cast)
            (confined.expr .cast next) fun _ _ => .pure

end Expressions

section Declarators

variable {input : Input} {budget need : Nat} {nested : Nested}
  {resolver : Resolver} {start stop : Nat}

theorem scanned_yields {scanned : Scanned} :
    Yields scanned.attempt fun index => scanned = .ok (.ok index) := by
  unfold Scanned.attempt
  split
  · exact fun _ _ _ run => nomatch run
  · exact .throw
  · exact .pure rfl

theorem findEnd_inside (inside : start ≤ input.stream.lastIndex)
    (ended : findEnd input start = .ok (.ok stop)) : stop ≤ input.stream.lastIndex := by
  have scan : ScanConfined input.stream start _ (findEnd input start) := findEnd_confined inside
  rw [ended] at scan
  exact scan.2.inside

theorem declaratorAt_needs (confined : ResolverConfined input resolver)
    (needs : ResolverNeeds input budget need resolver) {bound : Nat}
    (inside : start ≤ input.stream.lastIndex)
    (bounded : ∀ stop, findEnd input start = .ok (.ok stop) → stop ≤ bound)
    (enough : shapeNeed input.stream start bound ≤ need) :
    Needs input budget need (declaratorAt input resolver start) := by
  refine .supervise (.bind .scanned
    ((attempt_confined (findEnd_confined inside)).and_yields scanned_yields)
    fun stop ends => .ite (fun _ => .throw) fun _ => ?_)
  obtain ⟨⟨-, clear⟩, ended⟩ := ends
  have below := bounded stop ended
  refine .bind (needs start stop clear ?_) (confined start stop clear) fun _ _ => .pure
  unfold shapeNeed at enough ⊢
  omega

theorem declaratorAt_yields :
    Yields (declaratorAt input resolver start) fun found =>
      findEnd input start = .ok (.ok found.stop) :=
  .supervise (.bind scanned_yields fun _ ended =>
    .ite .throw (.andThen fun _ => .pure ended))

/-- The parameters of a shape end before its closing bracket. -/
theorem parametersFrom_needs (confined : ResolverConfined input resolver)
    (needs : ResolverNeeds input budget need resolver) {closing : Nat}
    (before : closing < stop) (closingInside : closing ≤ input.stream.lastIndex)
    (enough : shapeNeed input.stream start stop ≤ need + 1) {fuel index : Nat}
    (ahead : start < index) (shut : Shut input.stream index closing)
    (ample : input.stream.lastIndex < index + fuel) :
    Needs input budget need (parametersFrom input resolver closing fuel index) := by
  induction fuel generalizing index with
  | zero => exact .abort
  | succ fuel induction =>
      have inside : index ≤ input.stream.lastIndex := Nat.le_trans shut.le closingInside
      have typesEnd : Yields (specifiers input index) fun found => found.stop ≤ closing :=
        .supervise (.andThen fun _ => .ite .throw (.pure shut.specifierRun_le))
      unfold parametersFrom
      refine .bind (specifiers_needs inside) ((specifiers_confined inside).and_yields typesEnd)
        fun types ends => ?_
      obtain ⟨typesSpans, typesBefore⟩ := ends
      have further := typesSpans.lt
      have shutTypes := shut.from_later (Nat.le_of_lt further) typesBefore
      have smaller : shapeNeed input.stream types.stop closing ≤ need := by
        unfold shapeNeed at enough ⊢
        omega
      refine .bind (declaratorAt_needs confined needs typesSpans.inside
          (fun stop ended => shutTypes.findEndFrom_le ended) smaller)
        ((declaratorAt_confined confined typesSpans.inside).and_yields declaratorAt_yields)
        fun declared ends => ?_
      obtain ⟨declaredSpans, ended⟩ := ends
      have later := declaredSpans.lt
      have declaredBefore := shutTypes.findEndFrom_le ended
      refine .ite (fun _ => .pure) fun notLast => .ite (fun comma => ?_) fun _ => .throw
      have next := (typesSpans.reaches.trans declaredSpans.reaches).next comma rfl
      have shutNext : Shut input.stream (declared.stop + 1) closing :=
        shut.from_later (by omega) (by omega)
      exact .bind (induction (by omega) shutNext (by omega))
        (parametersFrom_confined confined next (by omega)) fun _ _ => .pure

/-- What stands before the last group of a shape, and what stands in it. -/
theorem shape_needs (resolverConfined : ResolverConfined input resolver)
    (resolverNeeds : ResolverNeeds input budget need resolver)
    (nestedConfined : NestedConfined input nested)
    (nestedNeeds : NestedNeeds input budget need nested)
    (clear : Clear input.stream start stop)
    (enough : shapeNeed input.stream start stop ≤ need + 1) :
    Needs input budget need (shape input resolver nested start stop) := by
  have stopInside := clear.inside
  refine .ite (fun _ => .throw) fun nonempty => ?_
  obtain ⟨close, rfl⟩ : ∃ close, stop = close + 1 := ⟨stop - 1, by omega⟩
  refine .token (Nat.le_of_lt stopInside) fun last found => ?_
  rw [Nat.add_sub_cancel] at found
  have kindEq : input.stream.kindAt close = last.kind := TokenStream.kindAt_of_get? found
  rw [Nat.add_sub_cancel]
  cases role : bracketRole last.kind
  case closes bracket =>
    rw [← kindEq] at role
    have ordered : start ≤ close := by omega
    refine .bind .scanned
      ((attempt_confined (matchBackward_confined clear ordered role)).and_yields scanned_yields)
      fun opening ends => .ite (fun _ => .throw) fun notFirst => ?_
    obtain ⟨⟨lower, upper⟩, matched⟩ := ends
    have baseClear : Clear input.stream start opening :=
      ⟨lower, by omega, fun index first last => clear.plain index first (by omega)⟩
    have reached : Reaches input.stream start (opening + 1) :=
      clear.reaches (by omega) (by omega)
    have smaller : shapeNeed input.stream start opening ≤ need := by
      unfold shapeNeed at enough ⊢
      omega
    refine .bind (resolverNeeds start opening baseClear smaller)
      (resolverConfined start opening baseClear) fun base _ => ?_
    cases bracket with
    | square =>
        have room : 3 * (input.stream.lastIndex - start) ≤ need := by
          unfold shapeNeed at enough
          omega
        have size : Needs input budget need (arraySize nested opening close) :=
          .ite (fun _ => .pure) fun _ =>
            .bind (nestedNeeds.later room (by omega) reached.inside .assignment)
              (nestedConfined.expr .assignment reached) fun _ _ =>
                .ite (fun _ => .pure) fun _ => .throw
        exact .bind size (arraySize_confined nestedConfined reached) fun _ _ => .pure
    | round =>
        have list : Needs input budget need (parameters input resolver opening close) :=
          .ite (fun _ => .pure) fun _ =>
            parametersFrom_needs resolverConfined resolverNeeds (Nat.lt_succ_self close)
              (Nat.le_of_lt stopInside) enough (by omega)
              (matchBackward_shut ordered role matched upper) (fuel_enough input _)
        exact .bind list (parameters_confined resolverConfined reached) fun _ _ => .pure
  all_goals exact .ite (fun _ => .pure) fun _ => .throw

end Declarators

section Declarations

variable {input : Input} {budget need : Nat} {nested : Nested}
  {declared : Nat → Attempt (Match Declarator)} {base start : Nat}

variable (nestedConfined : NestedConfined input nested)
  (nestedNeeds : NestedNeeds input budget need nested)
  (declaredConfined : DeclaratorsConfined input declared)
  (declaredNeed : DeclaratorsNeed input budget need declared)

include nestedConfined nestedNeeds declaredConfined declaredNeed

theorem initDeclarators_needs (enough : 4 * (input.stream.lastIndex - base) ≤ need)
    {fuel index : Nat} (ahead : base < index) (inside : index ≤ input.stream.lastIndex)
    (ample : input.stream.lastIndex < index + fuel) :
    Needs input budget need (initDeclarators input nested declared fuel index) := by
  induction fuel generalizing index with
  | zero => exact .abort
  | succ fuel induction =>
      unfold initDeclarators
      have smaller : shapeNeed input.stream index input.stream.lastIndex ≤ need := by
        unfold shapeNeed
        omega
      refine .bind (declaredNeed index inside smaller) (declaredConfined index inside)
        fun first firstSpans => ?_
      have further := firstSpans.lt
      have value : Needs input budget need (initialValue input nested first.stop) := by
        refine .ite (fun assigns => ?_) fun _ => .pure
        have next := firstSpans.reaches.next assigns rfl
        have room : 3 * (input.stream.lastIndex - base) ≤ need := by omega
        exact .bind (nestedNeeds.later room (by omega) next.inside .assignment)
          (nestedConfined.expr .assignment next) fun _ _ => .pure
      refine .bind value (initialValue_confined nestedConfined firstSpans.reaches)
        fun initial ends => ?_
      obtain ⟨ordered, reached⟩ := ends
      refine .ite (fun comma => ?_) fun _ => .pure
      have next := reached.next comma rfl
      exact .bind (induction (by omega) next.inside (by omega))
        (initDeclarators_confined nestedConfined declaredConfined next (by omega))
        fun _ _ => .pure

theorem plainDeclaration_needs :
    DeclarationsNeed input budget need (plainDeclaration input nested declared) := by
  intro start inside enough
  refine .supervise (.bind (specifiers_needs inside) (specifiers_confined inside)
    fun types typesSpans => ?_)
  have items : Needs input budget need (declaredItems input nested declared types.stop) :=
    .ite (fun _ => .pure) fun _ => initDeclarators_needs nestedConfined nestedNeeds
      declaredConfined declaredNeed enough typesSpans.lt typesSpans.inside (fuel_enough input _)
  refine .bind items (declaredItems_confined nestedConfined declaredConfined typesSpans.reaches)
    fun list reached => ?_
  exact .expect reached fun _ => .pure

omit nestedConfined nestedNeeds in
theorem definition_needs {bodies : Nat → Attempt (Match Block)}
    (bodiesConfined : ∀ start, start ≤ input.stream.lastIndex →
      Confined input.stream start (bodies start) (SpansKept input.stream start))
    (bodiesNeed : ∀ start, start ≤ input.stream.lastIndex →
      5 * (input.stream.lastIndex - start) ≤ need + 1 → Needs input budget need (bodies start))
    (inside : start ≤ input.stream.lastIndex) (enough : 5 * input.stream.lastIndex ≤ need) :
    Needs input budget need (definition input declared bodies start) := by
  refine .supervise (.bind (specifiers_needs inside) (specifiers_confined inside)
    fun types typesSpans => ?_)
  have ahead := typesSpans.lt
  have typesInside := typesSpans.inside
  have smaller : shapeNeed input.stream types.stop input.stream.lastIndex ≤ need := by
    unfold shapeNeed
    omega
  refine .bind (declaredNeed types.stop typesInside smaller)
    (declaredConfined types.stop typesInside) fun first firstSpans => ?_
  refine .ite (fun _ => ?_) fun _ => .throw
  have firstInside := firstSpans.inside
  exact .bind (bodiesNeed first.stop firstInside (by omega))
    (bodiesConfined first.stop firstInside) fun _ _ => .pure

end Declarations

section Statements

variable {input : Input} {budget need : Nat} {nested : Nested}
  {inner : Nat → Attempt (Match Statement)} {declarations : Nat → Attempt (Match Declaration)}
  {start : Nat}

theorem StatementsNeed.later (needs : StatementsNeed input budget need inner)
    {base : Nat} (enough : 5 * (input.stream.lastIndex - base) ≤ need + 1) (ahead : base < start)
    (inside : start ≤ input.stream.lastIndex) :
    Needs input budget need (inner start) := by
  apply needs start inside
  unfold statementNeed
  omega

theorem blockItem_needs (innerConfined : StatementsConfined input inner)
    (innerNeeds : StatementsNeed input budget need inner)
    (declarationsConfined : DeclarationsConfined input declarations)
    (declarationsNeeds : DeclarationsNeed input budget need declarations)
    {base : Nat} (enough : 5 * (input.stream.lastIndex - base) ≤ need + 1) (ahead : base < start)
    (inside : start ≤ input.stream.lastIndex) :
    Needs input budget need (blockItem inner declarations start) := by
  have smaller : 4 * (input.stream.lastIndex - start) ≤ need := by omega
  refine .firstOf_pair
    (.bind (declarationsNeeds start inside smaller) (declarationsConfined start inside)
      fun _ _ => .pure)
    (Confined.bind (declarationsConfined start inside) fun found ends => ?_)
    (innerNeeds.later enough ahead inside) (innerConfined start inside)
  exact .pure (.clean ⟨ends.1.lt, ends.1.reaches⟩ ends.2)

theorem compound_needs (innerConfined : StatementsConfined input inner)
    (innerNeeds : StatementsNeed input budget need inner)
    (declarationsConfined : DeclarationsConfined input declarations)
    (declarationsNeeds : DeclarationsNeed input budget need declarations)
    (inside : start ≤ input.stream.lastIndex)
    (enough : 5 * (input.stream.lastIndex - start) ≤ need + 1) :
    Needs input budget need (compound input inner declarations start) := by
  refine .supervise (.expect (.refl inside) fun opens => ?_)
  have before : start < input.stream.lastIndex :=
    TokenStream.lt_lastIndex_of_kindAt_eq opens (by decide)
  have loop : RunNeeds input budget need
      (items input (blockItem inner declarations) "declaration or statement" (start + 1)
        (matchingBrace input start)) := by
    rw [matchingBrace_eq opens]
    have limitInside := blockEnd_le before
    refine itemsFrom_needs limitInside
      (fun _ => blockItem_confined innerConfined declarationsConfined) ?_ (Nat.le_refl _)
    intro index lower upper
    exact blockItem_needs innerConfined innerNeeds declarationsConfined declarationsNeeds enough
      lower (by omega)
  refine .bind (RunNeeds.andThen loop fun _ _ => .refl)
    (.lift (items_steady innerConfined declarationsConfined opens)) fun _ _ => ?_
  exact .ite (fun _ => .pure) fun _ => .pure

theorem condition_needs (confined : NestedConfined input nested)
    (needs : NestedNeeds input budget need nested) (inside : start ≤ input.stream.lastIndex)
    (enough : 3 * (input.stream.lastIndex - start) ≤ need) :
    Needs input budget need (condition input nested start) := by
  refine .supervise (.expect (.refl inside) fun opens => ?_)
  have next := (Reaches.refl inside).next opens rfl
  refine .bind (needs.later enough (Nat.lt_succ_self start) next.inside .assignment)
    (confined.expr .assignment next) fun value valueSpans => ?_
  exact .expect (next.trans valueSpans.reaches) fun _ => .pure

theorem ifStatement_needs (nestedConfined : NestedConfined input nested)
    (nestedNeeds : NestedNeeds input budget need nested)
    (innerConfined : StatementsConfined input inner)
    (innerNeeds : StatementsNeed input budget need inner)
    (inside : start ≤ input.stream.lastIndex)
    (enough : 5 * (input.stream.lastIndex - start) ≤ need + 1) :
    Needs input budget need (ifStatement input nested inner start) := by
  refine .supervise (.expect (.refl inside) fun word => ?_)
  have next := (Reaches.refl inside).next word rfl
  refine .bind (condition_needs nestedConfined nestedNeeds next.inside (by omega))
    (condition_confined nestedConfined next.inside) fun test testSpans => ?_
  have ahead : start < test.stop := Nat.lt_of_succ_lt testSpans.lt
  refine .bind (innerNeeds.later enough ahead testSpans.inside)
    (innerConfined test.stop testSpans.inside) fun thenBranch thenSpans => ?_
  refine .ite (fun alternative => ?_) fun _ => .pure
  have afterThen := thenSpans.reaches.next alternative rfl
  have further := thenSpans.lt
  exact .bind (innerNeeds.later enough (by omega) afterThen.inside)
    (innerConfined _ afterThen.inside) fun _ _ => .pure

theorem whileStatement_needs (nestedConfined : NestedConfined input nested)
    (nestedNeeds : NestedNeeds input budget need nested)
    (innerConfined : StatementsConfined input inner)
    (innerNeeds : StatementsNeed input budget need inner)
    (inside : start ≤ input.stream.lastIndex)
    (enough : 5 * (input.stream.lastIndex - start) ≤ need + 1) :
    Needs input budget need (whileStatement input nested inner start) := by
  refine .supervise (.expect (.refl inside) fun word => ?_)
  have next := (Reaches.refl inside).next word rfl
  refine .bind (condition_needs nestedConfined nestedNeeds next.inside (by omega))
    (condition_confined nestedConfined next.inside) fun test testSpans => ?_
  have ahead : start < test.stop := Nat.lt_of_succ_lt testSpans.lt
  exact .bind (innerNeeds.later enough ahead testSpans.inside)
    (innerConfined test.stop testSpans.inside) fun _ _ => .pure

theorem returnStatement_needs (confined : NestedConfined input nested)
    (needs : NestedNeeds input budget need nested)
    (inside : start ≤ input.stream.lastIndex)
    (enough : 3 * (input.stream.lastIndex - start) ≤ need) :
    Needs input budget need (returnStatement input nested start) := by
  refine .supervise (.expect (.refl inside) fun word => ?_)
  have next := (Reaches.refl inside).next word rfl
  refine .ite (fun _ => .pure) fun _ => ?_
  refine .bind (needs.later enough (Nat.lt_succ_self start) next.inside .assignment)
    (confined.expr .assignment next) fun _ _ => ?_
  exact .ite (fun _ => .pure) fun _ => .pure

theorem wordStatement_needs {word : Kind} {build : Option Span → Statement}
    (simple : isInner word = true) (inside : start ≤ input.stream.lastIndex) :
    Needs input budget need (wordStatement input word build start) := by
  refine .supervise (.expect (.refl inside) fun found => ?_)
  have next := (Reaches.refl inside).next found simple
  exact .expect next fun _ => .pure

theorem emptyStatement_needs (inside : start ≤ input.stream.lastIndex) :
    Needs input budget need (emptyStatement input start) :=
  .supervise (.expect (.refl inside) fun _ => .pure)

theorem expressionStatement_needs (confined : NestedConfined input nested)
    (needs : NestedNeeds input budget need nested)
    (inside : start ≤ input.stream.lastIndex)
    (enough : exprNeed input.stream .assignment start ≤ need) :
    Needs input budget need (expressionStatement input nested start) :=
  .supervise (.bind (needs .assignment start inside enough) (confined .assignment start inside)
    fun _ valueSpans => .expect valueSpans.reaches fun _ => .pure)

theorem statementBody_needs (nestedConfined : NestedConfined input nested)
    (nestedNeeds : NestedNeeds input budget need nested)
    (innerConfined : StatementsConfined input inner)
    (innerNeeds : StatementsNeed input budget need inner)
    (declarationsConfined : DeclarationsConfined input declarations)
    (declarationsNeeds : DeclarationsNeed input budget need declarations)
    (inside : start ≤ input.stream.lastIndex)
    (enough : statementNeed input.stream start ≤ need + 1) :
    Needs input budget need (statementBody input nested inner declarations start) := by
  have block : Confined input.stream start (compound input inner declarations start)
      (SpansKept input.stream start) :=
    compound_confined innerConfined declarationsConfined inside
  have expressionNeed : exprNeed input.stream .assignment start ≤ need := by
    unfold statementNeed at enough
    simp only [exprNeed, Stratum.weight]
    omega
  have laterNeed : 3 * (input.stream.lastIndex - start) ≤ need := by
    unfold statementNeed at enough
    omega
  have blockNeed : 5 * (input.stream.lastIndex - start) ≤ need + 1 := by
    unfold statementNeed at enough
    omega
  refine .describe (.firstOf
    (ifStatement_needs nestedConfined nestedNeeds innerConfined innerNeeds inside blockNeed)
    (ifStatement_confined nestedConfined innerConfined inside) ?_)
  simp only [List.mem_cons, List.not_mem_nil, or_false, forall_eq_or_imp, forall_eq]
  refine ⟨⟨whileStatement_needs nestedConfined nestedNeeds innerConfined innerNeeds inside
      blockNeed, whileStatement_confined nestedConfined innerConfined inside⟩,
    ⟨returnStatement_needs nestedConfined nestedNeeds inside laterNeed,
      returnStatement_confined nestedConfined inside⟩,
    ⟨wordStatement_needs rfl inside, wordStatement_confined rfl inside⟩,
    ⟨wordStatement_needs rfl inside, wordStatement_confined rfl inside⟩,
    ⟨.bind (compound_needs innerConfined innerNeeds declarationsConfined declarationsNeeds inside
      blockNeed) block fun _ _ => .pure, ?_⟩,
    ⟨emptyStatement_needs inside, emptyStatement_confined inside⟩,
    expressionStatement_needs nestedConfined nestedNeeds inside expressionNeed,
    (expressionStatement_confined nestedConfined inside).mono fun _ ends => ends.1⟩
  refine Confined.bind block fun found spans => ?_
  exact .pure ⟨⟨spans.lt, spans.reaches⟩, spans.kept⟩

end Statements

section Knot

variable {input : Input} {budget need start : Nat}

/-- What the guarded rules need within a budget. -/
structure RulesNeed (input : Input) (budget need : Nat) : Prop where
  expr : NestedNeeds input budget need (expression input budget)
  shape : ResolverNeeds input budget need (resolve input budget)
  statement : StatementsNeed input budget need (statement input budget)

namespace RulesNeed

theorem declarator (rules : RulesNeed input budget need) :
    DeclaratorsNeed input budget need (declarator input budget) :=
  fun _ inside enough => declaratorAt_needs (resolve_confined input budget) rules.shape inside
    (fun _ ended => findEnd_inside inside ended) enough

theorem declaration (rules : RulesNeed input budget need) :
    DeclarationsNeed input budget need (declaration input budget) :=
  plainDeclaration_needs (expression_confined input budget) rules.expr
    (declarator_confined input budget) rules.declarator

theorem unitItem (rules : RulesNeed input input.options.maxNesting need)
    (inside : start ≤ input.stream.lastIndex) (enough : 5 * input.stream.lastIndex ≤ need) :
    Needs input input.options.maxNesting need (unitItem input start) := by
  refine .firstOf_pair (rules.declaration start inside (by omega))
    ((declaration_confined _ inside).mono fun _ ends => .clean ends.1 ends.2) ?_
    (functionDefinition_confined _ inside)
  exact definition_needs (declarator_confined input _) rules.declarator
    (fun _ bodyInside => compound_confined (statement_confined input _)
      (fun _ => declaration_confined _) bodyInside)
    (fun _ bodyInside bodyEnough => compound_needs (statement_confined input _) rules.statement
      (fun _ => declaration_confined _) rules.declaration bodyInside bodyEnough) inside enough

end RulesNeed

/-- A guarded rule needs one level more than the rules below it, and these are within one
less of the budget. -/
theorem rules_need (input : Input) (budget need : Nat) : RulesNeed input budget need := by
  induction budget generalizing need with
  | zero =>
      cases need with
      | zero =>
          refine ⟨fun stratum start _ enough => ?_, nofun, nofun⟩
          cases stratum <;> cases enough
      | succ need =>
          exact ⟨fun _ _ _ _ => .supervise (.remembered .exhausted),
            fun _ _ _ _ => .supervise .exhausted, fun _ _ _ => .supervise .exhausted⟩
  | succ budget induction =>
      cases need with
      | zero =>
          refine ⟨fun stratum start _ enough => ?_, nofun, nofun⟩
          cases stratum <;> cases enough
      | succ need =>
          have below := induction need
          have confined := expression_confined input budget
          constructor
          · intro stratum start inside enough
            exact .supervise (.remembered (.guarded
              (expressionBody_needs confined below.expr stratum inside enough)))
          · intro start stop clear enough
            exact .supervise (.guarded
              (shape_needs (resolve_confined input budget) below.shape confined below.expr clear
                enough))
          · intro start inside enough
            exact .supervise (.guarded
              (statementBody_needs confined below.expr (statement_confined input budget)
                below.statement (fun _ => declaration_confined budget) below.declaration
                inside enough))

end Knot

theorem unitItems_levels (input : Input) (state : State) :
    Levels input input.options.maxNesting (5 * input.stream.size) (unitStart input state)
      (finalState (unitItems input state)) := by
  have sizeEq := input.stream.size_eq
  have rules := rules_need input input.options.maxNesting (5 * input.stream.size)
  exact itemsFrom_needs (Nat.le_refl _) (fun _ => unitItem_confined)
    (fun index _ before => rules.unitItem (Nat.le_of_lt before) (by omega))
    (Nat.le_refl 0) _ (orderly_empty input.stream)

/-- The options with a nesting limit of five levels for each token. -/
def sized (stream : TokenStream) (options : ParserOptions) : ParserOptions :=
  { options with
    maxNesting := 5 * stream.size
    maxNesting_pos := Nat.mul_pos (by decide) stream.size_pos }

/-- The nesting limit is not met in a parse where five levels for each token are admitted. -/
theorem parse_unfelt (input : Input) {state : State} (idle : state.nesting = 0)
    (high : 5 * input.stream.size ≤ input.options.maxNesting)
    (spacious : ∀ room ∈ input.stack, 5 * input.stream.size ≤ room) :
    (finalState (parse input state)).limitFelt = state.limitFelt := by
  have admits : Admits input state.nesting (5 * input.stream.size) := by
    rw [idle]
    exact ⟨by omega, fun room known => by have := spacious room known; omega⟩
  have levels := unitItems_levels input state
  rw [parse_run]
  cases run : unitItems input state <;> rw [run] at levels <;> exact levels.unfelt high admits

/-- A parse below two nesting limits of at least five levels for each token. -/
theorem answer_unlimited {stream : TokenStream} {options other : ParserOptions}
    {stack : Option Nat} {state : State} (idle : state.nesting = 0)
    (high : 5 * stream.size ≤ options.maxNesting) (otherHigh : 5 * stream.size ≤ other.maxNesting)
    (spacious : ∀ room ∈ stack, 5 * stream.size ≤ room)
    (maxErrors : other.maxErrors = options.maxErrors) (filename : other.filename = options.filename) :
    answer (parse { stream, options := other, stack } state) =
      answer (parse { stream, options, stack } state) := by
  let lowest : Input := { stream, options := sized stream options, stack, caching := false }
  have unfelt : (finalState (parse lowest { state with limitFelt := false })).limitFelt = false :=
    parse_unfelt lowest idle (Nat.le_refl _) spacious
  have same : ∀ larger : ParserOptions, 5 * stream.size ≤ larger.maxNesting →
      larger.maxErrors = options.maxErrors → larger.filename = options.filename →
      answer (parse { stream, options := larger, stack } state) =
        answer (parse lowest { state with limitFelt := false }) :=
    fun larger enough maxErrors filename =>
      answer_forgetful_from enough maxErrors filename rfl rfl unfelt
  rw [same other otherHigh maxErrors filename, same options high rfl rfl]

/-- Nesting is bounded by the input.  However a parse ends that is started with no guarded
rule active, none is active after it, and at no time were more of them active than the
nesting limit allows, than the stack has room for, or than five for each token.  So where
the limit and the stack allow five for each token, no rule is refused: the limit is not met,
and every other limit that allows as many leads to the same answer. -/
theorem nesting_bounded (stream : TokenStream) (options : ParserOptions) (stack : Option Nat)
    (state : State) (idle : state.nesting = 0) :
    let input : Input := { stream, options, stack }
    let after := finalState (parse input state)
    after.nesting = 0 ∧ after.peak ≤ 5 * stream.size ∧ after.peak ≤ options.maxNesting ∧
      (∀ room ∈ stack, after.peak ≤ room) ∧ fault? (parse input state) ≠ some .stalled ∧
      (5 * stream.size ≤ options.maxNesting → (∀ room ∈ stack, 5 * stream.size ≤ room) →
        after.limitFelt = state.limitFelt ∧
        ∀ other : ParserOptions, 5 * stream.size ≤ other.maxNesting →
          other.maxErrors = options.maxErrors → other.filename = options.filename →
            answer (parse { stream, options := other, stack } state) =
              answer (parse input state)) := by
  intro input after
  have started : (unitStart input state).nesting = 0 := idle
  have levels : Levels input options.maxNesting (5 * stream.size) (unitStart input state)
      after := by
    have items := unitItems_levels input state
    change Levels _ _ _ _ (finalState (parse input state))
    rw [parse_run]
    cases run : unitItems input state <;> rw [run] at items <;>
      exact ⟨items.nesting, items.peak, items.unfelt⟩
  have peak : after.peak = 0 ∨ ∃ active, active < 5 * stream.size ∧ after.peak ≤ active + 1 ∧
      refusal? input active = none := by
    refine levels.peak.imp Nat.le_zero.mp fun ⟨active, below, reached, admitted⟩ =>
      ⟨active, ?_, reached, admitted⟩
    rwa [started, Nat.zero_add] at below
  refine ⟨levels.nesting.trans started, ?_, ?_, fun room known => ?_, ?_, fun high spacious =>
    ⟨parse_unfelt input idle high spacious, fun other otherHigh maxErrors filename =>
      answer_unlimited idle high otherHigh spacious maxErrors filename⟩⟩
  · rcases peak with flat | ⟨active, below, reached, -⟩ <;> omega
  · rcases peak with flat | ⟨active, -, reached, admitted⟩
    · omega
    · exact Nat.le_trans reached (refusal?_eq_none.mp admitted).1
  · rcases peak with flat | ⟨active, -, reached, admitted⟩
    · omega
    · exact Nat.le_trans reached ((refusal?_eq_none.mp admitted).2 room known)
  · have inside := parse_answersInside input state
    cases run : parse input state with
    | ok unit after => exact nofun
    | error fault after =>
        rw [run] at inside
        obtain ⟨rfl, -⟩ := inside
        exact nofun

/-- An array whose size stands in parentheses. -/
def sizedStream : TokenStream :=
  { tokens := #[
      { kind := .intWord, lexeme := "int", line := 1 },
      { kind := .identifier, lexeme := "a", line := 1 },
      { kind := .leftBracket, lexeme := "[", line := 1 },
      { kind := .leftParen, lexeme := "(", line := 1 },
      { kind := .identifier, lexeme := "n", line := 1 },
      { kind := .rightParen, lexeme := ")", line := 1 },
      { kind := .rightBracket, lexeme := "]", line := 1 },
      { kind := .semicolon, lexeme := ";", line := 1 },
      { kind := .endOfInput, lexeme := "", line := 1 }]
    terminated := rfl }

/-- Five levels are active at a time in the parse of an array whose size stands in
parentheses.  A stack with room for four of them is noticed. -/
theorem nesting_bounded_sized :
    (finalState (parse { stream := sizedStream, options := {} } {})).peak = 5 ∧
      (finalState (parse { stream := sizedStream, options := {}, stack := some 4 }
        {})).limitFelt = true ∧
      (finalState (parse { stream := sizedStream, options := {}, stack := some 45 }
        {})).limitFelt = false := by
  have bounded := nesting_bounded sizedStream {} (some 45) {} rfl
  obtain ⟨-, -, -, -, -, unlimited⟩ := bounded
  exact ⟨by decide +kernel, by decide +kernel, (unlimited (by decide) (by decide)).1⟩

end MiniC.Parser
