import MiniC.Proofs.BracketScan
import MiniC.Proofs.Covering
import MiniC.Proofs.Grammar
import MiniC.Proofs.Remembrance
import MiniC.Proofs.Spanless
import MiniC.Proofs.Stream

/-!
# What expressions and declarators matched is derived

Every match of a rule of expressions or declarators comes with a derivation of
the grammar, whose tree is the node without its spans.  A remembered match has one
as well, so the matches that were remembered are carried along as an invariant.
-/

namespace MiniC.Parser

/-- The rank of the expressions of a stratum. -/
def Stratum.rank : Stratum → Rank
  | .assignment => .assignment
  | .cast => .cast
  | .unary => .unary

/-- A match of an expression is derived. -/
def DerivesMatch (stream : TokenStream) (rank : Rank) (start : Nat) (found : Match Expr) : Prop :=
  Derives stream (.expr rank found.node.withoutSpans) start found.stop

/-- Remembered matches are derived. -/
abbrev Truthful (stream : TokenStream) : Memo → Prop :=
  Recollects fun stratum => DerivesMatch stream stratum.rank

/-- A step of a rule that remembers derived matches only, and whose matches have a property. -/
abbrev Vouched {α : Type} (stream : TokenStream) (attempt : Attempt α) (Post : α → Prop) : Prop :=
  Upholds (fun stratum => DerivesMatch stream stratum.rank) attempt Post

section Expressions

variable {input : Input} {nested : Nested} {start : Nat}

/-- Expressions inside a rule are derived. -/
def NestedVouched (input : Input) (nested : Nested) : Prop :=
  ∀ stratum start, Vouched input.stream (nested stratum start)
    (DerivesMatch input.stream stratum.rank start)

theorem specifierRun_derives {stream : TokenStream} {count start : Nat}
    (nonempty : specifierRun stream count start ≠ []) :
    Specifiers stream (specifierRun stream count start) start
      (start + (specifierRun stream count start).length) := by
  induction count generalizing start with
  | zero => exact absurd rfl nonempty
  | succ count induction =>
      unfold specifierRun at nonempty ⊢
      cases found : stream.get? start with
      | none =>
          rw [found] at nonempty
          exact absurd rfl nonempty
      | some token =>
          simp only [found] at nonempty ⊢
          split at nonempty
          · rename_i specifies
            rw [if_pos specifies]
            by_cases rest : specifierRun stream count (start + 1) = []
            · rw [rest]
              exact .last found specifies
            · have more := Specifiers.more found specifies (induction rest)
              rwa [Nat.add_right_comm] at more
          · exact absurd rfl nonempty

theorem specifiers_vouched :
    Vouched input.stream (specifiers input start)
      fun found => Specifiers input.stream found.node start found.stop := by
  apply Upholds.supervise
  apply Upholds.bind .tokenAt
  intro token _
  apply Upholds.ite
  · exact fun _ => .throw
  · intro nonempty
    apply Upholds.pure
    apply specifierRun_derives
    simpa using nonempty

theorem assignmentForm_vouched (nestedVouched : NestedVouched input nested) :
    Vouched input.stream (assignmentForm input nested start)
      (DerivesMatch input.stream .assignment start) := by
  apply Upholds.supervise
  apply Upholds.bind (nestedVouched .unary start)
  intro target targetDerived
  split
  · exact .throw
  · rename_i operator denotes
    apply Upholds.bind (nestedVouched .assignment _)
    intro value valueDerived
    exact .pure (.assign targetDerived denotes valueDerived)

/-- An expression of a level is one of every looser level. -/
theorem Derives.loosen {stream : TokenStream} {tree : Expr} {level looser stop : Nat}
    (le : looser ≤ level) (derived : Derives stream (.expr (.level level) tree) start stop) :
    Derives stream (.expr (.level looser) tree) start stop := by
  induction level with
  | zero =>
      obtain rfl := Nat.le_zero.mp le
      exact derived
  | succ level induction =>
      rcases Nat.le_or_eq_of_le_succ le with lower | rfl
      · exact induction lower (.tighter derived)
      · exact derived

/-- The operator at an index, if there is one, is of a level below a bound. -/
def OperatorBelow (stream : TokenStream) (bound index : Nat) : Prop :=
  ∀ operator, BinaryOperator.ofKind? (stream.kindAt index) = some operator →
    operator.level < bound

theorem operatorBelow_levels {stream : TokenStream} {index : Nat} :
    OperatorBelow stream BinaryOperator.levels index := by
  intro operator _
  cases operator <;> decide

/-- Climbing extends an expression whose level the next operator does not exceed, until
the next operator is below the least level. -/
theorem climb_vouched {operand : Nat → Attempt (Match Expr)}
    (operandVouched : ∀ start, Vouched input.stream (operand start)
      (DerivesMatch input.stream .cast start))
    {fuel minLevel level index : Nat} {left : Expr} (le : minLevel ≤ level)
    (leftDerived : Derives input.stream (.expr (.level level) left.withoutSpans) start index)
    (next : OperatorBelow input.stream (level + 1) index) :
    Vouched input.stream (climb input operand fuel minLevel start left index) fun found =>
      DerivesMatch input.stream (.level minLevel) start found ∧
        OperatorBelow input.stream minLevel found.stop := by
  induction fuel generalizing minLevel level start left index with
  | zero => exact .abort
  | succ fuel induction =>
      unfold climb
      split
      · rename_i none
        apply Upholds.pure
        refine ⟨leftDerived.loosen le, fun operator denotes => ?_⟩
        cases none.symm.trans denotes
      · rename_i operator denotes
        apply Upholds.ite
        · intro below
          apply Upholds.pure
          refine ⟨leftDerived.loosen le, fun other otherDenotes => ?_⟩
          cases denotes.symm.trans otherDenotes
          exact below
        · intro enough
          apply Upholds.bind (operandVouched (index + 1))
          intro first firstDerived
          have bound : operator.level ≤ level := Nat.le_of_lt_succ (next operator denotes)
          have operandBound : operator.level + 1 ≤ BinaryOperator.levels := by
            cases operator <;> decide
          apply Upholds.bind (induction operandBound (.operand firstDerived)
            fun other denotes => Nat.lt_succ_of_lt (operatorBelow_levels other denotes))
          rintro right ⟨rightDerived, rightNext⟩
          exact induction (Nat.le_of_not_lt enough)
            (.binary (leftDerived.loosen bound) denotes rightDerived) rightNext

theorem binary_vouched (nestedVouched : NestedVouched input nested) {minLevel : Nat}
    (le : minLevel ≤ BinaryOperator.levels) :
    Vouched input.stream (binary input nested minLevel start)
      (DerivesMatch input.stream (.level minLevel) start) := by
  apply Upholds.supervise
  apply Upholds.bind (nestedVouched .cast start)
  intro first firstDerived
  exact (climb_vouched (nestedVouched .cast) le (.operand firstDerived) fun other denotes =>
    Nat.lt_succ_of_lt (operatorBelow_levels other denotes)).mono fun _ climbed => climbed.1

theorem castForm_vouched (nestedVouched : NestedVouched input nested)
    (opens : input.stream.kindAt start = .leftParen) :
    Vouched input.stream (castForm input nested start)
      (DerivesMatch input.stream .cast start) := by
  apply Upholds.supervise
  apply Upholds.bind specifiers_vouched
  intro types typesDerived
  apply Upholds.bind .expect
  rintro afterTypes ⟨rfl, closes⟩
  apply Upholds.bind (nestedVouched .cast _)
  intro operand operandDerived
  exact .pure (.cast opens typesDerived closes operandDerived)

theorem argumentsFrom_vouched (nestedVouched : NestedVouched input nested) {fuel index : Nat} :
    Vouched input.stream (argumentsFrom input nested fuel index) fun found =>
      ∃ stop, found.stop = stop + 1 ∧ input.stream.kindAt stop = .rightParen ∧
        Derives input.stream (.arguments (Expr.listWithoutSpans found.node)) index stop := by
  induction fuel generalizing index with
  | zero => exact .abort
  | succ fuel induction =>
      unfold argumentsFrom
      apply Upholds.bind (nestedVouched .assignment index)
      intro argument argumentDerived
      split
      · rename_i closes
        exact .pure ⟨_, rfl, closes, .lastArgument argumentDerived⟩
      · rename_i comma
        apply Upholds.bind induction
        rintro rest ⟨stop, stopEq, closes, restDerived⟩
        exact .pure ⟨stop, stopEq, closes, .moreArguments argumentDerived comma restDerived⟩
      · exact .throw

theorem primary_vouched (nestedVouched : NestedVouched input nested) :
    Vouched input.stream (primary input nested start)
      (DerivesMatch input.stream .primary start) := by
  apply Upholds.supervise
  apply Upholds.bind .tokenAt
  intro token found
  have kindEq : input.stream.kindAt start = token.kind := TokenStream.kindAt_of_get? found
  dsimp only
  cases tokenKind : token.kind
  case identifier => exact .pure (.identifier found tokenKind)
  case integerConstant | doubleConstant | charConstant =>
    cases value : token.constant with
    | number value => exact .pure (.number found (by rw [tokenKind]; rfl) value)
    | tooLarge => exact .abort
    | invalid => exact .throw
  case stringLiteral => exact .pure (.string found tokenKind)
  case leftParen =>
    apply Upholds.bind (nestedVouched .assignment _)
    intro inner innerDerived
    apply Upholds.bind .expect
    rintro stop ⟨rfl, closes⟩
    exact .pure (.paren (kindEq.trans tokenKind) innerDerived closes)
  all_goals exact .throw

theorem suffixes_vouched (nestedVouched : NestedVouched input nested) {fuel index : Nat}
    {node : Expr}
    (derived : Derives input.stream (.expr .suffixed node.withoutSpans) start index) :
    Vouched input.stream (suffixes input nested fuel start node index)
      (DerivesMatch input.stream .suffixed start) := by
  induction fuel generalizing node index with
  | zero => exact .abort
  | succ fuel induction =>
      unfold suffixes
      split
      · rename_i opens
        apply Upholds.bind (nestedVouched .assignment _)
        intro subscript subscriptDerived
        apply Upholds.bind .expect
        rintro stop ⟨rfl, closes⟩
        exact induction (.subscript derived opens subscriptDerived closes)
      · rename_i opens
        have list : Vouched input.stream (arguments input nested index) fun found =>
            Derives input.stream
              (.expr .suffixed (.call none node.withoutSpans (Expr.listWithoutSpans found.node)))
              start found.stop := by
          apply Upholds.supervise
          apply Upholds.ite
          · exact fun closes => .pure (.emptyCall derived opens closes)
          · intro _
            apply (argumentsFrom_vouched nestedVouched).mono
            rintro found ⟨stop, stopEq, closes, argumentsDerived⟩
            rw [stopEq]
            exact .call derived opens argumentsDerived closes
        apply Upholds.bind list
        exact fun found called => induction called
      · exact .pure derived

theorem suffixed_vouched (nestedVouched : NestedVouched input nested) :
    Vouched input.stream (suffixed input nested start)
      (DerivesMatch input.stream .suffixed start) := by
  apply Upholds.supervise
  apply Upholds.bind (primary_vouched nestedVouched)
  exact fun first firstDerived => suffixes_vouched nestedVouched (.bare firstDerived)

theorem expressionBody_vouched (nestedVouched : NestedVouched input nested) (stratum : Stratum) :
    Vouched input.stream (expressionBody input nested stratum start)
      (DerivesMatch input.stream stratum.rank start) := by
  cases stratum with
  | assignment =>
      apply Upholds.firstOf_pair (assignmentForm_vouched nestedVouched)
      exact (binary_vouched nestedVouched (Nat.zero_le _)).mono fun _ => .unassigned
  | cast =>
      have unary : Vouched input.stream (nested .unary start)
          (DerivesMatch input.stream .cast start) :=
        (nestedVouched .unary start).mono fun _ => .uncast
      apply Upholds.ite
      · exact fun opens => .firstOf_pair (castForm_vouched nestedVouched opens.1) unary
      · exact fun _ => unary
  | unary =>
      unfold expressionBody
      dsimp only
      split
      · exact (suffixed_vouched nestedVouched).mono fun _ => .unsigned
      · rename_i operator denotes
        apply Upholds.bind (nestedVouched .cast _)
        exact fun operand operandDerived => .pure (.unary denotes operandDerived)

theorem expression_vouched (input : Input) (budget : Nat) :
    NestedVouched input (expression input budget) := by
  induction budget with
  | zero => exact fun stratum start => .supervise (.remembered (.guarded .tooDeep))
  | succ budget induction =>
      exact fun stratum start => .supervise (.remembered
        (.guarded (expressionBody_vouched induction stratum)))

end Expressions

section Declarators

variable {input : Input} {nested : Nested} {resolver : Resolver} {start stop : Nat}

theorem kind_of_opens {kind : Kind} {bracket : Bracket}
    (opens : bracketRole kind = .opens bracket) :
    kind = match bracket with
      | .round => .leftParen
      | .square => .leftBracket := by
  unfold bracketRole at opens
  split at opens <;> cases opens <;> rfl

theorem kind_of_closes {kind : Kind} {bracket : Bracket}
    (closes : bracketRole kind = .closes bracket) :
    kind = match bracket with
      | .round => .rightParen
      | .square => .rightBracket := by
  unfold bracketRole at closes
  split at closes <;> cases closes <;> rfl

/-- The bracket that a backward scan ends with opens the outermost bracket that is closed. -/
theorem scanBackward_opens {stream : TokenStream} {close count opening : Nat}
    {closed : List Pending} {outermost : Pending}
    (scanned : scanBackward stream close start (closed ++ [outermost]) count =
      .ok (.ok opening)) :
    bracketRole (stream.kindAt opening) = .opens outermost.bracket := by
  induction count generalizing closed with
  | zero => cases scanned
  | succ count induction =>
      cases scanBackward_step scanned with
      | closes _ rest =>
          rw [← List.cons_append] at rest
          exact induction rest
      | opensLast role last found =>
          obtain ⟨-, rfl⟩ := List.append_singleton_inj.mp (last.trans (List.nil_append _).symm)
          rw [found, role]
      | @opens innermost outer role nested more rest =>
          obtain ⟨inner, rfl⟩ : ∃ inner, outer = inner ++ [outermost] := by
            cases closed with
            | nil =>
                cases nested
                exact absurd rfl more
            | cons first inner => exact ⟨inner, (List.cons.inj nested).2.symm⟩
          exact induction rest
      | passes _ rest => exact induction rest

theorem matchBackward_opens {close opening : Nat} {bracket : Bracket} (ordered : start ≤ close)
    (closes : bracketRole (input.stream.kindAt close) = .closes bracket)
    (matched : matchBackward input close start = .ok (.ok opening)) :
    bracketRole (input.stream.kindAt opening) = .opens bracket := by
  rw [matchBackward_closes ordered closes, ← List.nil_append [_]] at matched
  exact scanBackward_opens matched

theorem Upholds.scanned {stream : TokenStream} {scanned : Scanned} :
    Vouched stream scanned.attempt fun index => scanned = .ok (.ok index) := by
  unfold Scanned.attempt
  split
  · exact .abort
  · exact .throw
  · exact .pure rfl

/-- Shapes of declarators are derived. -/
def ResolverVouched (input : Input) (resolver : Resolver) : Prop :=
  ∀ start stop, Vouched input.stream (resolver start stop) fun found =>
    Declares input.stream (.declarator found.node.withoutSpans) start stop

theorem declaratorAt_vouched (resolverVouched : ResolverVouched input resolver) :
    Vouched input.stream (declaratorAt input resolver start) fun found =>
      Declares input.stream (.declarator found.node.withoutSpans) start found.stop := by
  apply Upholds.supervise
  apply Upholds.bind .scanned
  intro stop _
  apply Upholds.ite
  · exact fun _ => .throw
  · intro _
    apply Upholds.bind (resolverVouched start stop)
    exact fun resolved resolvedDerived => .pure resolvedDerived

theorem parametersFrom_vouched (resolverVouched : ResolverVouched input resolver)
    {closing fuel index : Nat} :
    Vouched input.stream (parametersFrom input resolver closing fuel index) fun list =>
      Declares input.stream (.parameters (DeclarationRoot.listWithoutSpans list)) index
        closing := by
  induction fuel generalizing index with
  | zero => exact .abort
  | succ fuel induction =>
      unfold parametersFrom
      apply Upholds.bind specifiers_vouched
      intro types typesDerived
      apply Upholds.bind (declaratorAt_vouched resolverVouched)
      intro declared declaredDerived
      apply Upholds.ite
      · rintro rfl
        exact .pure (.lastParameter typesDerived declaredDerived)
      · intro _
        apply Upholds.ite
        · intro comma
          apply Upholds.bind induction
          intro rest restDerived
          exact .pure (.moreParameters typesDerived declaredDerived comma restDerived)
        · exact fun _ => .throw

theorem arraySize_vouched (nestedVouched : NestedVouched input nested) {opening closing : Nat} :
    Vouched input.stream (arraySize nested opening closing) fun size =>
      match size with
      | none => closing = opening + 1
      | some size =>
          Derives input.stream (.expr .assignment size.withoutSpans) (opening + 1) closing := by
  apply Upholds.ite
  · exact fun bare => .pure bare
  · intro _
    apply Upholds.bind (nestedVouched .assignment _)
    intro size sizeDerived
    apply Upholds.ite
    · rintro rfl
      exact .pure sizeDerived
    · exact fun _ => .throw

theorem parameters_vouched (resolverVouched : ResolverVouched input resolver)
    {opening closing : Nat} :
    Vouched input.stream (parameters input resolver opening closing) fun list =>
      (closing = opening + 1 ∧ list = []) ∨
        Declares input.stream (.parameters (DeclarationRoot.listWithoutSpans list)) (opening + 1)
          closing := by
  apply Upholds.ite
  · exact fun bare => .pure (.inl ⟨bare, rfl⟩)
  · exact fun _ => (parametersFrom_vouched resolverVouched).mono fun _ => .inr

theorem shape_vouched (resolverVouched : ResolverVouched input resolver)
    (nestedVouched : NestedVouched input nested) :
    Vouched input.stream (shape input resolver nested start stop) fun found =>
      Declares input.stream (.declarator found.node.withoutSpans) start stop := by
  apply Upholds.ite
  · exact fun _ => .throw
  · intro nonempty
    obtain ⟨close, rfl⟩ : ∃ close, stop = close + 1 := ⟨stop - 1, by omega⟩
    apply Upholds.bind .tokenAt
    intro last found
    have kindEq : input.stream.kindAt close = last.kind := TokenStream.kindAt_of_get? found
    split
    · rename_i bracket closes
      rw [← kindEq] at closes
      apply Upholds.bind .scanned
      intro opening matched
      have opens := matchBackward_opens (by omega) closes matched
      apply Upholds.ite
      · exact fun _ => .throw
      · intro _
        apply Upholds.bind (resolverVouched start opening)
        intro base baseDerived
        have opensKind := kind_of_opens opens
        have closesKind := kind_of_closes closes
        cases bracket with
        | square =>
            apply Upholds.bind (arraySize_vouched nestedVouched)
            rintro (_ | size) sizeDerived
            · obtain rfl : close = opening + 1 := sizeDerived
              exact .pure (.array baseDerived opensKind closesKind)
            · exact .pure (.sizedArray baseDerived opensKind sizeDerived closesKind)
        | round =>
            apply Upholds.bind (parameters_vouched resolverVouched)
            rintro list (⟨rfl, rfl⟩ | listDerived)
            · exact .pure (.function baseDerived opensKind closesKind)
            · exact .pure (.functionOf baseDerived opensKind listDerived closesKind)
    · apply Upholds.ite
      · rintro ⟨only, identifier⟩
        obtain rfl : close = start := Nat.succ.inj only
        exact .pure (.name found identifier)
      · exact fun _ => .throw

theorem resolve_vouched (input : Input) (budget : Nat) :
    ResolverVouched input (resolve input budget) := by
  induction budget with
  | zero => exact fun start stop => .supervise (.guarded .tooDeep)
  | succ budget induction =>
      exact fun start stop => .supervise
        (.guarded (shape_vouched induction (expression_vouched input budget)))

theorem declarator_vouched (input : Input) (budget : Nat) :
    Vouched input.stream (declarator input budget start) fun found =>
      Declares input.stream (.declarator found.node.withoutSpans) start found.stop :=
  declaratorAt_vouched (resolve_vouched input budget)

/-- Every declarator is derived. -/
def DeclaratorsVouched (input : Input) (declared : Nat → Attempt (Match Declarator)) : Prop :=
  ∀ start, Vouched input.stream (declared start) fun found =>
    Declares input.stream (.declarator found.node.withoutSpans) start found.stop

section Declarations

variable {declared : Nat → Attempt (Match Declarator)} (nestedVouched : NestedVouched input nested)
  (declaredVouched : DeclaratorsVouched input declared)

include nestedVouched

theorem initialValue_vouched {index : Nat} :
    Vouched input.stream (initialValue input nested index) fun initial =>
      DerivesInitial input.stream (initial.1.map Expr.withoutSpans) index initial.2 := by
  apply Upholds.ite
  · intro assigns
    apply Upholds.bind (nestedVouched .assignment _)
    exact fun value valueDerived => .pure (.some assigns valueDerived)
  · exact fun _ => .pure .none

include declaredVouched

theorem initDeclarators_vouched {fuel index : Nat} :
    Vouched input.stream (initDeclarators input nested declared fuel index) fun found =>
      DerivesItems input.stream (InitDeclarator.listWithoutSpans found.node) index
        found.stop := by
  induction fuel generalizing index with
  | zero => exact .abort
  | succ fuel induction =>
      unfold initDeclarators
      apply Upholds.bind (declaredVouched index)
      intro declared declaredDerived
      apply Upholds.bind (initialValue_vouched nestedVouched)
      rintro ⟨value, stop⟩ valueDerived
      apply Upholds.ite
      · intro comma
        apply Upholds.bind induction
        intro rest restDerived
        exact .pure (.more declaredDerived valueDerived comma restDerived)
      · exact fun _ => .pure (.last declaredDerived valueDerived)

theorem plainDeclaration_vouched :
    Vouched input.stream (plainDeclaration input nested declared start) fun found =>
      DerivesDeclaration input.stream found.node.withoutSpans start found.stop := by
  apply Upholds.supervise
  apply Upholds.bind specifiers_vouched
  intro types typesDerived
  have listed : Vouched input.stream (declaredItems input nested declared types.stop)
      fun found =>
        (found.node = [] ∧ found.stop = types.stop) ∨
          DerivesItems input.stream (InitDeclarator.listWithoutSpans found.node) types.stop
            found.stop := by
    apply Upholds.ite
    · exact fun _ => .pure (.inl ⟨rfl, rfl⟩)
    · exact fun _ => (initDeclarators_vouched nestedVouched declaredVouched).mono
        fun _ => .inr
  apply Upholds.bind listed
  rintro list listDerived
  apply Upholds.bind .expect
  rintro stop ⟨rfl, semicolon⟩
  apply Upholds.pure
  rcases listDerived with ⟨none, same⟩ | itemsDerived
  · rw [none]
    rw [same] at semicolon ⊢
    exact .bare typesDerived semicolon
  · exact .declared typesDerived itemsDerived semicolon

end Declarations

theorem declaration_vouched (input : Input) (budget : Nat) :
    Vouched input.stream (declaration input budget start) fun found =>
      DerivesDeclaration input.stream found.node.withoutSpans start found.stop :=
  plainDeclaration_vouched (expression_vouched input budget)
    fun _ => declarator_vouched input budget

end Declarators

end MiniC.Parser
