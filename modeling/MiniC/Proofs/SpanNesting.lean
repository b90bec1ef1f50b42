import MiniC.Proofs.Remembrance
import MiniC.Proofs.Supervision
import MiniC.Proofs.TreeSpans

/-!
# The spans of a parsed tree nest

Every rule reads the parts of its node one after the other, from its start to the end
of its match, so they make up a row and the node occupies the tokens of the match.
A remembered expression does so as well, and so does what recovery keeps: the items
of a sequence lie one after the other, whatever was skipped between them.
-/

namespace MiniC.Parser

/-- A match of an expression occupies its tokens. -/
def OccupiesMatch (_stratum : Stratum) (start : Nat) (found : Match Expr) : Prop :=
  Occupies start found.stop found.node.tree

section Expressions

variable {input : Input} {nested : Nested} {start : Nat}

/-- Expressions inside a rule occupy their tokens. -/
def NestedPlaced (nested : Nested) : Prop :=
  ∀ stratum start, Upholds OccupiesMatch (nested stratum start) (OccupiesMatch stratum start)

theorem specifiers_placed :
    Upholds OccupiesMatch (specifiers input start) fun found => start < found.stop := by
  refine .supervise (.bind .tokenAt fun token _ => .ite (fun _ => .throw) fun nonempty => ?_)
  refine .pure (Nat.lt_add_of_pos_right (List.length_pos_iff.mpr ?_))
  simpa using nonempty

theorem assignmentForm_placed (nestedPlaced : NestedPlaced nested) :
    Upholds OccupiesMatch (assignmentForm input nested start)
      (OccupiesMatch .assignment start) := by
  refine .supervise (.bind (nestedPlaced .unary start) fun target targetPlaced => ?_)
  split
  · exact .throw
  · refine .bind (nestedPlaced .assignment _) fun value valuePlaced => .pure ?_
    have row := targetPlaced.row.append (valuePlaced.row.from_earlier (Nat.le_succ _))
    exact row.branch (Nat.lt_of_lt_of_le targetPlaced.nonempty
      (Nat.le_of_lt (Nat.lt_of_succ_lt valuePlaced.nonempty)))

/-- The operands of an operator lie on both sides of it. -/
theorem climb_placed {operand : Nat → Attempt (Match Expr)}
    (operandPlaced : ∀ start, Upholds OccupiesMatch (operand start) (OccupiesMatch .cast start))
    {fuel minLevel index : Nat} {left : Expr} (leftPlaced : Occupies start index left.tree) :
    Upholds OccupiesMatch (climb input operand fuel minLevel start left index) fun found =>
      Occupies start found.stop found.node.tree := by
  induction fuel generalizing minLevel start left index with
  | zero => exact .abort
  | succ fuel induction =>
      unfold climb
      split
      · exact .pure leftPlaced
      · refine .ite (fun _ => .pure leftPlaced) fun _ => ?_
        refine .bind (operandPlaced (index + 1)) fun first firstPlaced => ?_
        refine .bind (induction firstPlaced) fun right rightPlaced => ?_
        have row := leftPlaced.row.append (rightPlaced.row.from_earlier (Nat.le_succ _))
        exact induction (row.branch (Nat.lt_of_lt_of_le leftPlaced.nonempty
          (Nat.le_of_lt (Nat.lt_of_succ_lt rightPlaced.nonempty))))

theorem binary_placed (nestedPlaced : NestedPlaced nested) {minLevel : Nat} :
    Upholds OccupiesMatch (binary input nested minLevel start)
      (OccupiesMatch .assignment start) :=
  .supervise (.bind (nestedPlaced .cast start) fun _ firstPlaced =>
    climb_placed (nestedPlaced .cast) firstPlaced)

theorem castForm_placed (nestedPlaced : NestedPlaced nested) :
    Upholds OccupiesMatch (castForm input nested start) (OccupiesMatch .cast start) := by
  refine .supervise (.bind specifiers_placed fun types typesPlaced => ?_)
  refine .bind .expect fun afterTypes closes => ?_
  refine .bind (nestedPlaced .cast afterTypes) fun operand operandPlaced => .pure ?_
  have nonempty := operandPlaced.nonempty
  have ordered : start ≤ afterTypes := by omega
  exact (operandPlaced.row.from_earlier ordered).branch (by omega)

theorem argumentsFrom_placed (nestedPlaced : NestedPlaced nested) {fuel index : Nat} :
    Upholds OccupiesMatch (argumentsFrom input nested fuel index) fun found =>
      Row index found.stop (Expr.trees found.node) := by
  induction fuel generalizing index with
  | zero => exact .abort
  | succ fuel induction =>
      unfold argumentsFrom
      refine .bind (nestedPlaced .assignment index) fun argument argumentPlaced => ?_
      split
      · exact .pure (argumentPlaced.row.up_to (Nat.le_succ _))
      · refine .bind induction fun rest restPlaced => .pure ?_
        exact argumentPlaced.row.append (restPlaced.from_earlier (Nat.le_succ _))
      · exact .throw

theorem arguments_placed (nestedPlaced : NestedPlaced nested) :
    Upholds OccupiesMatch (arguments input nested start) fun found =>
      Row (start + 1) found.stop (Expr.trees found.node) :=
  .supervise (.ite (fun _ => .pure (.nil (Nat.le_succ _))) fun _ =>
    argumentsFrom_placed nestedPlaced)

theorem primary_placed (nestedPlaced : NestedPlaced nested) :
    Upholds OccupiesMatch (primary input nested start) (OccupiesMatch .unary start) := by
  refine .supervise (.bind .tokenAt fun token _ => ?_)
  dsimp only
  cases token.kind
  case identifier | stringLiteral => exact .pure (.leaf (Nat.lt_succ_self start))
  case integerConstant | doubleConstant | charConstant =>
    dsimp only
    split
    · exact .pure (.leaf (Nat.lt_succ_self start))
    · exact .abort
    · exact .throw
  case leftParen =>
    refine .bind (nestedPlaced .assignment _) fun inner innerPlaced => ?_
    refine .bind .expect fun stop closes => .pure ?_
    have nonempty := innerPlaced.nonempty
    have ordered : inner.stop ≤ stop := by omega
    exact ((innerPlaced.row.from_earlier (Nat.le_succ start)).up_to ordered).branch (by omega)
  all_goals exact .throw

theorem suffixes_placed (nestedPlaced : NestedPlaced nested) {fuel index : Nat} {node : Expr}
    (placed : Occupies start index node.tree) :
    Upholds OccupiesMatch (suffixes input nested fuel start node index)
      (OccupiesMatch .unary start) := by
  induction fuel generalizing node index with
  | zero => exact .abort
  | succ fuel induction =>
      have nonempty := placed.nonempty
      unfold suffixes
      split
      · refine .bind (nestedPlaced .assignment _) fun subscript subscriptPlaced => ?_
        refine .bind .expect fun stop closes => ?_
        have further := subscriptPlaced.nonempty
        have ordered : subscript.stop ≤ stop := by omega
        have row := placed.row.append
          ((subscriptPlaced.row.from_earlier (Nat.le_succ index)).up_to ordered)
        exact induction (row.branch (by omega))
      · refine .bind (arguments_placed nestedPlaced) fun list listPlaced => ?_
        have further := listPlaced.le
        have row := placed.row.append (listPlaced.from_earlier (Nat.le_succ index))
        exact induction (row.branch (by omega))
      · exact .pure placed

theorem suffixed_placed (nestedPlaced : NestedPlaced nested) :
    Upholds OccupiesMatch (suffixed input nested start) (OccupiesMatch .unary start) :=
  .supervise (.bind (primary_placed nestedPlaced) fun _ firstPlaced =>
    suffixes_placed nestedPlaced firstPlaced)

theorem expressionBody_placed (nestedPlaced : NestedPlaced nested) (stratum : Stratum) :
    Upholds OccupiesMatch (expressionBody input nested stratum start)
      (OccupiesMatch stratum start) := by
  cases stratum with
  | assignment =>
      exact .firstOf_pair (assignmentForm_placed nestedPlaced) (binary_placed nestedPlaced)
  | cast =>
      have unary : Upholds OccupiesMatch (nested .unary start) (OccupiesMatch .cast start) :=
        nestedPlaced .unary start
      exact .ite (fun _ => .firstOf_pair (castForm_placed nestedPlaced) unary) fun _ => unary
  | unary =>
      unfold expressionBody
      dsimp only
      split
      · exact suffixed_placed nestedPlaced
      · refine .bind (nestedPlaced .cast _) fun operand operandPlaced => .pure ?_
        have nonempty := operandPlaced.nonempty
        exact (operandPlaced.row.from_earlier (Nat.le_succ start)).branch (by omega)

theorem expression_placed (input : Input) (budget : Nat) :
    NestedPlaced (expression input budget) := by
  induction budget with
  | zero => exact fun stratum start => .supervise (.remembered (.guarded .tooDeep))
  | succ budget induction =>
      exact fun stratum start => .supervise
        (.remembered (.guarded (expressionBody_placed induction stratum)))

end Expressions

section Declarators

variable {input : Input} {nested : Nested} {resolver : Resolver} {start stop : Nat}

/-- Shapes of declarators occupy the tokens that they are resolved from. -/
def ResolverPlaced (resolver : Resolver) : Prop :=
  ∀ start stop, Upholds OccupiesMatch (resolver start stop) fun found =>
    Occupies start stop found.node.tree

theorem scanned_placed {scanned : Scanned} :
    Upholds OccupiesMatch scanned.attempt fun _ => True := by
  unfold Scanned.attempt
  split
  · exact .abort
  · exact .throw
  · exact .pure trivial

theorem declaratorAt_placed (resolverPlaced : ResolverPlaced resolver) :
    Upholds OccupiesMatch (declaratorAt input resolver start) fun found =>
      Occupies start found.stop found.node.tree :=
  .supervise (.bind scanned_placed fun stop _ => .ite (fun _ => .throw) fun _ =>
    .bind (resolverPlaced start stop) fun _ resolvedPlaced => .pure resolvedPlaced)

theorem Occupies.single {middle : Nat} {declarator : Declarator} (types : List Token)
    (declared : Occupies middle stop declarator.tree) (ordered : start < middle) :
    Occupies start stop
      (DeclarationRoot.single (covering start stop) types declarator).tree := by
  have nonempty := declared.nonempty
  have row : Row start stop [declarator.tree, .absent] :=
    .cons (Nat.le_of_lt ordered) declared (.absent (.nil (Nat.le_refl _)))
  exact row.branch (by omega)

theorem parametersFrom_placed (resolverPlaced : ResolverPlaced resolver)
    {closing fuel index : Nat} :
    Upholds OccupiesMatch (parametersFrom input resolver closing fuel index) fun list =>
      Row index closing (DeclarationRoot.trees list) := by
  induction fuel generalizing index with
  | zero => exact .abort
  | succ fuel induction =>
      unfold parametersFrom
      refine .bind specifiers_placed fun types typesPlaced => ?_
      refine .bind (declaratorAt_placed resolverPlaced) fun declared declaredPlaced => ?_
      have parameter := Occupies.single types.node declaredPlaced typesPlaced
      refine .ite (fun last => .pure ?_) fun _ => .ite (fun _ => ?_) fun _ => .throw
      · rw [last] at parameter ⊢
        exact parameter.row
      · refine .bind induction fun rest restPlaced => .pure ?_
        exact parameter.row.append (restPlaced.from_earlier (Nat.le_succ _))

theorem parameters_placed (resolverPlaced : ResolverPlaced resolver) {opening closing : Nat} :
    Upholds OccupiesMatch (parameters input resolver opening closing) fun list =>
      Row (opening + 1) closing (DeclarationRoot.trees list) :=
  .ite (fun bare => .pure (.nil (Nat.le_of_eq bare.symm))) fun _ =>
    parametersFrom_placed resolverPlaced

theorem arraySize_placed (nestedPlaced : NestedPlaced nested) {opening closing : Nat} :
    Upholds OccupiesMatch (arraySize nested opening closing) fun size =>
      Row (opening + 1) closing [Expr.optionalTree size] := by
  refine .ite (fun bare => .pure (.absent (.nil (Nat.le_of_eq bare.symm)))) fun _ => ?_
  refine .bind (nestedPlaced .assignment _) fun size sizePlaced => ?_
  refine .ite (fun last => .pure ?_) fun _ => .throw
  rw [← last]
  exact sizePlaced.row

/-- What stands before the last group of a declarator, and then what stands inside it. -/
theorem shape_placed (resolverPlaced : ResolverPlaced resolver)
    (nestedPlaced : NestedPlaced nested) :
    Upholds OccupiesMatch (shape input resolver nested start stop) fun found =>
      Occupies start stop found.node.tree := by
  refine .ite (fun _ => .throw) fun nonempty => .bind .tokenAt fun last _ => ?_
  have ordered : start < stop := Nat.lt_of_not_le nonempty
  have closes : stop - 1 ≤ stop := Nat.sub_le _ _
  split
  · refine .bind scanned_placed fun opening _ => .ite (fun _ => .throw) fun _ => ?_
    refine .bind (resolverPlaced start opening) fun base basePlaced => ?_
    split
    · refine .bind (arraySize_placed nestedPlaced) fun size sizePlaced => .pure ?_
      have row := basePlaced.row.append (sizePlaced.from_earlier (Nat.le_succ opening))
      exact (row.up_to closes).branch ordered
    · refine .bind (parameters_placed resolverPlaced) fun list listPlaced => .pure ?_
      have row := basePlaced.row.append (listPlaced.from_earlier (Nat.le_succ opening))
      exact (row.up_to closes).branch ordered
  · exact .ite (fun _ => .pure (.leaf ordered)) fun _ => .throw

theorem resolve_placed (input : Input) (budget : Nat) :
    ResolverPlaced (resolve input budget) := by
  induction budget with
  | zero => exact fun start stop => .supervise (.guarded .tooDeep)
  | succ budget induction =>
      exact fun start stop => .supervise
        (.guarded (shape_placed induction (expression_placed input budget)))

theorem declarator_placed (input : Input) (budget : Nat) :
    Upholds OccupiesMatch (declarator input budget start) fun found =>
      Occupies start found.stop found.node.tree :=
  declaratorAt_placed (resolve_placed input budget)

end Declarators

section Declarations

variable {input : Input} {nested : Nested} {declared : Nat → Attempt (Match Declarator)}
  {start : Nat}

/-- Declarators inside a rule occupy their tokens. -/
def DeclaratorsPlaced (declared : Nat → Attempt (Match Declarator)) : Prop :=
  ∀ start, Upholds OccupiesMatch (declared start) fun found =>
    Occupies start found.stop found.node.tree

theorem initialValue_placed (nestedPlaced : NestedPlaced nested) {index : Nat} :
    Upholds OccupiesMatch (initialValue input nested index) fun initial =>
      Row index initial.2 [Expr.optionalTree initial.1] := by
  refine .ite (fun _ => ?_) fun _ => .pure (.absent (.nil (Nat.le_refl _)))
  refine .bind (nestedPlaced .assignment _) fun value valuePlaced => .pure ?_
  exact valuePlaced.row.from_earlier (Nat.le_succ index)

theorem initDeclarators_placed (nestedPlaced : NestedPlaced nested)
    (declaredPlaced : DeclaratorsPlaced declared) {fuel index : Nat} :
    Upholds OccupiesMatch (initDeclarators input nested declared fuel index) fun found =>
      Row index found.stop (InitDeclarator.writtenTrees found.node) := by
  induction fuel generalizing index with
  | zero => exact .abort
  | succ fuel induction =>
      unfold initDeclarators
      refine .bind (declaredPlaced index) fun first firstPlaced => ?_
      refine .bind (initialValue_placed nestedPlaced) fun initial initialPlaced => ?_
      have item := firstPlaced.row.append initialPlaced
      refine .ite (fun _ => ?_) fun _ => .pure item
      refine .bind induction fun rest restPlaced => .pure ?_
      exact item.append (restPlaced.from_earlier (Nat.le_succ _))

theorem declaredItems_placed (nestedPlaced : NestedPlaced nested)
    (declaredPlaced : DeclaratorsPlaced declared) {index : Nat} :
    Upholds OccupiesMatch (declaredItems input nested declared index) fun found =>
      Row index found.stop (InitDeclarator.writtenTrees found.node) :=
  .ite (fun _ => .pure (.nil (Nat.le_refl _))) fun _ =>
    initDeclarators_placed nestedPlaced declaredPlaced

theorem plainDeclaration_placed (nestedPlaced : NestedPlaced nested)
    (declaredPlaced : DeclaratorsPlaced declared) :
    Upholds OccupiesMatch (plainDeclaration input nested declared start) fun found =>
      Occupies start found.stop found.node.tree := by
  refine .supervise (.bind specifiers_placed fun types typesPlaced => ?_)
  refine .bind (declaredItems_placed nestedPlaced declaredPlaced) fun list listPlaced => ?_
  refine .bind .expect fun stop closes => .pure ?_
  have further := listPlaced.le
  have root : Occupies start list.stop
      (DeclarationRoot.tree (.mk (covering start list.stop) types.node list.node)) := by
    have row := listPlaced.from_earlier (Nat.le_of_lt typesPlaced)
    refine row.occupies (by omega) (InitDeclarator.trees_perm list.node) fun sequence => ?_
    rcases sequence with impossible | impossible <;> simp [Tree.label?] at impossible
  have row : Row start stop
      [(DeclarationRoot.mk (covering start list.stop) types.node list.node).tree, .absent] :=
    .cons (Nat.le_refl _) root (.absent (.nil (by omega)))
  exact row.branch (by omega)

theorem definition_placed (declaredPlaced : DeclaratorsPlaced declared)
    {bodies : Nat → Attempt (Match Block)}
    (bodiesPlaced : ∀ index, Upholds OccupiesMatch (bodies index) fun found =>
      Occupies index found.stop found.node.tree) :
    Upholds OccupiesMatch (definition input declared bodies start) fun found =>
      Occupies start found.stop found.node.tree := by
  refine .supervise (.bind specifiers_placed fun types typesPlaced => ?_)
  refine .bind (declaredPlaced types.stop) fun first firstPlaced => ?_
  refine .ite (fun _ => ?_) fun _ => .throw
  refine .bind (bodiesPlaced first.stop) fun body bodyPlaced => .pure ?_
  have root := Occupies.single types.node firstPlaced typesPlaced
  have afterRoot := root.nonempty
  have afterBody := bodyPlaced.nonempty
  exact (root.row.append bodyPlaced.row).branch (by omega)

theorem declaration_placed (input : Input) (budget : Nat) :
    Upholds OccupiesMatch (declaration input budget start) fun found =>
      Occupies start found.stop found.node.tree :=
  plainDeclaration_placed (expression_placed input budget) fun _ => declarator_placed input budget

end Declarations

section Loop

variable {α : Type} {input : Input} {item : Nat → Attempt (Match α)} {description : String}
  {limit : Nat} {treeOf : α → Tree}

/-- The items that the rounds of a loop keep make up a row. -/
theorem Rounds.row
    (placed : ∀ index, Upholds OccupiesMatch (item index) fun found =>
      Occupies index found.stop (treeOf found.node))
    {index : Nat} {before after : State} {found : Match (List α)}
    (rounds : Rounds input item description limit index before found after)
    (recollects : Recollects OccupiesMatch before.memo) :
    Recollects OccupiesMatch after.memo ∧ Row index found.stop (found.node.map treeOf) := by
  induction rounds with
  | done => exact ⟨recollects, .nil (Nat.le_refl _)⟩
  | full more => exact ⟨recollects, .nil (Nat.le_of_lt more)⟩
  | @kept index state between last found rest more below run tail induction =>
      obtain ⟨kept, itemPlaced⟩ := placed index { state with noted := [] } _ between recollects run
      obtain ⟨afterwards, restPlaced⟩ := induction kept
      exact ⟨afterwards, (itemPlaced found rfl).row.append restPlaced⟩
  | @skipped index resume state between last failure rest more below run ahead inside beyond tail
      induction =>
      obtain ⟨kept, -⟩ := placed index { state with noted := [] } _ between recollects run
      obtain ⟨afterwards, restPlaced⟩ := induction kept
      exact ⟨afterwards, restPlaced.from_earlier (Nat.le_of_lt ahead)⟩

end Loop

section Statements

variable {input : Input} {nested : Nested} {inner : Nat → Attempt (Match Statement)}
  {declarations : Nat → Attempt (Match Declaration)} {start : Nat}

/-- Statements inside a rule occupy their tokens. -/
def StatementsPlaced (inner : Nat → Attempt (Match Statement)) : Prop :=
  ∀ start, Upholds OccupiesMatch (inner start) fun found =>
    Occupies start found.stop found.node.tree

/-- Declarations inside a rule occupy their tokens. -/
def DeclarationsPlaced (declarations : Nat → Attempt (Match Declaration)) : Prop :=
  ∀ start, Upholds OccupiesMatch (declarations start) fun found =>
    Occupies start found.stop found.node.tree

theorem blockItem_placed (innerPlaced : StatementsPlaced inner)
    (declarationsPlaced : DeclarationsPlaced declarations) :
    StatementsPlaced (blockItem inner declarations) :=
  fun start => .firstOf_pair
    (.bind (declarationsPlaced start) fun _ foundPlaced => .pure foundPlaced) (innerPlaced start)

theorem items_placed (innerPlaced : StatementsPlaced inner)
    (declarationsPlaced : DeclarationsPlaced declarations) {description : String}
    (opens : input.kindAt start = .leftBrace) :
    Upholds OccupiesMatch
      (liftM (items input (blockItem inner declarations) description (start + 1)
        (matchingBrace input start)) : Attempt (Match (List Statement)))
      fun list => Row (start + 1) list.stop (Statement.trees list.node) := by
  have inside : start < input.stream.lastIndex :=
    TokenStream.lt_lastIndex_of_kindAt_eq opens (by decide)
  intro before outcome after recollects run
  obtain ⟨list, loop, rfl⟩ := lift_ok run
  rw [matchingBrace_eq opens] at loop
  have rounds := itemsFrom_rounds (blockEnd_le inside) loop
  obtain ⟨kept, row⟩ :=
    rounds.row (blockItem_placed innerPlaced declarationsPlaced) recollects
  refine ⟨kept, fun value same => ?_⟩
  cases same
  rw [Statement.trees_eq_map]
  exact row

theorem compound_placed (innerPlaced : StatementsPlaced inner)
    (declarationsPlaced : DeclarationsPlaced declarations) :
    Upholds OccupiesMatch (compound input inner declarations start) fun found =>
      Occupies start found.stop found.node.tree := by
  refine .supervise (.bind .expect fun first opens => ?_)
  obtain ⟨rfl, opens⟩ := opens
  refine .bind (items_placed innerPlaced declarationsPlaced opens) fun list listPlaced => ?_
  have further := listPlaced.le
  have row := listPlaced.from_earlier (Nat.le_succ start)
  refine .ite (fun _ => .pure ?_) fun _ => .pure ?_
  · exact (row.up_to (Nat.le_succ _)).branch (by omega)
  · exact row.branch (by omega)

/-- The value of a condition lies between its parentheses. -/
theorem condition_placed (nestedPlaced : NestedPlaced nested) :
    Upholds OccupiesMatch (condition input nested start) fun found =>
      Row start found.stop [found.node.tree] := by
  refine .supervise (.bind .expect fun first opens => ?_)
  refine .bind (nestedPlaced .assignment first) fun value valuePlaced => ?_
  refine .bind .expect fun stop closes => .pure ?_
  have afterOpening : start ≤ first := by omega
  have beforeClosing : value.stop ≤ stop := by omega
  exact (valuePlaced.row.from_earlier afterOpening).up_to beforeClosing

theorem ifStatement_placed (nestedPlaced : NestedPlaced nested)
    (innerPlaced : StatementsPlaced inner) :
    Upholds OccupiesMatch (ifStatement input nested inner start) fun found =>
      Occupies start found.stop found.node.tree := by
  refine .supervise (.bind .expect fun afterWord word => ?_)
  obtain ⟨rfl, -⟩ := word
  refine .bind (condition_placed nestedPlaced) fun test testPlaced => ?_
  refine .bind (innerPlaced test.stop) fun thenBranch thenPlaced => ?_
  have begun := (testPlaced.from_earlier (Nat.le_succ start)).append thenPlaced.row
  have afterTest := testPlaced.le
  have afterThen := thenPlaced.nonempty
  refine .ite (fun _ => ?_) fun _ => .pure ?_
  · refine .bind (innerPlaced _) fun elseBranch elsePlaced => .pure ?_
    have afterElse := elsePlaced.nonempty
    have row := begun.append (elsePlaced.row.from_earlier (Nat.le_succ _))
    exact row.branch (by omega)
  · exact (begun.append (.absent (.nil (Nat.le_refl _)))).branch (by omega)

theorem whileStatement_placed (nestedPlaced : NestedPlaced nested)
    (innerPlaced : StatementsPlaced inner) :
    Upholds OccupiesMatch (whileStatement input nested inner start) fun found =>
      Occupies start found.stop found.node.tree := by
  refine .supervise (.bind .expect fun afterWord word => ?_)
  obtain ⟨rfl, -⟩ := word
  refine .bind (condition_placed nestedPlaced) fun test testPlaced => ?_
  refine .bind (innerPlaced test.stop) fun body bodyPlaced => .pure ?_
  have afterTest := testPlaced.le
  have afterBody := bodyPlaced.nonempty
  have row := (testPlaced.from_earlier (Nat.le_succ start)).append bodyPlaced.row
  exact row.branch (by omega)

theorem returnStatement_placed (nestedPlaced : NestedPlaced nested) :
    Upholds OccupiesMatch (returnStatement input nested start) fun found =>
      Occupies start found.stop found.node.tree := by
  refine .supervise (.bind .expect fun afterWord word => ?_)
  obtain ⟨rfl, -⟩ := word
  refine .ite (fun _ => .pure ?_) fun _ => ?_
  · have ordered : start < start + 1 + 1 := by omega
    exact (Row.absent (.nil (Nat.le_of_lt ordered))).branch ordered
  · refine .bind (nestedPlaced .assignment _) fun value valuePlaced => ?_
    have further := valuePlaced.nonempty
    have row := valuePlaced.row.from_earlier (Nat.le_succ start)
    refine .ite (fun _ => .pure ?_) fun _ => .pure ?_
    · exact (row.up_to (Nat.le_succ _)).branch (by omega)
    · exact row.branch (by omega)

theorem wordStatement_placed {word : Kind} {build : Option Span → Statement}
    (leaf : ∀ start stop, start < stop → Occupies start stop (build (covering start stop)).tree) :
    Upholds OccupiesMatch (wordStatement input word build start) fun found =>
      Occupies start found.stop found.node.tree := by
  refine .supervise (.bind .expect fun afterWord opens => ?_)
  refine .bind .expect fun stop closes => ?_
  have ordered : start < stop := by omega
  exact .pure (leaf start stop ordered)

theorem emptyStatement_placed :
    Upholds OccupiesMatch (emptyStatement input start) fun found =>
      Occupies start found.stop found.node.tree := by
  refine .supervise (.bind .expect fun stop closes => ?_)
  have ordered : start < stop := by omega
  exact .pure (.leaf ordered)

theorem expressionStatement_placed (nestedPlaced : NestedPlaced nested) :
    Upholds OccupiesMatch (expressionStatement input nested start) fun found =>
      Occupies start found.stop found.node.tree := by
  refine .supervise (.bind (nestedPlaced .assignment start) fun value valuePlaced => ?_)
  refine .bind .expect fun stop closes => .pure ?_
  have further := valuePlaced.nonempty
  have beforeClosing : value.stop ≤ stop := by omega
  have ordered : start < stop := by omega
  exact (valuePlaced.row.up_to beforeClosing).branch ordered

theorem statementBody_placed (nestedPlaced : NestedPlaced nested)
    (innerPlaced : StatementsPlaced inner)
    (declarationsPlaced : DeclarationsPlaced declarations) :
    Upholds OccupiesMatch (statementBody input nested inner declarations start) fun found =>
      Occupies start found.stop found.node.tree := by
  refine .describe (.firstOf (ifStatement_placed nestedPlaced innerPlaced) ?_)
  simp only [List.mem_cons, List.not_mem_nil, or_false, forall_eq_or_imp, forall_eq]
  refine ⟨whileStatement_placed nestedPlaced innerPlaced, returnStatement_placed nestedPlaced,
    wordStatement_placed fun _ _ => .leaf, wordStatement_placed fun _ _ => .leaf, ?_,
    emptyStatement_placed, expressionStatement_placed nestedPlaced⟩
  exact .bind (compound_placed innerPlaced declarationsPlaced) fun _ blockPlaced =>
    .pure blockPlaced

end Statements

theorem statement_placed (input : Input) (budget : Nat) :
    StatementsPlaced (statement input budget) := by
  induction budget with
  | zero => exact fun start => .supervise (.guarded .tooDeep)
  | succ budget induction =>
      exact fun start => .supervise (.guarded
        (statementBody_placed (expression_placed input budget) induction
          fun _ => declaration_placed input budget))

section Unit

variable {input : Input} {start : Nat}

theorem functionDefinition_placed (budget : Nat) :
    Upholds OccupiesMatch (functionDefinition input budget start) fun found =>
      Occupies start found.stop found.node.tree :=
  definition_placed (fun _ => declarator_placed input budget) fun _ =>
    compound_placed (statement_placed input budget) fun _ => declaration_placed input budget

theorem unitItem_placed :
    Upholds OccupiesMatch (unitItem input start) fun found =>
      Occupies start found.stop found.node.tree :=
  .firstOf_pair (declaration_placed input _) (functionDefinition_placed _)

end Unit

/-- The spans of every tree that a parse returns nest, whatever was wrong with the stream.
Every node has a span, and each but the unit itself covers a token.  The children of a node
lie inside it and share no token, and the items of the unit and of every block are listed in
source order. -/
theorem parse_spans_nest {input : Input} {state after : State} {unit : CompilationUnit}
    (run : parse input state = .ok unit after) :
    ∀ node ∈ unit.tree.nodes, ∃ span, node.span? = some span ∧
      (node ≠ unit.tree → span.start < span.stop) ∧ node.Nests span := by
  rw [parse_run] at run
  have confined := unitItems_confined input state
  cases loop : unitItems input state with
  | error fault last =>
      rw [loop] at run
      cases run
  | ok list last =>
      rw [loop] at run confined
      cases run
      have rounds := itemsFrom_rounds (Nat.le_refl _) loop
      obtain ⟨-, row⟩ := rounds.row (fun _ => unitItem_placed) (recollects_empty _)
      rw [confined.2.1, ← Declaration.trees_eq_map] at row
      intro node member
      rw [CompilationUnit.tree, Tree.nodes] at member
      rcases List.mem_cons.mp member with rfl | below
      · exact ⟨_, rfl, fun other => absurd rfl other, row.nests (.refl _) fun _ => rfl⟩
      · obtain ⟨child, listed, within⟩ := Tree.mem_nodesOf.mp below
        cases child with
        | absent => simp [Tree.nodes] at within
        | node =>
            obtain ⟨first, next, occupies, -, -⟩ := row.occupied _ listed rfl
            obtain ⟨span, spanEq, nonempty, nests⟩ := occupies.nests node within
            exact ⟨span, spanEq, fun _ => nonempty, nests⟩

/-- Two declarators of which the first has an initial value, and a stray parenthesis before
the next declaration. -/
def strayStream : TokenStream :=
  { tokens := #[
      { kind := .intWord, lexeme := "int", line := 1 },
      { kind := .identifier, lexeme := "a", line := 1 },
      { kind := .assign, lexeme := "=", line := 1 },
      { kind := .identifier, lexeme := "b", line := 1 },
      { kind := .comma, lexeme := ",", line := 1 },
      { kind := .identifier, lexeme := "c", line := 1 },
      { kind := .semicolon, lexeme := ";", line := 1 },
      { kind := .rightParen, lexeme := ")", line := 1 },
      { kind := .intWord, lexeme := "int", line := 1 },
      { kind := .identifier, lexeme := "d", line := 1 },
      { kind := .semicolon, lexeme := ";", line := 1 },
      { kind := .endOfInput, lexeme := "", line := 1 }]
    terminated := rfl }

/-- The spans of all nodes of the unit that a parse returns. -/
def nodeSpans? : EStateM.Result Fault State CompilationUnit → Option (List (Option Span))
  | .ok unit _ => some (unit.tree.nodes.map Tree.span?)
  | .error _ _ => none

/-- The value of the first declarator lies between the two declarators, and is listed after
both. -/
theorem parse_spans_nest_stray :
    ∃ unit after, parse { stream := strayStream, options := {} } {} = .ok unit after ∧
      unit.tree.nodes.map Tree.span? =
        [covering 0 11, covering 0 7, covering 0 6, covering 1 2, covering 5 6, covering 3 4,
          covering 8 11, covering 8 10, covering 9 10] ∧
      ∀ node ∈ unit.tree.nodes, ∃ span, node.span? = some span ∧
        (node ≠ unit.tree → span.start < span.stop) ∧ node.Nests span := by
  have spans : nodeSpans? (parse { stream := strayStream, options := {} } {}) =
      some [covering 0 11, covering 0 7, covering 0 6, covering 1 2, covering 5 6, covering 3 4,
        covering 8 11, covering 8 10, covering 9 10] := by
    decide +kernel
  cases run : parse { stream := strayStream, options := {} } {} with
  | error fault after =>
      rw [run] at spans
      cases spans
  | ok unit after =>
      rw [run] at spans
      exact ⟨unit, after, rfl, Option.some.inj spans, parse_spans_nest run⟩

end MiniC.Parser
