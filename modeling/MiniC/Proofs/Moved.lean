import MiniC.Parser.Statement

/-!
# Things carried over to another stream

Trees, diagnostics and remembered results refer to tokens by their indices, and trees
hold tokens.  Where the tokens of one stream stand again in another one, perhaps further
on or with less said of them, the same things refer to them there and hold them as they
are there.
-/

namespace MiniC

/-- How things are carried over to another stream. -/
structure Shift where
  /-- How much further on the tokens stand. -/
  offset : Nat := 0
  /-- What becomes of a token. -/
  token : Token → Token := id

/-- Everything stays where it is. -/
def Shift.still : Shift :=
  {}

/-- Tokens stand further on. -/
def Shift.further (offset : Nat) : Shift :=
  { offset }

@[simp]
theorem Shift.offset_still : Shift.still.offset = 0 :=
  rfl

@[simp]
theorem Shift.token_still : Shift.still.token = id :=
  rfl

/-- Things that refer to tokens by their indices, or hold tokens. -/
class Movable (α : Type) where
  /-- The thing carried over to another stream. -/
  moved : (shift : Shift) → α → α
  moved_still : ∀ thing : α, moved .still thing = thing

export Movable (moved)

attribute [simp] Movable.moved_still

/-- A range of tokens moved along the stream. -/
def Span.moved (offset : Nat) (span : Span) : Span :=
  { start := span.start + offset, stop := span.stop + offset }

/-- The range of tokens of a node carried over. -/
def Shift.span (shift : Shift) (span : Option Span) : Option Span :=
  span.map (Span.moved shift.offset)

/-- A diagnostic moved along the stream. -/
def Diagnostic.moved (offset : Nat) (diagnostic : Diagnostic) : Diagnostic :=
  { diagnostic with
    position := diagnostic.position + offset
    depth := diagnostic.depth + offset }

mutual

/-- An expression carried over. -/
def Expr.moved (shift : Shift) : Expr → Expr
  | .identifier span name => .identifier (shift.span span) name
  | .number span value => .number (shift.span span) value
  | .string span text => .string (shift.span span) text
  | .paren span inner => .paren (shift.span span) (inner.moved shift)
  | .subscript span array index =>
      .subscript (shift.span span) (array.moved shift) (index.moved shift)
  | .call span callee arguments =>
      .call (shift.span span) (callee.moved shift) (Expr.listMoved shift arguments)
  | .unary span operator operand =>
      .unary (shift.span span) operator (operand.moved shift)
  | .cast span specifiers operand =>
      .cast (shift.span span) (specifiers.map shift.token) (operand.moved shift)
  | .binary span operator left right =>
      .binary (shift.span span) operator (left.moved shift) (right.moved shift)
  | .assign span operator target value =>
      .assign (shift.span span) operator (target.moved shift) (value.moved shift)

/-- Expressions carried over. -/
def Expr.listMoved (shift : Shift) : List Expr → List Expr
  | [] => []
  | tree :: rest => tree.moved shift :: Expr.listMoved shift rest

end

mutual

/-- A declarator carried over. -/
def Declarator.moved (shift : Shift) : Declarator → Declarator
  | .name span token => .name (shift.span span) (shift.token token)
  | .array span base size =>
      .array (shift.span span) (base.moved shift) (size.map (Expr.moved shift))
  | .function span base parameters =>
      .function (shift.span span) (base.moved shift)
        (DeclarationRoot.listMoved shift parameters)
  | .nested root => .nested (root.moved shift)

/-- A declarator with its initial value carried over. -/
def InitDeclarator.moved (shift : Shift) : InitDeclarator → InitDeclarator
  | .mk declarator value => .mk (declarator.moved shift) (value.map (Expr.moved shift))

/-- A declaration root carried over. -/
def DeclarationRoot.moved (shift : Shift) : DeclarationRoot → DeclarationRoot
  | .mk span specifiers items =>
      .mk (shift.span span) (specifiers.map shift.token)
        (InitDeclarator.listMoved shift items)

/-- Declarators with their initial values carried over. -/
def InitDeclarator.listMoved (shift : Shift) : List InitDeclarator → List InitDeclarator
  | [] => []
  | item :: rest => item.moved shift :: InitDeclarator.listMoved shift rest

/-- Declaration roots carried over. -/
def DeclarationRoot.listMoved (shift : Shift) : List DeclarationRoot → List DeclarationRoot
  | [] => []
  | root :: rest => root.moved shift :: DeclarationRoot.listMoved shift rest

end

mutual

/-- A statement carried over. -/
def Statement.moved (shift : Shift) : Statement → Statement
  | .compound block => .compound (block.moved shift)
  | .declaration declaration => .declaration (declaration.moved shift)
  | .ifElse span condition thenBranch elseBranch =>
      .ifElse (shift.span span) (condition.moved shift) (thenBranch.moved shift)
        (Statement.optionMoved shift elseBranch)
  | .whileLoop span condition body =>
      .whileLoop (shift.span span) (condition.moved shift) (body.moved shift)
  | .returnValue span value =>
      .returnValue (shift.span span) (value.map (Expr.moved shift))
  | .breakLoop span => .breakLoop (shift.span span)
  | .continueLoop span => .continueLoop (shift.span span)
  | .empty span => .empty (shift.span span)
  | .expression span expression =>
      .expression (shift.span span) (expression.moved shift)
  | .unit unit => .unit (unit.moved shift)

/-- A block carried over. -/
def Block.moved (shift : Shift) : Block → Block
  | .mk span items => .mk (shift.span span) (Statement.listMoved shift items)

/-- A declaration carried over. -/
def Declaration.moved (shift : Shift) : Declaration → Declaration
  | .mk span root body =>
      .mk (shift.span span) (root.moved shift) (Block.optionMoved shift body)

/-- A compilation unit carried over. -/
def CompilationUnit.moved (shift : Shift) : CompilationUnit → CompilationUnit
  | .mk span declarations =>
      .mk (shift.span span) (Declaration.listMoved shift declarations)

/-- Statements carried over. -/
def Statement.listMoved (shift : Shift) : List Statement → List Statement
  | [] => []
  | tree :: rest => tree.moved shift :: Statement.listMoved shift rest

/-- A statement that may be left out carried over. -/
def Statement.optionMoved (shift : Shift) : Option Statement → Option Statement
  | none => none
  | some tree => some (tree.moved shift)

/-- A block that may be left out carried over. -/
def Block.optionMoved (shift : Shift) : Option Block → Option Block
  | none => none
  | some block => some (block.moved shift)

/-- Declarations carried over. -/
def Declaration.listMoved (shift : Shift) : List Declaration → List Declaration
  | [] => []
  | tree :: rest => tree.moved shift :: Declaration.listMoved shift rest

end

section Still

@[simp]
theorem Span.moved_zero (span : Span) : span.moved 0 = span := by
  simp [Span.moved]

@[simp]
theorem Diagnostic.moved_zero (diagnostic : Diagnostic) : diagnostic.moved 0 = diagnostic := by
  simp [Diagnostic.moved]

@[simp]
theorem Shift.span_still (span : Option Span) : Shift.still.span span = span := by
  cases span <;> simp [Shift.span]

@[simp]
theorem Shift.map_token_still (tokens : List Token) : tokens.map Shift.still.token = tokens :=
  List.map_id tokens

mutual

theorem Expr.moved_still (tree : Expr) : tree.moved .still = tree := by
  cases tree with
  | identifier | number | string => simp only [Expr.moved, Shift.span_still]
  | paren _ inner => simp only [Expr.moved, Shift.span_still, Expr.moved_still inner]
  | subscript _ array index =>
      simp only [Expr.moved, Shift.span_still, Expr.moved_still array, Expr.moved_still index]
  | call _ callee arguments =>
      simp only [Expr.moved, Shift.span_still, Expr.moved_still callee,
        Expr.listMoved_still arguments]
  | unary _ _ operand => simp only [Expr.moved, Shift.span_still, Expr.moved_still operand]
  | cast _ _ operand =>
      simp only [Expr.moved, Shift.span_still, Shift.map_token_still, Expr.moved_still operand]
  | binary _ _ left right =>
      simp only [Expr.moved, Shift.span_still, Expr.moved_still left, Expr.moved_still right]
  | assign _ _ target value =>
      simp only [Expr.moved, Shift.span_still, Expr.moved_still target, Expr.moved_still value]

theorem Expr.listMoved_still (trees : List Expr) : Expr.listMoved .still trees = trees := by
  cases trees with
  | nil => simp only [Expr.listMoved]
  | cons tree rest =>
      simp only [Expr.listMoved, Expr.moved_still tree, Expr.listMoved_still rest]

end

theorem Expr.map_moved_still (tree : Option Expr) : tree.map (Expr.moved .still) = tree := by
  cases tree with
  | none => rfl
  | some tree => rw [Option.map_some, Expr.moved_still]

mutual

theorem Declarator.moved_still (tree : Declarator) : tree.moved .still = tree := by
  cases tree with
  | name => simp only [Declarator.moved, Shift.span_still, Shift.token_still, id]
  | array _ base size =>
      simp only [Declarator.moved, Shift.span_still, Declarator.moved_still base,
        Expr.map_moved_still]
  | function _ base parameters =>
      simp only [Declarator.moved, Shift.span_still, Declarator.moved_still base,
        DeclarationRoot.listMoved_still parameters]
  | nested root => simp only [Declarator.moved, DeclarationRoot.moved_still root]

theorem InitDeclarator.moved_still (item : InitDeclarator) : item.moved .still = item := by
  cases item with
  | mk declarator value =>
      simp only [InitDeclarator.moved, Declarator.moved_still declarator, Expr.map_moved_still]

theorem DeclarationRoot.moved_still (root : DeclarationRoot) : root.moved .still = root := by
  cases root with
  | mk _ _ items =>
      simp only [DeclarationRoot.moved, Shift.span_still, Shift.map_token_still,
        InitDeclarator.listMoved_still items]

theorem InitDeclarator.listMoved_still (items : List InitDeclarator) :
    InitDeclarator.listMoved .still items = items := by
  cases items with
  | nil => simp only [InitDeclarator.listMoved]
  | cons item rest =>
      simp only [InitDeclarator.listMoved, InitDeclarator.moved_still item,
        InitDeclarator.listMoved_still rest]

theorem DeclarationRoot.listMoved_still (roots : List DeclarationRoot) :
    DeclarationRoot.listMoved .still roots = roots := by
  cases roots with
  | nil => simp only [DeclarationRoot.listMoved]
  | cons root rest =>
      simp only [DeclarationRoot.listMoved, DeclarationRoot.moved_still root,
        DeclarationRoot.listMoved_still rest]

end

mutual

theorem Statement.moved_still (tree : Statement) : tree.moved .still = tree := by
  cases tree with
  | compound block => simp only [Statement.moved, Block.moved_still block]
  | declaration inner => simp only [Statement.moved, Declaration.moved_still inner]
  | ifElse _ condition thenBranch elseBranch =>
      simp only [Statement.moved, Shift.span_still, Expr.moved_still condition,
        Statement.moved_still thenBranch, Statement.optionMoved_still elseBranch]
  | whileLoop _ condition body =>
      simp only [Statement.moved, Shift.span_still, Expr.moved_still condition,
        Statement.moved_still body]
  | returnValue _ value =>
      simp only [Statement.moved, Shift.span_still, Expr.map_moved_still]
  | breakLoop | continueLoop | empty => simp only [Statement.moved, Shift.span_still]
  | expression _ inner =>
      simp only [Statement.moved, Shift.span_still, Expr.moved_still inner]
  | unit unit => simp only [Statement.moved, CompilationUnit.moved_still unit]

theorem Block.moved_still (block : Block) : block.moved .still = block := by
  cases block with
  | mk _ items => simp only [Block.moved, Shift.span_still, Statement.listMoved_still items]

theorem Declaration.moved_still (tree : Declaration) : tree.moved .still = tree := by
  cases tree with
  | mk _ root body =>
      simp only [Declaration.moved, Shift.span_still, DeclarationRoot.moved_still root,
        Block.optionMoved_still body]

theorem CompilationUnit.moved_still (unit : CompilationUnit) : unit.moved .still = unit := by
  cases unit with
  | mk _ declarations =>
      simp only [CompilationUnit.moved, Shift.span_still,
        Declaration.listMoved_still declarations]

theorem Statement.listMoved_still (trees : List Statement) :
    Statement.listMoved .still trees = trees := by
  cases trees with
  | nil => simp only [Statement.listMoved]
  | cons tree rest =>
      simp only [Statement.listMoved, Statement.moved_still tree, Statement.listMoved_still rest]

theorem Statement.optionMoved_still (tree : Option Statement) :
    Statement.optionMoved .still tree = tree := by
  cases tree with
  | none => simp only [Statement.optionMoved]
  | some tree => simp only [Statement.optionMoved, Statement.moved_still tree]

theorem Block.optionMoved_still (block : Option Block) : Block.optionMoved .still block = block := by
  cases block with
  | none => simp only [Block.optionMoved]
  | some block => simp only [Block.optionMoved, Block.moved_still block]

theorem Declaration.listMoved_still (trees : List Declaration) :
    Declaration.listMoved .still trees = trees := by
  cases trees with
  | nil => simp only [Declaration.listMoved]
  | cons tree rest =>
      simp only [Declaration.listMoved, Declaration.moved_still tree,
        Declaration.listMoved_still rest]

end

end Still

section Instances

instance : Movable Nat := ⟨fun shift index => index + shift.offset, fun _ => rfl⟩

instance : Movable Unit := ⟨fun _ thing => thing, fun _ => rfl⟩

instance : Movable Bool := ⟨fun _ thing => thing, fun _ => rfl⟩

instance : Movable Token := ⟨Shift.token, fun _ => rfl⟩

instance : Movable Diagnostic := ⟨fun shift => Diagnostic.moved shift.offset, Diagnostic.moved_zero⟩

instance : Movable Expr := ⟨Expr.moved, Expr.moved_still⟩

instance : Movable Declarator := ⟨Declarator.moved, Declarator.moved_still⟩

instance : Movable InitDeclarator := ⟨InitDeclarator.moved, InitDeclarator.moved_still⟩

instance : Movable DeclarationRoot := ⟨DeclarationRoot.moved, DeclarationRoot.moved_still⟩

instance : Movable Statement := ⟨Statement.moved, Statement.moved_still⟩

instance : Movable Block := ⟨Block.moved, Block.moved_still⟩

instance : Movable Declaration := ⟨Declaration.moved, Declaration.moved_still⟩

instance : Movable CompilationUnit := ⟨CompilationUnit.moved, CompilationUnit.moved_still⟩

instance : Movable Parser.Pending :=
  ⟨fun shift pending => { pending with index := pending.index + shift.offset }, fun _ => rfl⟩

variable {α β : Type} [Movable α] [Movable β]

instance : Movable (Option α) where
  moved shift thing := thing.map (moved shift)
  moved_still thing := by cases thing <;> simp

instance : Movable (List α) where
  moved shift things := things.map (moved shift)
  moved_still things :=
    (List.map_congr_left fun thing _ => Movable.moved_still thing).trans (List.map_id' things)

instance : Movable (α × β) where
  moved shift pair := (moved shift pair.1, moved shift pair.2)
  moved_still pair := by simp

instance : Movable (α ⊕ β) where
  moved shift := Sum.map (moved shift) (moved shift)
  moved_still thing := by cases thing <;> simp

instance : Movable (Except Diagnostic α) where
  moved shift
    | .ok thing => .ok (moved shift thing)
    | .error failure => .error (moved shift failure)
  moved_still outcome := by cases outcome <;> simp

/-- A fault refers to no token. -/
instance : Movable (Except Fault α) where
  moved shift
    | .ok thing => .ok (moved shift thing)
    | .error fault => .error fault
  moved_still scanned := by cases scanned <;> simp

instance : Movable (Parser.Match α) where
  moved shift found :=
    { node := moved shift found.node
      stop := found.stop + shift.offset
      recovered := moved shift found.recovered }
  moved_still found := by simp

instance : Movable Parser.Memo.Entry where
  moved shift entry :=
    { outcome := moved shift entry.outcome, superseded := moved shift entry.superseded }
  moved_still entry := by simp

instance : Movable (Parser.Isolated α) where
  moved shift result :=
    { result with
      value := moved shift result.value
      superseded := moved shift result.superseded }
  moved_still result := by simp

end Instances

section Trees

variable (shift : Shift)

theorem Expr.listMoved_eq (trees : List Expr) :
    Expr.listMoved shift trees = Movable.moved shift trees := by
  induction trees with
  | nil => rfl
  | cons tree rest induction => exact congrArg (tree.moved shift :: ·) induction

theorem InitDeclarator.listMoved_eq (items : List InitDeclarator) :
    InitDeclarator.listMoved shift items = Movable.moved shift items := by
  induction items with
  | nil => rfl
  | cons item rest induction => exact congrArg (item.moved shift :: ·) induction

theorem DeclarationRoot.listMoved_eq (roots : List DeclarationRoot) :
    DeclarationRoot.listMoved shift roots = Movable.moved shift roots := by
  induction roots with
  | nil => rfl
  | cons root rest induction => exact congrArg (root.moved shift :: ·) induction

theorem Statement.listMoved_eq (trees : List Statement) :
    Statement.listMoved shift trees = Movable.moved shift trees := by
  induction trees with
  | nil => rfl
  | cons tree rest induction => exact congrArg (tree.moved shift :: ·) induction

theorem Declaration.listMoved_eq (trees : List Declaration) :
    Declaration.listMoved shift trees = Movable.moved shift trees := by
  induction trees with
  | nil => rfl
  | cons tree rest induction => exact congrArg (tree.moved shift :: ·) induction

theorem moved_cons {α : Type} [Movable α] (first : α) (rest : List α) :
    moved shift (first :: rest) = moved shift first :: moved shift rest :=
  rfl

theorem moved_append {α : Type} [Movable α] (first second : List α) :
    moved shift (first ++ second) = moved shift first ++ moved shift second :=
  List.map_append

theorem moved_toList {α : Type} [Movable α] (thing : Option α) :
    moved shift thing.toList = (moved shift thing).toList := by
  cases thing <;> rfl

@[simp]
theorem Parser.Match.stop_moved {α : Type} [Movable α] (found : Parser.Match α) :
    (moved shift found).stop = found.stop + shift.offset :=
  rfl

@[simp]
theorem Parser.Match.node_moved {α : Type} [Movable α] (found : Parser.Match α) :
    (moved shift found).node = moved shift found.node :=
  rfl

@[simp]
theorem Parser.Match.recovered_moved {α : Type} [Movable α] (found : Parser.Match α) :
    (moved shift found).recovered = moved shift found.recovered :=
  rfl

@[simp]
theorem Declarator.isFunction_moved (tree : Declarator) :
    (tree.moved shift).isFunction = tree.isFunction := by
  cases tree <;> rfl

end Trees

/-! ## Diagnostics moved along the stream -/

section Diagnostics

variable (shift : Shift)

namespace Diagnostic

@[simp]
theorem kind_moved (diagnostic : Diagnostic) :
    (Movable.moved shift diagnostic).kind = diagnostic.kind :=
  rfl

@[simp]
theorem position_moved (diagnostic : Diagnostic) :
    (Movable.moved shift diagnostic).position = diagnostic.position + shift.offset :=
  rfl

@[simp]
theorem depth_moved (diagnostic : Diagnostic) :
    (Movable.moved shift diagnostic).depth = diagnostic.depth + shift.offset :=
  rfl

/-- Only a token that is missing at the very start of a stream is reported in another way
there than further on: no token stands before it. -/
theorem missing_kind_moved {position : Nat} {kind : Kind} {others : List Expectation}
    (placed : shift.offset = 0 ∨ 0 < position ∨ kind.isReportedAfter = false) :
    Movable.moved shift (missing position (.kind kind) others) =
      missing ((position + shift.offset : Nat) : Int) (.kind kind) others := by
  have test : (kind.isReportedAfter = true ∧
        (0 : Int) < ((position + shift.offset : Nat) : Int)) ↔
      (kind.isReportedAfter = true ∧ (0 : Int) < (position : Int)) := by
    rcases placed with unmoved | positive | never
    · rw [unmoved]
      rfl
    · exact and_congr_right fun _ => by omega
    · simp [never]
  simp only [missing, test]
  split
  · simp only [Movable.moved, Diagnostic.moved, Option.getD_none, mk.injEq, true_and, and_true]
    omega
  · split <;> rfl

theorem joins_moved (first second : Diagnostic) :
    (Movable.moved shift first).joins (Movable.moved shift second) = first.joins second := by
  rw [Bool.eq_iff_iff]
  simp only [joins, Bool.and_eq_true, decide_eq_true_eq]
  simp only [position_moved, Int.add_left_inj]
  rfl

theorem merge_moved (first second : Diagnostic) :
    (Movable.moved shift first).merge (Movable.moved shift second) =
      Movable.moved shift (first.merge second) := by
  unfold merge merge?
  rw [joins_moved]
  split
  · have same : ((Movable.moved shift second).expected.filter fun item =>
        !(Movable.moved shift first).expected.contains item) =
          second.expected.filter fun item => !first.expected.contains item := rfl
    rw [same]
    cases second.expected.filter fun item => !first.expected.contains item <;> rfl
  · rfl

theorem deepest_moved (first second : Diagnostic) :
    (Movable.moved shift first).deepest (Movable.moved shift second) =
      Movable.moved shift (first.deepest second) := by
  unfold deepest
  simp only [depth_moved, Int.add_lt_add_iff_right, merge_moved]
  split
  · rfl
  · split <;> rfl

end Diagnostic

namespace Parser

theorem deepestNoted_moved (noted : List Diagnostic) :
    deepestNoted (moved shift noted) = moved shift (deepestNoted noted) := by
  induction noted with
  | nil => rfl
  | cons latest earlier induction =>
      change deepestNoted (moved shift latest :: moved shift earlier) = _
      rw [deepestNoted, deepestNoted, induction]
      cases deepestNoted earlier with
      | none => rfl
      | some known => exact congrArg some (known.deepest_moved shift latest)

theorem describeAt_moved (start : Nat) (description : String) (failure : Diagnostic) :
    describeAt (start + shift.offset) description (moved shift failure) =
      moved shift (describeAt start description failure) := by
  have test : failure.depth + (shift.offset : Int) ≤ ((start + shift.offset : Nat) : Int) ↔
      failure.depth ≤ (start : Int) := by omega
  unfold describeAt
  simp only [Diagnostic.depth_moved, Diagnostic.kind_moved, test]
  split <;> rfl

theorem itemFailure_moved (start : Nat) (description : String) (failure : Diagnostic)
    (superseded : Option Diagnostic) :
    itemFailure (start + shift.offset) description (moved shift failure)
        (moved shift superseded) =
      moved shift (itemFailure start description failure superseded) := by
  unfold itemFailure
  rw [← describeAt_moved]
  cases superseded with
  | none => rfl
  | some other =>
      change describeAt _ _ (if (moved shift failure).kind = .nestingTooDeep then _
        else (moved shift failure).deepest (moved shift other)) = _
      rw [Diagnostic.deepest_moved, Diagnostic.kind_moved]
      dsimp only
      split <;> rfl

end Parser

end Diagnostics

end MiniC
