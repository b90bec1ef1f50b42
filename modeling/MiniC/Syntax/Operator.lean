import MiniC.Token.Kind

/-!
# Operators

The unary, binary and assignment operators with the tokens that denote them.
Binary operators are divided into ten levels; a higher level binds tighter.
-/

namespace MiniC

/-- The operators before an operand. -/
inductive UnaryOperator where
  | plus | minus | logicalNot
  deriving DecidableEq, Repr, Inhabited

/-- The operators between two operands. -/
inductive BinaryOperator where
  | multiply | divide | modulo
  | add | subtract
  | shiftLeft | shiftRight
  | greater | less | greaterEqual | lessEqual
  | equal | notEqual
  | bitOr | bitXor | bitAnd
  | logicalAnd | logicalOr
  deriving DecidableEq, Repr, Inhabited

/-- The operators that assign. -/
inductive AssignOperator where
  | assign | add | subtract | multiply | divide
  deriving DecidableEq, Repr, Inhabited

namespace UnaryOperator

/-- Every unary operator. -/
def all : List UnaryOperator := [.plus, .minus, .logicalNot]

/-- The operator that a token of the given kind denotes. -/
def ofKind? : Kind → Option UnaryOperator
  | .plus => some .plus
  | .minus => some .minus
  | .exclamation => some .logicalNot
  | _ => none

/-- The name of an operator. -/
def name : UnaryOperator → String
  | .plus => "PLUS"
  | .minus => "MINUS"
  | .logicalNot => "LOGICAL_NOT"

/-- The tag of the element for an operation. -/
def tag : UnaryOperator → String
  | .plus => "expr-unary-plus"
  | .minus => "expr-unary-minus"
  | .logicalNot => "logical-not"

end UnaryOperator

namespace BinaryOperator

/-- Every binary operator. -/
def all : List BinaryOperator :=
  [.multiply, .divide, .modulo, .add, .subtract, .shiftLeft, .shiftRight, .greater, .less,
   .greaterEqual, .lessEqual, .equal, .notEqual, .bitOr, .bitXor, .bitAnd, .logicalAnd,
   .logicalOr]

/-- The operator that a token of the given kind denotes. -/
def ofKind? : Kind → Option BinaryOperator
  | .star => some .multiply
  | .slash => some .divide
  | .percent => some .modulo
  | .plus => some .add
  | .minus => some .subtract
  | .shiftLeft => some .shiftLeft
  | .shiftRight => some .shiftRight
  | .greater => some .greater
  | .less => some .less
  | .greaterEqual => some .greaterEqual
  | .lessEqual => some .lessEqual
  | .equal => some .equal
  | .notEqual => some .notEqual
  | .pipe => some .bitOr
  | .caret => some .bitXor
  | .ampersand => some .bitAnd
  | .logicalAnd => some .logicalAnd
  | .logicalOr => some .logicalOr
  | _ => none

/-- The number of binary levels. -/
def levels : Nat := 10

/-- The level of an operator, from zero for the loosest one. -/
def level : BinaryOperator → Nat
  | .logicalOr => 0
  | .logicalAnd => 1
  | .bitOr => 2
  | .bitXor => 3
  | .bitAnd => 4
  | .equal | .notEqual => 5
  | .greater | .greaterEqual | .less | .lessEqual => 6
  | .shiftLeft | .shiftRight => 7
  | .add | .subtract => 8
  | .multiply | .divide | .modulo => 9

/-- The name of an operator. -/
def name : BinaryOperator → String
  | .multiply => "MULTIPLY"
  | .divide => "DIVIDE"
  | .modulo => "MODULO"
  | .add => "ADD"
  | .subtract => "SUBTRACT"
  | .shiftLeft => "SHIFT_LEFT"
  | .shiftRight => "SHIFT_RIGHT"
  | .greater => "GREATER"
  | .less => "LESS"
  | .greaterEqual => "GREATER_EQ"
  | .lessEqual => "LESS_EQ"
  | .equal => "EQUAL"
  | .notEqual => "NOT_EQUAL"
  | .bitOr => "BIT_OR"
  | .bitXor => "BIT_XOR"
  | .bitAnd => "BIT_AND"
  | .logicalAnd => "LOGICAL_AND"
  | .logicalOr => "LOGICAL_OR"

/-- The tag of the element for an operation. -/
def tag : BinaryOperator → String
  | .multiply => "expr-multi"
  | .divide => "expr-div"
  | .modulo => "expr-mod"
  | .add => "add"
  | .subtract => "minus"
  | .shiftLeft => "l-shift"
  | .shiftRight => "r-shift"
  | .greater => "greater"
  | .less => "less"
  | .greaterEqual => "greater-equal"
  | .lessEqual => "less-equal"
  | .equal => "equality"
  | .notEqual => "inequality"
  | .bitOr => "bit-or"
  | .bitXor => "bit-xor"
  | .bitAnd => "bit-and"
  | .logicalAnd => "logical-and"
  | .logicalOr => "logical-or"

end BinaryOperator

namespace AssignOperator

/-- Every assignment operator. -/
def all : List AssignOperator := [.assign, .add, .subtract, .multiply, .divide]

/-- The operator that a token of the given kind denotes. -/
def ofKind? : Kind → Option AssignOperator
  | .assign => some .assign
  | .plusAssign => some .add
  | .minusAssign => some .subtract
  | .starAssign => some .multiply
  | .slashAssign => some .divide
  | _ => none

/-- The name of an operator. -/
def name : AssignOperator → String
  | .assign => "ASSIGN"
  | .add => "ADD_ASSIGN"
  | .subtract => "SUB_ASSIGN"
  | .multiply => "MUL_ASSIGN"
  | .divide => "DIV_ASSIGN"

/-- The tag of the element for an assignment. -/
def tag : AssignOperator → String
  | .assign => "assign"
  | .add => "add-assign"
  | .subtract => "sub-assign"
  | .multiply => "multi-assign"
  | .divide => "div-assign"

end AssignOperator

end MiniC
