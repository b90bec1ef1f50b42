import MiniC.Number.Binary64
import MiniC.Syntax.Operator
import MiniC.Token.Basic

/-!
# Expressions

Syntax trees of expressions.  A tree made by the parser records the range of
tokens that it covers; a tree made by hand need not.
-/

namespace MiniC

/-- A range of token indices, from `start` up to but not including `stop`.  The range
of a tree made by hand may be any two integers. -/
structure Span where
  start : Int
  stop : Int
  deriving DecidableEq, Repr, Inhabited

namespace Span

/-- Why a range has no length. -/
inductive Unmeasurable where
  /-- It ends before it starts. -/
  | reversed
  /-- It is longer than any index. -/
  | oversized
  deriving DecidableEq, Repr

/-- The largest number that can be an index. -/
def maxLength : Int := 0x7fffffffffffffff

/-- The number of tokens of a range. -/
def length (span : Span) : Except Unmeasurable Int :=
  let distance := span.stop - span.start
  if distance < 0 then .error .reversed
  else if maxLength < distance then .error .oversized
  else .ok distance

end Span

/-- An expression.  Parentheses are kept, and every constant is a number. -/
inductive Expr where
  | identifier (span : Option Span) (name : String)
  | number (span : Option Span) (value : Binary64)
  | string (span : Option Span) (text : String)
  | paren (span : Option Span) (inner : Expr)
  | subscript (span : Option Span) (array index : Expr)
  | call (span : Option Span) (callee : Expr) (arguments : List Expr)
  | unary (span : Option Span) (operator : UnaryOperator) (operand : Expr)
  | cast (span : Option Span) (specifiers : List Token) (operand : Expr)
  | binary (span : Option Span) (operator : BinaryOperator) (left right : Expr)
  | assign (span : Option Span) (operator : AssignOperator) (target value : Expr)
  deriving Repr, Inhabited

/-- The tokens that an expression covers. -/
def Expr.span : Expr → Option Span
  | .identifier span _ | .number span _ | .string span _ | .paren span _
  | .subscript span _ _ | .call span _ _ | .unary span _ _ | .cast span _ _
  | .binary span _ _ _ | .assign span _ _ _ => span

end MiniC
