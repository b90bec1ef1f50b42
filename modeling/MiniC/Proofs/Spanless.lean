import MiniC.Syntax.Statement

/-!
# Trees without spans

The tree that is left when the ranges of tokens are taken out of a syntax tree.
Two sources with the same tokens have the same trees without spans, wherever
their constructs stand.
-/

namespace MiniC

mutual

/-- An expression without its spans. -/
@[simp]
def Expr.withoutSpans : Expr → Expr
  | .identifier _ name => .identifier none name
  | .number _ value => .number none value
  | .string _ text => .string none text
  | .paren _ inner => .paren none inner.withoutSpans
  | .subscript _ array index => .subscript none array.withoutSpans index.withoutSpans
  | .call _ callee arguments => .call none callee.withoutSpans (Expr.listWithoutSpans arguments)
  | .unary _ operator operand => .unary none operator operand.withoutSpans
  | .cast _ specifiers operand => .cast none specifiers operand.withoutSpans
  | .binary _ operator left right => .binary none operator left.withoutSpans right.withoutSpans
  | .assign _ operator target value =>
      .assign none operator target.withoutSpans value.withoutSpans

/-- Expressions without their spans. -/
@[simp]
def Expr.listWithoutSpans : List Expr → List Expr
  | [] => []
  | tree :: rest => tree.withoutSpans :: Expr.listWithoutSpans rest

end

mutual

/-- A declarator without its spans. -/
@[simp]
def Declarator.withoutSpans : Declarator → Declarator
  | .name _ token => .name none token
  | .array _ base size => .array none base.withoutSpans (size.map Expr.withoutSpans)
  | .function _ base parameters =>
      .function none base.withoutSpans (DeclarationRoot.listWithoutSpans parameters)
  | .nested root => .nested root.withoutSpans

/-- A declarator with its initial value, without their spans. -/
@[simp]
def InitDeclarator.withoutSpans : InitDeclarator → InitDeclarator
  | .mk declarator value => .mk declarator.withoutSpans (value.map Expr.withoutSpans)

/-- A declaration root without its spans. -/
@[simp]
def DeclarationRoot.withoutSpans : DeclarationRoot → DeclarationRoot
  | .mk _ specifiers items => .mk none specifiers (InitDeclarator.listWithoutSpans items)

/-- Declarators with their initial values, without their spans. -/
@[simp]
def InitDeclarator.listWithoutSpans : List InitDeclarator → List InitDeclarator
  | [] => []
  | item :: rest => item.withoutSpans :: InitDeclarator.listWithoutSpans rest

/-- Declaration roots without their spans. -/
@[simp]
def DeclarationRoot.listWithoutSpans : List DeclarationRoot → List DeclarationRoot
  | [] => []
  | root :: rest => root.withoutSpans :: DeclarationRoot.listWithoutSpans rest

end

mutual

/-- A statement without its spans. -/
@[simp]
def Statement.withoutSpans : Statement → Statement
  | .compound block => .compound block.withoutSpans
  | .declaration declaration => .declaration declaration.withoutSpans
  | .ifElse _ condition thenBranch elseBranch =>
      .ifElse none condition.withoutSpans thenBranch.withoutSpans
        (Statement.optionWithoutSpans elseBranch)
  | .whileLoop _ condition body => .whileLoop none condition.withoutSpans body.withoutSpans
  | .returnValue _ value => .returnValue none (value.map Expr.withoutSpans)
  | .breakLoop _ => .breakLoop none
  | .continueLoop _ => .continueLoop none
  | .empty _ => .empty none
  | .expression _ expression => .expression none expression.withoutSpans
  | .unit unit => .unit unit.withoutSpans

/-- A block without its spans. -/
@[simp]
def Block.withoutSpans : Block → Block
  | .mk _ items => .mk none (Statement.listWithoutSpans items)

/-- A declaration without its spans. -/
@[simp]
def Declaration.withoutSpans : Declaration → Declaration
  | .mk _ root body => .mk none root.withoutSpans (Block.optionWithoutSpans body)

/-- A compilation unit without its spans. -/
@[simp]
def CompilationUnit.withoutSpans : CompilationUnit → CompilationUnit
  | .mk _ declarations => .mk none (Declaration.listWithoutSpans declarations)

/-- Statements without their spans. -/
@[simp]
def Statement.listWithoutSpans : List Statement → List Statement
  | [] => []
  | tree :: rest => tree.withoutSpans :: Statement.listWithoutSpans rest

/-- A statement that may be left out, without its spans. -/
@[simp]
def Statement.optionWithoutSpans : Option Statement → Option Statement
  | none => none
  | some tree => some tree.withoutSpans

/-- A block that may be left out, without its spans. -/
@[simp]
def Block.optionWithoutSpans : Option Block → Option Block
  | none => none
  | some block => some block.withoutSpans

/-- Declarations without their spans. -/
@[simp]
def Declaration.listWithoutSpans : List Declaration → List Declaration
  | [] => []
  | tree :: rest => tree.withoutSpans :: Declaration.listWithoutSpans rest

end

/-- The outermost shape of a declarator does not depend on its spans. -/
@[simp]
theorem Declarator.isFunction_withoutSpans (declarator : Declarator) :
    declarator.withoutSpans.isFunction = declarator.isFunction := by
  cases declarator <;> rfl

end MiniC
