import MiniC.Markup.Element
import MiniC.Number.Written
import MiniC.Syntax.Tree

/-!
# Syntax trees as documents

Every syntax node has an element of its own, with its parts in labelled
elements inside it.  A part that may be missing leaves its label out, except
for the size of an array, which is then empty.  Initial values follow all
declarators, without saying which declarator they belong to.
-/

namespace MiniC

open Markup (Element)

/-- The leaves for the texts of tokens. -/
def Token.leaves (tag : String) (tokens : List Token) : List Element :=
  tokens.map fun token => .leaf tag token.lexeme

mutual

/-- The element of an expression. -/
def Expr.element : Expr → Element
  | .identifier _ name => .leaf "expr-identifier" name
  | .number _ value => .leaf "expr-number" value.text
  | .string _ text => .leaf "expr-string" text
  | .paren _ inner => .branch "expr-paren" [inner.element]
  | .subscript _ array index =>
      .branch "expr-array-sub"
        [.branch "array" [array.element], .branch "subscript" [index.element]]
  | .call _ callee arguments =>
      .branch "expr-func-call"
        [.branch "func" [callee.element], .branch "args" (Expr.elements arguments)]
  | .unary _ operator operand =>
      .branch operator.tag [.branch "operand" [operand.element]]
  | .cast _ specifiers operand =>
      .branch "expr-cast"
        [.branch "types" (Token.leaves "type" specifiers), .branch "operand" [operand.element]]
  | .binary _ operator left right =>
      .branch operator.tag
        [.branch "left-operand" [left.element], .branch "right-operand" [right.element]]
  | .assign _ operator target value =>
      .branch operator.tag
        [.branch "left-operand" [target.element], .branch "right-operand" [value.element]]

/-- The elements of expressions in order. -/
def Expr.elements : List Expr → List Element
  | [] => []
  | expr :: rest => expr.element :: Expr.elements rest

end

/-- The elements of an expression that may be missing. -/
def Expr.optionalElement : Option Expr → List Element
  | some expr => [expr.element]
  | none => []

mutual

/-- The element of a declarator. -/
def Declarator.element : Declarator → Element
  | .name _ token => .leaf "decl-identifier" token.lexeme
  | .array _ base size =>
      .branch "decl-array"
        [.branch "array" [base.element], .branch "size" (Expr.optionalElement size)]
  | .function _ base parameters =>
      .branch "decl-func"
        [.branch "callee" [base.element],
         .branch "parameters" (DeclarationRoot.elements parameters)]
  | .nested root => root.element

/-- The element of a declaration root. -/
def DeclarationRoot.element : DeclarationRoot → Element
  | .mk _ specifiers items =>
      .branch "decl-root"
        [.branch "decl-specifiers" (Token.leaves "specifiers" specifiers),
         .branch "decl-declarators" (InitDeclarator.elements items),
         .branch "decl-initializer"
           (items.flatMap fun item => Expr.optionalElement item.value)]

/-- The elements of declaration roots in order. -/
def DeclarationRoot.elements : List DeclarationRoot → List Element
  | [] => []
  | root :: rest => root.element :: DeclarationRoot.elements rest

/-- The elements of declarators in order, without their initial values. -/
def InitDeclarator.elements : List InitDeclarator → List Element
  | [] => []
  | .mk declarator _ :: rest => declarator.element :: InitDeclarator.elements rest

end

mutual

/-- The element of a statement. -/
def Statement.element : Statement → Element
  | .compound block => block.element
  | .declaration inner => inner.element
  | .ifElse _ condition thenBranch elseBranch =>
      .branch "if-statement"
        (.branch "condition" [condition.element] :: .branch "if-body" [thenBranch.element] ::
          Statement.elseElement elseBranch)
  | .whileLoop _ condition body =>
      .branch "while-statement"
        [.branch "condition" [condition.element], .branch "body" [body.element]]
  | .returnValue _ value =>
      .branch "return-statement"
        (match value with
        | some expr => [.branch "value" [expr.element]]
        | none => [])
  | .breakLoop _ => .branch "break-statement" []
  | .continueLoop _ => .branch "continue-statement" []
  | .empty _ => .branch "empty-statement" []
  | .expression _ expr => .branch "expression-statement" [expr.element]
  | .unit inner => inner.element

/-- The labelled element of an else branch that may be missing. -/
def Statement.elseElement : Option Statement → List Element
  | some statement => [.branch "else-body" [statement.element]]
  | none => []

/-- The element of a block. -/
def Block.element : Block → Element
  | .mk _ items => .branch "compound-statement" (Statement.elements items)

/-- The elements of statements in order. -/
def Statement.elements : List Statement → List Element
  | [] => []
  | statement :: rest => statement.element :: Statement.elements rest

/-- The element of a declaration. -/
def Declaration.element : Declaration → Element
  | .mk _ root body => .branch "declaration" (root.element :: Block.bodyElement body)

/-- The labelled element of a function body that may be missing. -/
def Block.bodyElement : Option Block → List Element
  | some block => [.branch "body" [block.element]]
  | none => []

/-- The element of a compilation unit. -/
def CompilationUnit.element : CompilationUnit → Element
  | .mk _ declarations => .branch "compilation-unit" (Declaration.elements declarations)

/-- The elements of declarations in order. -/
def Declaration.elements : List Declaration → List Element
  | [] => []
  | declaration :: rest => declaration.element :: Declaration.elements rest

end

/-- The element of a node of any sort. -/
def Node.element : Node → Element
  | .expr inner => inner.element
  | .declarator inner => inner.element
  | .statement inner => inner.element

/-- The document of a node of any sort. -/
def Node.document (node : Node) : String :=
  node.element.render

/-- The document of a compilation unit. -/
def CompilationUnit.document (unit : CompilationUnit) : String :=
  unit.element.render

end MiniC
