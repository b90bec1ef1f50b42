import MiniC.Syntax.Statement

/-!
# Uniform trees

Every syntax node can be seen as a labelled tree: a label, the tokens it
covers, the plain data it holds and its children in order.  An optional child
that is missing leaves an empty place.  What concerns all nodes alike, such as
listing children, walking and comparing, is done on this view.
-/

namespace MiniC

/-- A syntax node of any sort. -/
inductive Node where
  | expr (expr : Expr)
  | declarator (declarator : Declarator)
  | statement (statement : Statement)

/-- Plain data held by a node. -/
inductive Datum where
  | word (text : String)
  | number (value : Binary64)
  | token (token : Token)
  deriving DecidableEq, Repr

/-- A labelled tree whose children may be missing. -/
inductive Tree where
  | absent
  | node (label : String) (span : Option Span) (data : List Datum) (children : List Tree)
  deriving Repr

mutual

/-- The tree of an expression. -/
def Expr.tree : Expr → Tree
  | .identifier span name => .node "IdentifierExpression" span [.word name] []
  | .number span value => .node "NumberLiteral" span [.number value] []
  | .string span text => .node "StringLiteral" span [.word text] []
  | .paren span inner => .node "ParenthesizedExpression" span [] [inner.tree]
  | .subscript span array index => .node "ArraySubscript" span [] [array.tree, index.tree]
  | .call span callee arguments =>
      .node "CallExpression" span [] (callee.tree :: Expr.trees arguments)
  | .unary span operator operand =>
      .node "UnaryExpression" span [.word operator.name] [operand.tree]
  | .cast span specifiers operand =>
      .node "CastExpression" span (specifiers.map .token) [operand.tree]
  | .binary span operator left right =>
      .node "BinaryExpression" span [.word operator.name] [left.tree, right.tree]
  | .assign span operator target value =>
      .node "AssignmentExpression" span [.word operator.name] [target.tree, value.tree]

/-- The trees of expressions in order. -/
def Expr.trees : List Expr → List Tree
  | [] => []
  | expr :: rest => expr.tree :: Expr.trees rest

end

/-- The tree of an expression that may be missing. -/
def Expr.optionalTree : Option Expr → Tree
  | some expr => expr.tree
  | none => .absent

mutual

/-- The tree of a declarator. -/
def Declarator.tree : Declarator → Tree
  | .name span token => .node "IdentifierDeclarator" span [.token token] []
  | .array span base size =>
      .node "ArrayDeclarator" span [] [base.tree, Expr.optionalTree size]
  | .function span base parameters =>
      .node "FunctionDeclarator" span [] (base.tree :: DeclarationRoot.trees parameters)
  | .nested root => root.tree

/-- The tree of a declaration root: its declarators, then their initial values. -/
def DeclarationRoot.tree : DeclarationRoot → Tree
  | .mk span specifiers items =>
      .node "DeclarationRoot" span (specifiers.map .token)
        (InitDeclarator.trees items ++ items.map fun item => Expr.optionalTree item.value)

/-- The trees of declaration roots in order. -/
def DeclarationRoot.trees : List DeclarationRoot → List Tree
  | [] => []
  | root :: rest => root.tree :: DeclarationRoot.trees rest

/-- The trees of declarators in order, without their initial values. -/
def InitDeclarator.trees : List InitDeclarator → List Tree
  | [] => []
  | .mk declarator _ :: rest => declarator.tree :: InitDeclarator.trees rest

end

mutual

/-- The tree of a statement. -/
def Statement.tree : Statement → Tree
  | .compound block => block.tree
  | .declaration inner => inner.tree
  | .ifElse span condition thenBranch elseBranch =>
      .node "IfStatement" span []
        [condition.tree, thenBranch.tree, Statement.optionalTree elseBranch]
  | .whileLoop span condition body =>
      .node "WhileStatement" span [] [condition.tree, body.tree]
  | .returnValue span value => .node "ReturnStatement" span [] [Expr.optionalTree value]
  | .breakLoop span => .node "BreakStatement" span [] []
  | .continueLoop span => .node "ContinueStatement" span [] []
  | .empty span => .node "EmptyStatement" span [] []
  | .expression span expr => .node "ExpressionStatement" span [] [expr.tree]
  | .unit inner => inner.tree

/-- The tree of a statement that may be missing. -/
def Statement.optionalTree : Option Statement → Tree
  | some statement => statement.tree
  | none => .absent

/-- The tree of a block. -/
def Block.tree : Block → Tree
  | .mk span items => .node "CompoundStatement" span [] (Statement.trees items)

/-- The trees of statements in order. -/
def Statement.trees : List Statement → List Tree
  | [] => []
  | statement :: rest => statement.tree :: Statement.trees rest

/-- The tree of a declaration. -/
def Declaration.tree : Declaration → Tree
  | .mk span root body => .node "Declaration" span [] [root.tree, Block.optionalTree body]

/-- The tree of a block that may be missing. -/
def Block.optionalTree : Option Block → Tree
  | some block => block.tree
  | none => .absent

/-- The tree of a compilation unit. -/
def CompilationUnit.tree : CompilationUnit → Tree
  | .mk span declarations =>
      .node "CompilationUnit" span [] (Declaration.trees declarations)

/-- The trees of declarations in order. -/
def Declaration.trees : List Declaration → List Tree
  | [] => []
  | declaration :: rest => declaration.tree :: Declaration.trees rest

end

/-- The tree of a node of any sort. -/
def Node.tree : Node → Tree
  | .expr inner => inner.tree
  | .declarator inner => inner.tree
  | .statement inner => inner.tree

/-- Whether two data are the same: tokens up to their numbers, and numbers by value. -/
def Datum.agrees : Datum → Datum → Bool
  | .word first, .word second => first = second
  | .number first, .number second => first.numericEq second
  | .token first, .token second => first.agrees second
  | _, _ => false

/-- Whether two lists of data are the same one by one. -/
def Datum.agreeList : List Datum → List Datum → Bool
  | [], [] => true
  | first :: firsts, second :: seconds => first.agrees second && Datum.agreeList firsts seconds
  | _, _ => false

namespace Tree

/-- The label of a tree; an empty place has none. -/
def label? : Tree → Option String
  | .absent => none
  | .node label _ _ _ => some label

/-- The tokens that a tree covers. -/
def span? : Tree → Option Span
  | .absent => none
  | .node _ span _ _ => span

/-- The children of a tree that are not missing. -/
def children : Tree → List Tree
  | .absent => []
  | .node _ _ _ children => children.filter fun child => child.label?.isSome

mutual

/-- Whether two trees are the same up to the tokens they cover. -/
def agrees : Tree → Tree → Bool
  | .absent, .absent => true
  | .node firstLabel _ firstData firstChildren, .node secondLabel _ secondData secondChildren =>
      firstLabel = secondLabel && Datum.agreeList firstData secondData &&
        agreeList firstChildren secondChildren
  | _, _ => false

/-- Whether two lists of trees are the same one by one. -/
def agreeList : List Tree → List Tree → Bool
  | [], [] => true
  | first :: firsts, second :: seconds => agrees first second && agreeList firsts seconds
  | _, _ => false

end

/-- A node met on a walk: one that was entered, or one where the walk stopped. -/
inductive Visit where
  | entered (label : String)
  | stopped (label : String)
  deriving DecidableEq, Repr

mutual

/-- Walk a tree from the top, each node before its children, without entering
nodes whose label is to be stopped at. -/
def walk (stops : String → Bool) : Tree → List Visit
  | .absent => []
  | .node label _ _ children =>
      if stops label then [.stopped label]
      else .entered label :: walkList stops children

/-- Walk trees in order. -/
def walkList (stops : String → Bool) : List Tree → List Visit
  | [] => []
  | tree :: rest => walk stops tree ++ walkList stops rest

end

end Tree

/-- Whether two compilation units are the same up to the tokens they cover. -/
def CompilationUnit.agrees (first second : CompilationUnit) : Bool :=
  first.tree.agrees second.tree

end MiniC
