import MiniC.Syntax.Document

/-!
# Outlines of syntax trees

The outline of a tree is what its document shows: no ranges of tokens, tokens
and numbers as their texts, and the initial values of a declaration without the
places of those that are missing.  The document of a node determines its
outline, and the outline determines the document.
-/

namespace MiniC

open Markup (Element)

/-- The text of a datum. -/
def Datum.outline : Datum → Datum
  | .word text => .word text
  | .number value => .word value.text
  | .token source => .word source.lexeme

namespace Tree

/-- Whether a tree is no empty place. -/
def isPresent : Tree → Bool
  | .absent => false
  | .node .. => true

mutual

/-- What is left of a tree without ranges, with tokens and numbers as texts, and without
empty places among the initial values of a declaration root. -/
def outline : Tree → Tree
  | .absent => .absent
  | .node label _ data children =>
      .node label none (data.map Datum.outline)
        (if label = "DeclarationRoot" then
          (outlines children).filter isPresent
        else
          outlines children)

/-- The outlines of trees in order. -/
def outlines : List Tree → List Tree
  | [] => []
  | tree :: rest => outline tree :: outlines rest

end

/-- All children of a tree, empty places included. -/
def places : Tree → List Tree
  | .absent => []
  | .node _ _ _ children => children

/-- The data of a tree. -/
def data : Tree → List Datum
  | .absent => []
  | .node _ _ data _ => data

end Tree

/-! ## Reading an element -/

namespace Markup.Element

/-- The name of the operator whose element has a tag, with the label of its node. -/
def operator? (tag : String) : Option (String × String) :=
  match UnaryOperator.all.find? fun operator => operator.tag == tag with
  | some operator => some ("UnaryExpression", operator.name)
  | none =>
      match BinaryOperator.all.find? fun operator => operator.tag == tag with
      | some operator => some ("BinaryExpression", operator.name)
      | none =>
          (AssignOperator.all.find? fun operator => operator.tag == tag).map fun operator =>
            ("AssignmentExpression", operator.name)

/-- The outline that a leaf stands for; the leaf of a token keeps its tag. -/
def readLeaf (tag text : String) : Tree :=
  match tag with
  | "expr-identifier" => .node "IdentifierExpression" none [.word text] []
  | "expr-number" => .node "NumberLiteral" none [.word text] []
  | "expr-string" => .node "StringLiteral" none [.word text] []
  | "decl-identifier" => .node "IdentifierDeclarator" none [.word text] []
  | _ => .node tag none [.word text] []

/-- The outline that an element stands for, given those of its children.  A label around
parts of a node keeps its tag. -/
def readBranch (tag : String) (parts : List Tree) : Tree :=
  let spread := parts.flatMap Tree.places
  match tag, parts with
  | "expr-paren", _ => .node "ParenthesizedExpression" none [] parts
  | "expr-array-sub", _ => .node "ArraySubscript" none [] spread
  | "expr-func-call", _ => .node "CallExpression" none [] spread
  | "expr-cast", [types, operand] =>
      .node "CastExpression" none (types.places.flatMap Tree.data) operand.places
  | "decl-array", [base, size] =>
      .node "ArrayDeclarator" none [] (base.places ++ [size.places.headD .absent])
  | "decl-func", _ => .node "FunctionDeclarator" none [] spread
  | "decl-root", [specifiers, declarators, values] =>
      .node "DeclarationRoot" none (specifiers.places.flatMap Tree.data)
        (declarators.places ++ values.places)
  | "if-statement", [_, _] => .node "IfStatement" none [] (spread ++ [.absent])
  | "if-statement", _ => .node "IfStatement" none [] spread
  | "while-statement", _ => .node "WhileStatement" none [] spread
  | "return-statement", [] => .node "ReturnStatement" none [] [.absent]
  | "return-statement", _ => .node "ReturnStatement" none [] spread
  | "break-statement", _ => .node "BreakStatement" none [] []
  | "continue-statement", _ => .node "ContinueStatement" none [] []
  | "empty-statement", _ => .node "EmptyStatement" none [] []
  | "expression-statement", _ => .node "ExpressionStatement" none [] parts
  | "compound-statement", _ => .node "CompoundStatement" none [] parts
  | "declaration", [root] => .node "Declaration" none [] [root, .absent]
  | "declaration", [root, body] => .node "Declaration" none [] (root :: body.places)
  | "compilation-unit", _ => .node "CompilationUnit" none [] parts
  | _, _ =>
      match operator? tag with
      | some (label, name) => .node label none [.word name] spread
      | none => .node tag none [] parts

mutual

/-- The outline that an element stands for. -/
def reading : Element → Tree
  | .leaf tag text => readLeaf tag text
  | .branch tag children => readBranch tag (readings children)

/-- The outlines that elements stand for. -/
def readings : List Element → List Tree
  | [] => []
  | element :: rest => reading element :: readings rest

end

end Markup.Element

open Markup.Element (reading readings readBranch)

theorem readBranch_unary (operator : UnaryOperator) (parts : List Tree) :
    readBranch operator.tag parts =
      .node "UnaryExpression" none [.word operator.name] (parts.flatMap Tree.places) := by
  cases operator <;> rfl

theorem readBranch_binary (operator : BinaryOperator) (parts : List Tree) :
    readBranch operator.tag parts =
      .node "BinaryExpression" none [.word operator.name] (parts.flatMap Tree.places) := by
  cases operator <;> rfl

theorem readBranch_assign (operator : AssignOperator) (parts : List Tree) :
    readBranch operator.tag parts =
      .node "AssignmentExpression" none [.word operator.name] (parts.flatMap Tree.places) := by
  cases operator <;> rfl

theorem data_readings_leaves {tag : String} (tokens : List Token)
    (plain : ∀ text, Markup.Element.readLeaf tag text = .node tag none [.word text] []) :
    (readings (Token.leaves tag tokens)).flatMap Tree.data =
      (tokens.map Datum.token).map Datum.outline := by
  induction tokens with
  | nil => rfl
  | cons token rest ih =>
      simp only [Token.leaves, List.map_cons, readings, reading, plain, List.flatMap_cons] at ih ⊢
      rw [ih]
      rfl

mutual

theorem Expr.reading_element : (expr : Expr) → reading expr.element = expr.tree.outline
  | .identifier span name => rfl
  | .number span value => rfl
  | .string span text => rfl
  | .paren span inner => by
      simp only [Expr.element, reading, readings, inner.reading_element]
      rfl
  | .subscript span array index => by
      simp only [Expr.element, reading, readings, array.reading_element, index.reading_element]
      rfl
  | .call span callee arguments => by
      simp only [Expr.element, reading, readings, callee.reading_element,
        Expr.readings_elements arguments]
      change Tree.node _ _ _ ([_] ++ (_ ++ [])) = _
      rw [List.append_nil]
      rfl
  | .unary span operator operand => by
      simp only [Expr.element, reading, readings, operand.reading_element, readBranch_unary]
      rfl
  | .cast span specifiers operand => by
      simp only [Expr.element, reading, readings, operand.reading_element]
      change Tree.node _ _ ((readings (Token.leaves "type" specifiers)).flatMap Tree.data) _ = _
      rw [data_readings_leaves specifiers fun _ => rfl]
      rfl
  | .binary span operator left right => by
      simp only [Expr.element, reading, readings, left.reading_element, right.reading_element,
        readBranch_binary]
      rfl
  | .assign span operator target value => by
      simp only [Expr.element, reading, readings, target.reading_element, value.reading_element,
        readBranch_assign]
      rfl

theorem Expr.readings_elements :
    (exprs : List Expr) → readings (Expr.elements exprs) = Tree.outlines (Expr.trees exprs)
  | [] => rfl
  | expr :: rest => by
      simp only [Expr.elements, Expr.trees, readings, Tree.outlines, expr.reading_element,
        Expr.readings_elements rest]

end

theorem Expr.readings_optionalElement (value : Option Expr) :
    (readings (Expr.optionalElement value)).headD .absent = (Expr.optionalTree value).outline := by
  cases value with
  | none => rfl
  | some expr => exact expr.reading_element

/-! ## Declarators -/

theorem Tree.outlines_append (first second : List Tree) :
    Tree.outlines (first ++ second) = Tree.outlines first ++ Tree.outlines second := by
  induction first with
  | nil => rfl
  | cons tree rest ih => simp only [List.cons_append, Tree.outlines, ih]

theorem Expr.isPresent_outline (expr : Expr) : expr.tree.outline.isPresent = true := by
  cases expr <;> rfl

theorem Declarator.isPresent_outline (declarator : Declarator) :
    declarator.tree.outline.isPresent = true := by
  cases declarator with
  | nested root => cases root; rfl
  | _ => rfl

theorem InitDeclarator.filter_outlines (items : List InitDeclarator) :
    (Tree.outlines (InitDeclarator.trees items)).filter Tree.isPresent =
      Tree.outlines (InitDeclarator.trees items) := by
  induction items with
  | nil => rfl
  | cons item rest ih =>
      obtain ⟨declarator, value⟩ := item
      rw [InitDeclarator.trees, Tree.outlines,
        List.filter_cons_of_pos declarator.isPresent_outline, ih]

/-- The initial values of a root, in order and without the places of missing ones. -/
theorem readings_values (items : List InitDeclarator) :
    readings (items.flatMap fun item => Expr.optionalElement item.value) =
      (Tree.outlines (items.map fun item => Expr.optionalTree item.value)).filter
        Tree.isPresent := by
  induction items with
  | nil => rfl
  | cons item rest ih =>
      obtain ⟨declarator, value⟩ := item
      cases value with
      | none => exact ih
      | some expr =>
          change reading expr.element :: readings (rest.flatMap _) =
            (expr.tree.outline :: Tree.outlines (rest.map _)).filter Tree.isPresent
          rw [expr.reading_element, List.filter_cons_of_pos expr.isPresent_outline, ih]

mutual

theorem Declarator.reading_element :
    (declarator : Declarator) → reading declarator.element = declarator.tree.outline
  | .name span token => rfl
  | .array span base size => by
      simp only [Declarator.element, reading, readings, base.reading_element]
      change Tree.node _ _ _ ([_] ++ [(readings (Expr.optionalElement size)).headD .absent]) = _
      rw [Expr.readings_optionalElement]
      rfl
  | .function span base parameters => by
      simp only [Declarator.element, reading, readings, base.reading_element,
        DeclarationRoot.readings_elements parameters]
      change Tree.node _ _ _ ([_] ++ (_ ++ [])) = _
      rw [List.append_nil]
      rfl
  | .nested root => root.reading_element

theorem DeclarationRoot.reading_element :
    (root : DeclarationRoot) → reading root.element = root.tree.outline
  | .mk span specifiers items => by
      simp only [DeclarationRoot.element, reading, readings, InitDeclarator.readings_elements items,
        readings_values]
      change Tree.node _ _ ((readings (Token.leaves "specifiers" specifiers)).flatMap Tree.data) _ = _
      rw [data_readings_leaves specifiers fun _ => rfl]
      rw [DeclarationRoot.tree, Tree.outline, Tree.outlines_append, List.filter_append,
        InitDeclarator.filter_outlines]
      rfl

theorem DeclarationRoot.readings_elements :
    (roots : List DeclarationRoot) →
      readings (DeclarationRoot.elements roots) = Tree.outlines (DeclarationRoot.trees roots)
  | [] => rfl
  | root :: rest => by
      simp only [DeclarationRoot.elements, DeclarationRoot.trees, readings, Tree.outlines,
        root.reading_element, DeclarationRoot.readings_elements rest]

theorem InitDeclarator.readings_elements :
    (items : List InitDeclarator) →
      readings (InitDeclarator.elements items) = Tree.outlines (InitDeclarator.trees items)
  | [] => rfl
  | .mk declarator value :: rest => by
      simp only [InitDeclarator.elements, InitDeclarator.trees, readings, Tree.outlines,
        declarator.reading_element, InitDeclarator.readings_elements rest]

end

/-! ## Statements -/

mutual

theorem Statement.reading_element :
    (statement : Statement) → reading statement.element = statement.tree.outline
  | .compound block => block.reading_element
  | .declaration inner => inner.reading_element
  | .ifElse span condition thenBranch none => by
      simp only [Statement.element, Statement.elseElement, reading, readings,
        condition.reading_element, thenBranch.reading_element]
      rfl
  | .ifElse span condition thenBranch (some elseBranch) => by
      simp only [Statement.element, Statement.elseElement, reading, readings,
        condition.reading_element, thenBranch.reading_element, elseBranch.reading_element]
      rfl
  | .whileLoop span condition body => by
      simp only [Statement.element, reading, readings, condition.reading_element,
        body.reading_element]
      rfl
  | .returnValue span none => rfl
  | .returnValue span (some value) => by
      simp only [Statement.element, reading, readings, value.reading_element]
      rfl
  | .breakLoop span => rfl
  | .continueLoop span => rfl
  | .empty span => rfl
  | .expression span expr => by
      simp only [Statement.element, reading, readings, expr.reading_element]
      rfl
  | .unit inner => inner.reading_element

theorem Block.reading_element : (block : Block) → reading block.element = block.tree.outline
  | .mk span items => by
      simp only [Block.element, reading, Statement.readings_elements items]
      rfl

theorem Statement.readings_elements :
    (items : List Statement) →
      readings (Statement.elements items) = Tree.outlines (Statement.trees items)
  | [] => rfl
  | statement :: rest => by
      simp only [Statement.elements, Statement.trees, readings, Tree.outlines,
        statement.reading_element, Statement.readings_elements rest]

theorem Declaration.reading_element :
    (declaration : Declaration) → reading declaration.element = declaration.tree.outline
  | .mk span root none => by
      simp only [Declaration.element, Block.bodyElement, reading, readings, root.reading_element]
      rfl
  | .mk span root (some body) => by
      simp only [Declaration.element, Block.bodyElement, reading, readings, root.reading_element,
        body.reading_element]
      rfl

theorem CompilationUnit.reading_element :
    (unit : CompilationUnit) → reading unit.element = unit.tree.outline
  | .mk span declarations => by
      simp only [CompilationUnit.element, reading, Declaration.readings_elements declarations]
      rfl

theorem Declaration.readings_elements :
    (declarations : List Declaration) →
      readings (Declaration.elements declarations) = Tree.outlines (Declaration.trees declarations)
  | [] => rfl
  | declaration :: rest => by
      simp only [Declaration.elements, Declaration.trees, readings, Tree.outlines,
        declaration.reading_element, Declaration.readings_elements rest]

end

theorem Node.reading_element (node : Node) : reading node.element = node.tree.outline := by
  cases node with
  | expr inner => exact inner.reading_element
  | declarator inner => exact inner.reading_element
  | statement inner => exact inner.reading_element

end MiniC
