import MiniC.Proofs.Outline
import MiniC.Proofs.UniqueReading

/-!
# What a document says about a syntax tree

Two nodes have the same document exactly if they have the same outline.  The
element of a node can be rebuilt from its outline; the declarators of a
declaration root are told from its initial values by their tags.
-/

namespace MiniC

open Markup (Element)

/-! ## Writing an outline -/

namespace Tree

/-- The text of a datum of an outline. -/
def word : Datum → String
  | .word text => text
  | .number value => value.text
  | .token source => source.lexeme

/-- The tag of the operator with a name. -/
def unaryTag (name : String) : String :=
  ((UnaryOperator.all.find? fun operator => operator.name == name).map UnaryOperator.tag).getD name

def binaryTag (name : String) : String :=
  ((BinaryOperator.all.find? fun operator => operator.name == name).map BinaryOperator.tag).getD name

def assignTag (name : String) : String :=
  ((AssignOperator.all.find? fun operator => operator.name == name).map AssignOperator.tag).getD name

/-- Whether an element is that of a declarator. -/
def isDeclarator : Element → Bool
  | .leaf tag _ => tag = "decl-identifier"
  | .branch tag _ => tag = "decl-array" || tag = "decl-func" || tag = "decl-root"

/-- The label around a part that may be missing, which is then left out. -/
def optionalLabel (tag : String) : List Element → List Element
  | [] => []
  | part => [.branch tag part]

/-- The element of a node, given its data and the elements of each child. -/
def writeNode (label : String) (data : List Datum) (parts : List (List Element)) : Element :=
  match label, data, parts with
  | "IdentifierExpression", [datum], _ => .leaf "expr-identifier" (word datum)
  | "NumberLiteral", [datum], _ => .leaf "expr-number" (word datum)
  | "StringLiteral", [datum], _ => .leaf "expr-string" (word datum)
  | "ParenthesizedExpression", _, _ => .branch "expr-paren" parts.flatten
  | "ArraySubscript", _, [array, index] =>
      .branch "expr-array-sub" [.branch "array" array, .branch "subscript" index]
  | "CallExpression", _, callee :: arguments =>
      .branch "expr-func-call" [.branch "func" callee, .branch "args" arguments.flatten]
  | "UnaryExpression", [datum], [operand] =>
      .branch (unaryTag (word datum)) [.branch "operand" operand]
  | "CastExpression", _, [operand] =>
      .branch "expr-cast"
        [.branch "types" (data.map fun datum => .leaf "type" (word datum)),
         .branch "operand" operand]
  | "BinaryExpression", [datum], [left, right] =>
      .branch (binaryTag (word datum)) [.branch "left-operand" left, .branch "right-operand" right]
  | "AssignmentExpression", [datum], [target, value] =>
      .branch (assignTag (word datum))
        [.branch "left-operand" target, .branch "right-operand" value]
  | "IdentifierDeclarator", [datum], _ => .leaf "decl-identifier" (word datum)
  | "ArrayDeclarator", _, [base, size] =>
      .branch "decl-array" [.branch "array" base, .branch "size" size]
  | "FunctionDeclarator", _, base :: parameters =>
      .branch "decl-func" [.branch "callee" base, .branch "parameters" parameters.flatten]
  | "DeclarationRoot", _, _ =>
      .branch "decl-root"
        [.branch "decl-specifiers" (data.map fun datum => .leaf "specifiers" (word datum)),
         .branch "decl-declarators" (parts.flatten.takeWhile isDeclarator),
         .branch "decl-initializer" (parts.flatten.dropWhile isDeclarator)]
  | "IfStatement", _, [condition, thenBranch, elseBranch] =>
      .branch "if-statement"
        (.branch "condition" condition :: .branch "if-body" thenBranch ::
          optionalLabel "else-body" elseBranch)
  | "WhileStatement", _, [condition, body] =>
      .branch "while-statement" [.branch "condition" condition, .branch "body" body]
  | "ReturnStatement", _, [value] => .branch "return-statement" (optionalLabel "value" value)
  | "BreakStatement", _, _ => .branch "break-statement" []
  | "ContinueStatement", _, _ => .branch "continue-statement" []
  | "EmptyStatement", _, _ => .branch "empty-statement" []
  | "ExpressionStatement", _, _ => .branch "expression-statement" parts.flatten
  | "CompoundStatement", _, _ => .branch "compound-statement" parts.flatten
  | "Declaration", _, [root, body] =>
      .branch "declaration" (root ++ optionalLabel "body" body)
  | "CompilationUnit", _, _ => .branch "compilation-unit" parts.flatten
  | _, _, _ => .branch label parts.flatten

mutual

/-- The elements of a tree: one, or none for an empty place. -/
def written : Tree → List Element
  | .absent => []
  | .node label _ data children => [writeNode label data (writtenParts children)]

/-- The elements of each of some trees. -/
def writtenParts : List Tree → List (List Element)
  | [] => []
  | tree :: rest => written tree :: writtenParts rest

end

end Tree

open MiniC.Tree (written writtenParts)

theorem map_leaf_outline (tag : String) (tokens : List Token) :
    ((tokens.map Datum.token).map Datum.outline).map (fun datum => Element.leaf tag (Tree.word datum)) =
      Token.leaves tag tokens := by
  simp [Token.leaves, Function.comp_def, Datum.outline, Tree.word]

theorem unaryTag_name (operator : UnaryOperator) : Tree.unaryTag operator.name = operator.tag := by
  cases operator <;> rfl

theorem binaryTag_name (operator : BinaryOperator) :
    Tree.binaryTag operator.name = operator.tag := by
  cases operator <;> rfl

theorem assignTag_name (operator : AssignOperator) :
    Tree.assignTag operator.name = operator.tag := by
  cases operator <;> rfl

mutual

theorem Expr.written_outline : (expr : Expr) → written expr.tree.outline = [expr.element]
  | .identifier span name => rfl
  | .number span value => rfl
  | .string span text => rfl
  | .paren span inner => by
      change [Element.branch "expr-paren" [written inner.tree.outline].flatten] = _
      rw [inner.written_outline]
      rfl
  | .subscript span array index => by
      change [Element.branch "expr-array-sub"
        [.branch "array" (written array.tree.outline),
          .branch "subscript" (written index.tree.outline)]] = _
      rw [array.written_outline, index.written_outline]
      rfl
  | .call span callee arguments => by
      change [Element.branch "expr-func-call"
        [.branch "func" (written callee.tree.outline),
         .branch "args" (writtenParts (Tree.outlines (Expr.trees arguments))).flatten]] = _
      rw [callee.written_outline, Expr.flatten_writtenParts arguments]
      rfl
  | .unary span operator operand => by
      change [Element.branch (Tree.unaryTag operator.name)
        [.branch "operand" (written operand.tree.outline)]] = _
      rw [operand.written_outline, unaryTag_name]
      rfl
  | .cast span specifiers operand => by
      change [Element.branch "expr-cast"
        [.branch "types" (((specifiers.map Datum.token).map Datum.outline).map fun datum =>
          Element.leaf "type" (Tree.word datum)), .branch "operand" (written operand.tree.outline)]] = _
      rw [operand.written_outline, map_leaf_outline]
      rfl
  | .binary span operator left right => by
      change [Element.branch (Tree.binaryTag operator.name)
        [.branch "left-operand" (written left.tree.outline),
         .branch "right-operand" (written right.tree.outline)]] = _
      rw [left.written_outline, right.written_outline, binaryTag_name]
      rfl
  | .assign span operator target value => by
      change [Element.branch (Tree.assignTag operator.name)
        [.branch "left-operand" (written target.tree.outline),
         .branch "right-operand" (written value.tree.outline)]] = _
      rw [target.written_outline, value.written_outline, assignTag_name]
      rfl

theorem Expr.flatten_writtenParts :
    (exprs : List Expr) →
      (writtenParts (Tree.outlines (Expr.trees exprs))).flatten = Expr.elements exprs
  | [] => rfl
  | expr :: rest => by
      simp only [Expr.trees, Tree.outlines, writtenParts, List.flatten_cons, expr.written_outline,
        Expr.flatten_writtenParts rest, List.singleton_append, Expr.elements]

end

theorem Expr.written_optionalTree (value : Option Expr) :
    written (Expr.optionalTree value).outline = Expr.optionalElement value := by
  cases value with
  | none => rfl
  | some expr => exact expr.written_outline

/-! ## Declarators -/

theorem Tree.writtenParts_append (first second : List Tree) :
    writtenParts (first ++ second) = writtenParts first ++ writtenParts second := by
  induction first with
  | nil => rfl
  | cons tree rest ih => simp only [List.cons_append, writtenParts, ih]

/-- An empty place has no element. -/
theorem Tree.flatten_writtenParts_filter (trees : List Tree) :
    (writtenParts (trees.filter Tree.isPresent)).flatten = (writtenParts trees).flatten := by
  induction trees with
  | nil => rfl
  | cons tree rest ih =>
      cases tree with
      | absent =>
          rw [List.filter_cons_of_neg (by decide), ih]
          rfl
      | node label span data children =>
          rw [List.filter_cons_of_pos rfl]
          simp only [writtenParts, List.flatten_cons, ih]

theorem flatten_written_values (items : List InitDeclarator) :
    (writtenParts (Tree.outlines (items.map fun item => Expr.optionalTree item.value))).flatten =
      items.flatMap fun item => Expr.optionalElement item.value := by
  induction items with
  | nil => rfl
  | cons item rest ih =>
      rw [List.map_cons, Tree.outlines, writtenParts, List.flatten_cons, List.flatMap_cons, ih,
        Expr.written_optionalTree]

theorem Declarator.isDeclarator_element (declarator : Declarator) :
    Tree.isDeclarator declarator.element = true := by
  cases declarator with
  | nested root => cases root; rfl
  | _ => rfl

theorem Expr.isDeclarator_element (expr : Expr) : Tree.isDeclarator expr.element = false := by
  cases expr with
  | unary span operator operand => cases operator <;> rfl
  | binary span operator left right => cases operator <;> rfl
  | assign span operator target value => cases operator <;> rfl
  | _ => rfl

theorem InitDeclarator.isDeclarator_elements (items : List InitDeclarator) :
    ∀ element ∈ InitDeclarator.elements items, Tree.isDeclarator element = true := by
  induction items with
  | nil => nofun
  | cons item rest ih =>
      obtain ⟨declarator, value⟩ := item
      exact List.forall_mem_cons.2 ⟨declarator.isDeclarator_element, ih⟩

/-- The first of the initial values is no declarator. -/
theorem isDeclarator_values (items : List InitDeclarator) :
    ∀ element ∈ items.flatMap (fun item => Expr.optionalElement item.value),
      Tree.isDeclarator element = false := by
  intro element member
  obtain ⟨⟨declarator, value⟩, _, found⟩ := List.mem_flatMap.1 member
  cases value with
  | none => cases found
  | some expr =>
      obtain rfl := List.mem_singleton.1 found
      exact expr.isDeclarator_element

/-- Declarators and initial values are told apart where the declarators end. -/
theorem split_elements {declarators values : List Element}
    (left : ∀ element ∈ declarators, Tree.isDeclarator element = true)
    (right : ∀ element ∈ values, Tree.isDeclarator element = false) :
    (declarators ++ values).takeWhile Tree.isDeclarator = declarators ∧
      (declarators ++ values).dropWhile Tree.isDeclarator = values := by
  rw [List.takeWhile_append_of_pos left, List.dropWhile_append_of_pos left]
  cases values with
  | nil => exact ⟨List.append_nil declarators, rfl⟩
  | cons value rest =>
      have ends := right value List.mem_cons_self
      rw [List.takeWhile_cons_of_neg (by simp [ends]), List.dropWhile_cons_of_neg (by simp [ends])]
      exact ⟨List.append_nil declarators, rfl⟩

mutual

theorem Declarator.written_outline :
    (declarator : Declarator) → written declarator.tree.outline = [declarator.element]
  | .name span token => rfl
  | .array span base size => by
      change [Element.branch "decl-array" [.branch "array" (written base.tree.outline),
        .branch "size" (written (Expr.optionalTree size).outline)]] = _
      rw [base.written_outline, Expr.written_optionalTree]
      rfl
  | .function span base parameters => by
      change [Element.branch "decl-func" [.branch "callee" (written base.tree.outline),
        .branch "parameters"
          (writtenParts (Tree.outlines (DeclarationRoot.trees parameters))).flatten]] = _
      rw [base.written_outline, DeclarationRoot.flatten_writtenParts parameters]
      rfl
  | .nested root => root.written_outline

theorem DeclarationRoot.written_outline :
    (root : DeclarationRoot) → written root.tree.outline = [root.element]
  | .mk span specifiers items => by
      have parts : (writtenParts ((Tree.outlines (InitDeclarator.trees items ++
          items.map fun item => Expr.optionalTree item.value)).filter Tree.isPresent)).flatten =
          InitDeclarator.elements items ++
            items.flatMap fun item => Expr.optionalElement item.value := by
        rw [Tree.flatten_writtenParts_filter, Tree.outlines_append, Tree.writtenParts_append,
          List.flatten_append, InitDeclarator.flatten_writtenParts items, flatten_written_values]
      obtain ⟨declarators, values⟩ := split_elements
        (InitDeclarator.isDeclarator_elements items) (isDeclarator_values items)
      rw [DeclarationRoot.tree, Tree.outline, if_pos rfl, written]
      change [Element.branch "decl-root"
        [.branch "decl-specifiers" (((specifiers.map Datum.token).map Datum.outline).map fun datum =>
          Element.leaf "specifiers" (Tree.word datum)), .branch "decl-declarators" _,
          .branch "decl-initializer" _]] = _
      rw [parts, declarators, values, map_leaf_outline]
      rfl

theorem DeclarationRoot.flatten_writtenParts :
    (roots : List DeclarationRoot) →
      (writtenParts (Tree.outlines (DeclarationRoot.trees roots))).flatten =
        DeclarationRoot.elements roots
  | [] => rfl
  | root :: rest => by
      simp only [DeclarationRoot.trees, Tree.outlines, writtenParts, List.flatten_cons,
        root.written_outline, DeclarationRoot.flatten_writtenParts rest, List.singleton_append,
        DeclarationRoot.elements]

theorem InitDeclarator.flatten_writtenParts :
    (items : List InitDeclarator) →
      (writtenParts (Tree.outlines (InitDeclarator.trees items))).flatten =
        InitDeclarator.elements items
  | [] => rfl
  | .mk declarator value :: rest => by
      simp only [InitDeclarator.trees, Tree.outlines, writtenParts, List.flatten_cons,
        declarator.written_outline, InitDeclarator.flatten_writtenParts rest, List.singleton_append,
        InitDeclarator.elements]

end

/-! ## Statements -/

mutual

theorem Statement.written_outline :
    (statement : Statement) → written statement.tree.outline = [statement.element]
  | .compound block => block.written_outline
  | .declaration inner => inner.written_outline
  | .ifElse span condition thenBranch none => by
      change [Element.branch "if-statement" [.branch "condition" (written condition.tree.outline),
        .branch "if-body" (written thenBranch.tree.outline)]] = _
      rw [condition.written_outline, thenBranch.written_outline]
      rfl
  | .ifElse span condition thenBranch (some elseBranch) => by
      change [Element.branch "if-statement" (.branch "condition" (written condition.tree.outline) ::
        .branch "if-body" (written thenBranch.tree.outline) ::
          Tree.optionalLabel "else-body" (written elseBranch.tree.outline))] = _
      rw [condition.written_outline, thenBranch.written_outline, elseBranch.written_outline]
      rfl
  | .whileLoop span condition body => by
      change [Element.branch "while-statement" [.branch "condition" (written condition.tree.outline),
        .branch "body" (written body.tree.outline)]] = _
      rw [condition.written_outline, body.written_outline]
      rfl
  | .returnValue span none => rfl
  | .returnValue span (some value) => by
      change [Element.branch "return-statement"
        (Tree.optionalLabel "value" (written value.tree.outline))] = _
      rw [value.written_outline]
      rfl
  | .breakLoop span => rfl
  | .continueLoop span => rfl
  | .empty span => rfl
  | .expression span expr => by
      change [Element.branch "expression-statement" [written expr.tree.outline].flatten] = _
      rw [expr.written_outline]
      rfl
  | .unit inner => inner.written_outline

theorem Block.written_outline : (block : Block) → written block.tree.outline = [block.element]
  | .mk span items => by
      change [Element.branch "compound-statement"
        (writtenParts (Tree.outlines (Statement.trees items))).flatten] = _
      rw [Statement.flatten_writtenParts items]
      rfl

theorem Statement.flatten_writtenParts :
    (items : List Statement) →
      (writtenParts (Tree.outlines (Statement.trees items))).flatten = Statement.elements items
  | [] => rfl
  | statement :: rest => by
      simp only [Statement.trees, Tree.outlines, writtenParts, List.flatten_cons,
        statement.written_outline, Statement.flatten_writtenParts rest, List.singleton_append,
        Statement.elements]

theorem Declaration.written_outline :
    (declaration : Declaration) → written declaration.tree.outline = [declaration.element]
  | .mk span root none => by
      change [Element.branch "declaration" (written root.tree.outline ++ [])] = _
      rw [root.written_outline]
      rfl
  | .mk span root (some body) => by
      change [Element.branch "declaration" (written root.tree.outline ++
        Tree.optionalLabel "body" (written body.tree.outline))] = _
      rw [root.written_outline, body.written_outline]
      rfl

theorem CompilationUnit.written_outline :
    (unit : CompilationUnit) → written unit.tree.outline = [unit.element]
  | .mk span declarations => by
      change [Element.branch "compilation-unit"
        (writtenParts (Tree.outlines (Declaration.trees declarations))).flatten] = _
      rw [Declaration.flatten_writtenParts declarations]
      rfl

theorem Declaration.flatten_writtenParts :
    (declarations : List Declaration) →
      (writtenParts (Tree.outlines (Declaration.trees declarations))).flatten =
        Declaration.elements declarations
  | [] => rfl
  | declaration :: rest => by
      simp only [Declaration.trees, Tree.outlines, writtenParts, List.flatten_cons,
        declaration.written_outline, Declaration.flatten_writtenParts rest, List.singleton_append,
        Declaration.elements]

end

/-- The outline of a node is written as the element of the node. -/
theorem Node.written_outline (node : Node) : written node.tree.outline = [node.element] := by
  cases node with
  | expr inner => exact inner.written_outline
  | declarator inner => exact inner.written_outline
  | statement inner => exact inner.written_outline

/-! ## Tags -/

/-- Whether a tag is that of a leaf. -/
def isLeafTag (tag : String) : Bool :=
  ["expr-identifier", "expr-number", "expr-string", "decl-identifier", "type",
    "specifiers"].contains tag

/-- Whether the elements below an element, and the element itself, have the tags of their
sort. -/
abbrev WellTagged (element : Element) : Prop :=
  element.Tagged isLeafTag

abbrev WellTaggedList (elements : List Element) : Prop :=
  Element.TaggedList isLeafTag elements

theorem wellTagged_branch {tag : String} {children : List Element}
    (label : isLeafTag tag = false ∧ '>' ∉ tag.toList) (inside : WellTaggedList children) :
    WellTagged (.branch tag children) :=
  ⟨label.1, label.2, inside⟩

theorem wellTagged_leaves {tag : String} (leaf : isLeafTag tag = true ∧ '>' ∉ tag.toList)
    (tokens : List Token) : WellTaggedList (Token.leaves tag tokens) := by
  induction tokens with
  | nil => trivial
  | cons token rest ih => exact ⟨leaf, ih⟩

theorem UnaryOperator.tag_isBranch (operator : UnaryOperator) :
    isLeafTag operator.tag = false ∧ '>' ∉ operator.tag.toList := by
  cases operator <;> decide

theorem BinaryOperator.tag_isBranch (operator : BinaryOperator) :
    isLeafTag operator.tag = false ∧ '>' ∉ operator.tag.toList := by
  cases operator <;> decide

theorem AssignOperator.tag_isBranch (operator : AssignOperator) :
    isLeafTag operator.tag = false ∧ '>' ∉ operator.tag.toList := by
  cases operator <;> decide

theorem wellTagged_part {tag : String} {element : Element}
    (label : isLeafTag tag = false ∧ '>' ∉ tag.toList) (inside : WellTagged element) :
    WellTagged (.branch tag [element]) :=
  wellTagged_branch label ⟨inside, trivial⟩

mutual

theorem Expr.wellTagged : (expr : Expr) → WellTagged expr.element
  | .identifier _ _ => ⟨by decide, by decide⟩
  | .number _ _ => ⟨by decide, by decide⟩
  | .string _ _ => ⟨by decide, by decide⟩
  | .paren _ inner => wellTagged_part (by decide) inner.wellTagged
  | .subscript _ array index =>
      wellTagged_branch (by decide) ⟨wellTagged_part (by decide) array.wellTagged,
        wellTagged_part (by decide) index.wellTagged, trivial⟩
  | .call _ callee arguments =>
      wellTagged_branch (by decide) ⟨wellTagged_part (by decide) callee.wellTagged,
        wellTagged_branch (by decide) (Expr.wellTaggedList arguments), trivial⟩
  | .unary _ operator operand =>
      wellTagged_branch operator.tag_isBranch
        ⟨wellTagged_part (by decide) operand.wellTagged, trivial⟩
  | .cast _ specifiers operand =>
      wellTagged_branch (by decide)
        ⟨wellTagged_branch (by decide) (wellTagged_leaves (by decide) specifiers),
          wellTagged_part (by decide) operand.wellTagged, trivial⟩
  | .binary _ operator left right =>
      wellTagged_branch operator.tag_isBranch ⟨wellTagged_part (by decide) left.wellTagged,
        wellTagged_part (by decide) right.wellTagged, trivial⟩
  | .assign _ operator target value =>
      wellTagged_branch operator.tag_isBranch ⟨wellTagged_part (by decide) target.wellTagged,
        wellTagged_part (by decide) value.wellTagged, trivial⟩

theorem Expr.wellTaggedList : (exprs : List Expr) → WellTaggedList (Expr.elements exprs)
  | [] => trivial
  | expr :: rest => ⟨expr.wellTagged, Expr.wellTaggedList rest⟩

end

theorem Expr.wellTagged_optional (value : Option Expr) :
    WellTaggedList (Expr.optionalElement value) := by
  cases value with
  | none => trivial
  | some expr => exact ⟨expr.wellTagged, trivial⟩

theorem wellTagged_values (items : List InitDeclarator) :
    WellTaggedList (items.flatMap fun item => Expr.optionalElement item.value) := by
  induction items with
  | nil => trivial
  | cons item rest ih =>
      obtain ⟨declarator, value⟩ := item
      cases value with
      | none => exact ih
      | some expr => exact ⟨expr.wellTagged, ih⟩

mutual

theorem Declarator.wellTagged : (declarator : Declarator) → WellTagged declarator.element
  | .name _ _ => ⟨by decide, by decide⟩
  | .array _ base size =>
      wellTagged_branch (by decide) ⟨wellTagged_part (by decide) base.wellTagged,
        wellTagged_branch (by decide) (Expr.wellTagged_optional size), trivial⟩
  | .function _ base parameters =>
      wellTagged_branch (by decide) ⟨wellTagged_part (by decide) base.wellTagged,
        wellTagged_branch (by decide) (DeclarationRoot.wellTaggedList parameters), trivial⟩
  | .nested root => root.wellTagged

theorem DeclarationRoot.wellTagged : (root : DeclarationRoot) → WellTagged root.element
  | .mk _ specifiers items =>
      wellTagged_branch (by decide)
        ⟨wellTagged_branch (by decide) (wellTagged_leaves (by decide) specifiers),
          wellTagged_branch (by decide) (InitDeclarator.wellTaggedList items),
          wellTagged_branch (by decide) (wellTagged_values items), trivial⟩

theorem DeclarationRoot.wellTaggedList :
    (roots : List DeclarationRoot) → WellTaggedList (DeclarationRoot.elements roots)
  | [] => trivial
  | root :: rest => ⟨root.wellTagged, DeclarationRoot.wellTaggedList rest⟩

theorem InitDeclarator.wellTaggedList :
    (items : List InitDeclarator) → WellTaggedList (InitDeclarator.elements items)
  | [] => trivial
  | .mk declarator _ :: rest => ⟨declarator.wellTagged, InitDeclarator.wellTaggedList rest⟩

end

mutual

theorem Statement.wellTagged : (statement : Statement) → WellTagged statement.element
  | .compound block => block.wellTagged
  | .declaration inner => inner.wellTagged
  | .ifElse _ condition thenBranch none =>
      wellTagged_branch (by decide) ⟨wellTagged_part (by decide) condition.wellTagged,
        wellTagged_part (by decide) thenBranch.wellTagged, trivial⟩
  | .ifElse _ condition thenBranch (some elseBranch) =>
      wellTagged_branch (by decide) ⟨wellTagged_part (by decide) condition.wellTagged,
        wellTagged_part (by decide) thenBranch.wellTagged,
        wellTagged_part (by decide) elseBranch.wellTagged, trivial⟩
  | .whileLoop _ condition body =>
      wellTagged_branch (by decide) ⟨wellTagged_part (by decide) condition.wellTagged,
        wellTagged_part (by decide) body.wellTagged, trivial⟩
  | .returnValue _ none => wellTagged_branch (by decide) trivial
  | .returnValue _ (some value) =>
      wellTagged_branch (by decide) ⟨wellTagged_part (by decide) value.wellTagged, trivial⟩
  | .breakLoop _ => wellTagged_branch (by decide) trivial
  | .continueLoop _ => wellTagged_branch (by decide) trivial
  | .empty _ => wellTagged_branch (by decide) trivial
  | .expression _ expr => wellTagged_part (by decide) expr.wellTagged
  | .unit inner => inner.wellTagged

theorem Block.wellTagged : (block : Block) → WellTagged block.element
  | .mk _ items => wellTagged_branch (by decide) (Statement.wellTaggedList items)

theorem Statement.wellTaggedList :
    (items : List Statement) → WellTaggedList (Statement.elements items)
  | [] => trivial
  | statement :: rest => ⟨statement.wellTagged, Statement.wellTaggedList rest⟩

theorem Declaration.wellTagged : (declaration : Declaration) → WellTagged declaration.element
  | .mk _ root none => wellTagged_part (by decide) root.wellTagged
  | .mk _ root (some body) =>
      wellTagged_branch (by decide)
        ⟨root.wellTagged, wellTagged_part (by decide) body.wellTagged, trivial⟩

theorem CompilationUnit.wellTagged : (unit : CompilationUnit) → WellTagged unit.element
  | .mk _ declarations => wellTagged_branch (by decide) (Declaration.wellTaggedList declarations)

theorem Declaration.wellTaggedList :
    (declarations : List Declaration) → WellTaggedList (Declaration.elements declarations)
  | [] => trivial
  | declaration :: rest => ⟨declaration.wellTagged, Declaration.wellTaggedList rest⟩

end

theorem Node.wellTagged (node : Node) : WellTagged node.element := by
  cases node with
  | expr inner => exact inner.wellTagged
  | declarator inner => exact inner.wellTagged
  | statement inner => exact inner.wellTagged

/-- Two nodes have the same document exactly if they have the same outline. -/
theorem Node.document_eq_iff (first second : Node) :
    first.document = second.document ↔ first.tree.outline = second.tree.outline := by
  constructor
  · intro same
    have elements : first.element = second.element :=
      Element.render_injective first.wellTagged second.wellTagged same
    rw [← first.reading_element, ← second.reading_element, elements]
  · intro same
    have elements : [first.element] = [second.element] := by
      rw [← first.written_outline, ← second.written_outline, same]
    rw [Node.document, Node.document, (List.cons.inj elements).1]

/-- A document does not say which declarator an initial value belongs to. -/
example (span : Option Span) (specifiers : List Token) (first second : Declarator) (value : Expr) :
    (DeclarationRoot.mk span specifiers [.mk first (some value), .mk second none]).element =
      (DeclarationRoot.mk span specifiers [.mk first none, .mk second (some value)]).element := rfl

end MiniC
