import MiniC.Parser.Declarator
import MiniC.Parser.Recovery
import MiniC.Syntax.Statement

/-!
# Parsing declarations and statements

A block ends at the brace that closes it, or at the end of input; items that
fail are recovered from inside the block.  A value after `return` that no
semicolon follows still makes a statement, with the error recorded.
-/

namespace MiniC.Parser

section Declarations

variable (input : Input) (nested : Nested) (declared : Nat → Attempt (Match Declarator))

/-- The initial value after a declarator that ends at an index, which may be
left out, and the index after it. -/
def initialValue (index : Nat) : Attempt (Option Expr × Nat) :=
  if input.kindAt index = .assign then do
    let value ← nested .assignment (index + 1)
    return (some value.node, value.stop)
  else
    return (none, index)

/-- Declarators with their initial values, separated by commas. -/
def initDeclarators : (fuel index : Nat) → Attempt (Match (List InitDeclarator))
  | 0, _ => abort .stalled
  | fuel + 1, index => do
      let first ← declared index
      let (value, stop) ← initialValue input nested first.stop
      let item := InitDeclarator.mk first.node value
      if input.kindAt stop = .comma then
        let rest ← initDeclarators fuel (stop + 1)
        return { node := item :: rest.node, stop := rest.stop }
      else
        return { node := [item], stop }

/-- Any declarators of a declaration, up to its semicolon. -/
def declaredItems (index : Nat) : Attempt (Match (List InitDeclarator)) :=
  if input.kindAt index = .semicolon then return { node := [], stop := index }
  else initDeclarators input nested declared input.fuel index

/-- Type specifiers with any declarators, up to a semicolon. -/
def plainDeclaration (start : Nat) : Attempt (Match Declaration) :=
  supervise input start do
    let types ← specifiers input start
    let list ← declaredItems input nested declared types.stop
    let root := DeclarationRoot.mk (covering start list.stop) types.node list.node
    let stop ← expect input .semicolon list.stop
    return { node := .mk (covering start stop) root none, stop }

/-- A function declarator with a body. -/
def definition (bodies : Nat → Attempt (Match Block)) (start : Nat) :
    Attempt (Match Declaration) :=
  supervise input start do
    let types ← specifiers input start
    let first ← declared types.stop
    if first.node.isFunction then
      let body ← bodies first.stop
      let root := DeclarationRoot.single (covering start first.stop) types.node first.node
      return {
        node := .mk (covering start body.stop) root (some body.node)
        stop := body.stop
        recovered := body.recovered
      }
    else
      throw (.failure .invalidDeclarator types.stop none
        (some "function definition requires a function declarator"))

end Declarations

section Statements

variable (input : Input) (nested : Nested) (inner : Nat → Attempt (Match Statement))
  (declarations : Nat → Attempt (Match Declaration))

/-- A declaration or a statement. -/
def blockItem (start : Nat) : Attempt (Match Statement) :=
  firstOf
    (do
      let found ← declarations start
      return found.map .declaration)
    [inner start]

/-- Items between braces. -/
def compound (start : Nat) : Attempt (Match Block) :=
  supervise input start do
    let first ← expect input .leftBrace start
    let limit := matchingBrace input start
    let list ← items input (blockItem inner declarations) "declaration or statement" first limit
    if input.kindAt list.stop = .rightBrace then
      let stop := list.stop + 1
      return { node := .mk (covering start stop) list.node, stop, recovered := list.recovered }
    else
      let unclosed := Diagnostic.missing list.stop (.kind .rightBrace)
      return {
        node := .mk (covering start list.stop) list.node
        stop := list.stop
        recovered := list.recovered ++ [unclosed]
      }

/-- An expression between parentheses. -/
def condition (start : Nat) : Attempt (Match Expr) :=
  supervise input start do
    let first ← expect input .leftParen start
    let value ← nested .assignment first
    let stop ← expect input .rightParen value.stop
    return { node := value.node, stop }

/-- A statement under a condition, with an optional alternative. -/
def ifStatement (start : Nat) : Attempt (Match Statement) :=
  supervise input start do
    let afterWord ← expect input .ifWord start
    let test ← condition input nested afterWord
    let thenBranch ← inner test.stop
    if input.kindAt thenBranch.stop = .elseWord then
      let elseBranch ← inner (thenBranch.stop + 1)
      return {
        node :=
          .ifElse (covering start elseBranch.stop) test.node thenBranch.node
            (some elseBranch.node)
        stop := elseBranch.stop
        recovered := thenBranch.recovered ++ elseBranch.recovered
      }
    else
      return {
        node := .ifElse (covering start thenBranch.stop) test.node thenBranch.node none
        stop := thenBranch.stop
        recovered := thenBranch.recovered
      }

/-- A statement repeated under a condition. -/
def whileStatement (start : Nat) : Attempt (Match Statement) :=
  supervise input start do
    let afterWord ← expect input .whileWord start
    let test ← condition input nested afterWord
    let body ← inner test.stop
    return {
      node := .whileLoop (covering start body.stop) test.node body.node
      stop := body.stop
      recovered := body.recovered
    }

/-- A return with an optional value. -/
def returnStatement (start : Nat) : Attempt (Match Statement) :=
  supervise input start do
    let afterWord ← expect input .returnWord start
    if input.kindAt afterWord = .semicolon then
      let stop := afterWord + 1
      return { node := .returnValue (covering start stop) none, stop }
    else
      let value ← nested .assignment afterWord
      if input.kindAt value.stop = .semicolon then
        let stop := value.stop + 1
        return { node := .returnValue (covering start stop) (some value.node), stop }
      else
        return {
          node := .returnValue (covering start value.stop) (some value.node)
          stop := value.stop
          recovered := [.missing value.stop (.kind .semicolon)]
        }

/-- A statement that is a single word. -/
def wordStatement (word : Kind) (build : Option Span → Statement) (start : Nat) :
    Attempt (Match Statement) :=
  supervise input start do
    let afterWord ← expect input word start
    let stop ← expect input .semicolon afterWord
    return { node := build (covering start stop), stop }

/-- A lone semicolon. -/
def emptyStatement (start : Nat) : Attempt (Match Statement) :=
  supervise input start do
    let stop ← expect input .semicolon start
    return { node := .empty (covering start stop), stop }

/-- An expression used as a statement. -/
def expressionStatement (start : Nat) : Attempt (Match Statement) :=
  supervise input start do
    let value ← nested .assignment start
    let stop ← expect input .semicolon value.stop
    return { node := .expression (covering start stop) value.node, stop }

/-- The forms of a statement, tried in order. -/
def anyForm (start : Nat) : Attempt (Match Statement) :=
  firstOf (ifStatement input nested inner start)
    [whileStatement input nested inner start,
     returnStatement input nested start,
     wordStatement input .breakWord .breakLoop start,
     wordStatement input .continueWord .continueLoop start,
     (do
        let block ← compound input inner declarations start
        return block.map .compound),
     emptyStatement input start,
     expressionStatement input nested start]

/-- A statement of any form. -/
def statementBody (start : Nat) : Attempt (Match Statement) :=
  tryCatch (anyForm input nested inner declarations start)
    fun failure => throw (describeAt start "statement" failure)

end Statements

/-- The declaration at a start index, within a nesting budget. -/
def declaration (input : Input) (budget : Nat) : Nat → Attempt (Match Declaration) :=
  plainDeclaration input (expression input budget) (declarator input budget)

/-- The statement at a start index, within a nesting budget. -/
def statement (input : Input) : (budget start : Nat) → Attempt (Match Statement)
  | 0, start =>
      supervise input start (guarded input start (tooDeep start input.options.maxNesting))
  | budget + 1, start =>
      supervise input start
        (guarded input start
          (statementBody input (expression input budget) (statement input budget)
            (declaration input budget) start))

/-- The block at a start index, within a nesting budget. -/
def block (input : Input) (budget : Nat) : Nat → Attempt (Match Block) :=
  compound input (statement input budget) (declaration input budget)

/-- The function definition at a start index, within a nesting budget. -/
def functionDefinition (input : Input) (budget : Nat) : Nat → Attempt (Match Declaration) :=
  definition input (declarator input budget) (block input budget)

end MiniC.Parser
