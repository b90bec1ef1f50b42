import MiniC.Parser.State
import MiniC.Token.Constant

/-!
# Parsing expressions

Expressions form strata, from assignments down to names and constants.  Binary
operators are parsed by climbing: after an operand, every operator of a
sufficient level takes a right operand whose operators bind tighter, so each
level folds to the left.

The recursion of expressions goes through the three remembered strata, which are
guarded.  A budget bounds the recursion.  A parse starts with the nesting limit as its
budget and with no rule active, so where the budget is used up the guard refuses the rule.
-/

namespace MiniC.Parser

/-- The range of tokens of a node made by the parser. -/
def covering (start stop : Nat) : Option Span :=
  some { start, stop }

/-- The type specifiers from an index on, at most `count` of them. -/
def specifierRun (stream : TokenStream) : (count index : Nat) → List Token
  | 0, _ => []
  | count + 1, index =>
      match stream.get? index with
      | some token =>
          if token.isTypeSpecifier then token :: specifierRun stream count (index + 1) else []
      | none => []

/-- One or more type specifiers. -/
def specifiers (input : Input) (start : Nat) : Attempt (Match (List Token)) :=
  supervise input start do
    let _ ← tokenAt input start
    let run := specifierRun input.stream input.fuel start
    if run.isEmpty then
      throw (.missing start (.construct "type specifier"))
    else
      return { node := run, stop := start + run.length }

section Strata

/-- How a rule parses the expressions inside it: by stratum and start index. -/
abbrev Nested := Stratum → Nat → Attempt (Match Expr)

variable (input : Input) (nested : Nested)

/-- A unary expression that an assignment operator gives a value to. -/
def assignmentForm (start : Nat) : Attempt (Match Expr) :=
  supervise input start do
    let target ← nested .unary start
    match AssignOperator.ofKind? (input.kindAt target.stop) with
    | none => throw (.missing target.stop (.construct "assignment operator"))
    | some operator =>
        let value ← nested .assignment (target.stop + 1)
        return {
          node := .assign (covering start value.stop) operator target.node value.node
          stop := value.stop
        }

/-- Take operators of at least `minLevel`, with their right operands, after a
left operand that goes from `start` to `index`. -/
def climb (operand : Nat → Attempt (Match Expr)) :
    (fuel minLevel start : Nat) → (left : Expr) → (index : Nat) → Attempt (Match Expr)
  | 0, _, _, _, _ => abort .stalled
  | fuel + 1, minLevel, start, left, index =>
      match BinaryOperator.ofKind? (input.kindAt index) with
      | none => return { node := left, stop := index }
      | some operator =>
          if operator.level < minLevel then
            return { node := left, stop := index }
          else do
            let first ← operand (index + 1)
            let right ←
              climb operand fuel (operator.level + 1) (index + 1) first.node first.stop
            climb operand fuel minLevel start
              (.binary (covering start right.stop) operator left right.node) right.stop

/-- The binary expression of the levels from `minLevel` on. -/
def binary (minLevel start : Nat) : Attempt (Match Expr) :=
  supervise input start do
    let first ← nested .cast start
    climb input (nested .cast) input.fuel minLevel start first.node first.stop

/-- Type specifiers between parentheses, before an operand. -/
def castForm (start : Nat) : Attempt (Match Expr) :=
  supervise input start do
    let types ← specifiers input (start + 1)
    let afterTypes ← expect input .rightParen types.stop
    let operand ← nested .cast afterTypes
    return {
      node := .cast (covering start operand.stop) types.node operand.node
      stop := operand.stop
    }

/-- Arguments separated by commas, up to the closing parenthesis. -/
def argumentsFrom : (fuel index : Nat) → Attempt (Match (List Expr))
  | 0, _ => abort .stalled
  | fuel + 1, index => do
      let argument ← nested .assignment index
      match input.kindAt argument.stop with
      | .rightParen => return { node := [argument.node], stop := argument.stop + 1 }
      | .comma =>
          let rest ← argumentsFrom fuel (argument.stop + 1)
          return { node := argument.node :: rest.node, stop := rest.stop }
      | _ => throw (.missing argument.stop (.kind .rightParen) [.kind .comma])

/-- The arguments of a call, from its opening parenthesis on. -/
def arguments (start : Nat) : Attempt (Match (List Expr)) :=
  supervise input start do
    if input.kindAt (start + 1) = .rightParen then
      return { node := [], stop := start + 2 }
    else
      argumentsFrom input nested input.fuel (start + 1)

/-- A name, a constant, a string or an expression in parentheses. -/
def primary (start : Nat) : Attempt (Match Expr) :=
  supervise input start do
    let token ← tokenAt input start
    let span := covering start (start + 1)
    match token.kind with
    | .identifier => return { node := .identifier span token.lexeme, stop := start + 1 }
    | .integerConstant | .doubleConstant | .charConstant =>
        match token.constant with
        | .number value => return { node := .number span value, stop := start + 1 }
        | .tooLarge => abort .constantTooLarge
        | .invalid =>
            throw (.failure .expectedExpression start none
              (some s!"invalid numeric constant '{token.lexeme}'"))
    | .stringLiteral =>
        return { node := .string span (Literal.text token.lexeme), stop := start + 1 }
    | .leftParen =>
        let inner ← nested .assignment (start + 1)
        let stop ← expect input .rightParen inner.stop
        return { node := .paren (covering start stop) inner.node, stop }
    | _ => throw (.failure .expectedExpression start)

/-- Take subscripts and calls after an expression that goes from `start` to `index`. -/
def suffixes : (fuel start : Nat) → (node : Expr) → (index : Nat) → Attempt (Match Expr)
  | 0, _, _, _ => abort .stalled
  | fuel + 1, start, node, index =>
      match input.kindAt index with
      | .leftBracket => do
          let subscript ← nested .assignment (index + 1)
          let stop ← expect input .rightBracket subscript.stop
          suffixes fuel start (.subscript (covering start stop) node subscript.node) stop
      | .leftParen => do
          let list ← arguments input nested index
          suffixes fuel start (.call (covering start list.stop) node list.node) list.stop
      | _ => return { node, stop := index }

/-- A primary expression with any subscripts and calls after it. -/
def suffixed (start : Nat) : Attempt (Match Expr) :=
  supervise input start do
    let first ← primary input nested start
    suffixes input nested input.fuel start first.node first.stop

/-- An expression of a stratum. -/
def expressionBody (stratum : Stratum) (start : Nat) : Attempt (Match Expr) :=
  match stratum with
  | .assignment =>
      firstOf (assignmentForm input nested start) [binary input nested 0 start]
  | .cast =>
      if input.kindAt start = .leftParen ∧ (input.kindAt (start + 1)).isTypeSpecifier then
        firstOf (castForm input nested start) [nested .unary start]
      else
        nested .unary start
  | .unary =>
      match UnaryOperator.ofKind? (input.kindAt start) with
      | none => suffixed input nested start
      | some operator => do
          let operand ← nested .cast (start + 1)
          return {
            node := .unary (covering start operand.stop) operator operand.node
            stop := operand.stop
          }

end Strata

/-- The expression of a stratum at a start index, within a nesting budget. -/
def expression (input : Input) : (budget : Nat) → Nested
  | 0, stratum, start =>
      supervise input start
        (remembered input stratum start
          (guarded input start (tooDeep start input.options.maxNesting)))
  | budget + 1, stratum, start =>
      supervise input start
        (remembered input stratum start
          (guarded input start (expressionBody input (expression input budget) stratum start)))

end MiniC.Parser
