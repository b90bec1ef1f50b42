import MiniC.Syntax.Statement
import MiniC.Token.Constant
import MiniC.Token.Stream

/-!
# The grammar

What it means that the tokens between two indices of a stream are derived from a
construct of the grammar, and with which tree.  Trees of the grammar have no
spans.  The grammar says nothing about how its constructs are found: it has no
order among alternatives, no look-ahead and no limits.

The repetitions of a stratum are written with the repetition on the left, so
that binary operators of one level, suffixes and declarator groups nest to the
left; an assignment has its repetition on the right.
-/

namespace MiniC.Parser

/-- One or more type specifiers. -/
inductive Specifiers (stream : TokenStream) : List Token → Nat → Nat → Prop where
  | last {start : Nat} {token : Token} :
      stream.get? start = some token → token.isTypeSpecifier = true →
      Specifiers stream [token] start (start + 1)
  | more {start stop : Nat} {token : Token} {rest : List Token} :
      stream.get? start = some token → token.isTypeSpecifier = true →
      Specifiers stream rest (start + 1) stop →
      Specifiers stream (token :: rest) start stop

/-- The strata of expressions, from the loosest one on.  The binary strata are counted by
the levels of their operators. -/
inductive Rank where
  | assignment
  | level (level : Nat)
  | cast
  | unary
  | suffixed
  | primary

/-- Constructs that are derived together with expressions. -/
inductive Phrase where
  | expr (rank : Rank) (tree : Expr)
  | arguments (trees : List Expr)

/-- Whether a kind is one of the numeric constants. -/
def isNumeric : Kind → Bool
  | .integerConstant | .doubleConstant | .charConstant => true
  | _ => false

/-- The tokens from `start` up to `stop` make an expression, or the arguments of a call. -/
inductive Derives (stream : TokenStream) : Phrase → Nat → Nat → Prop where
  | identifier {start : Nat} {token : Token} :
      stream.get? start = some token → token.kind = .identifier →
      Derives stream (.expr .primary (.identifier none token.lexeme)) start (start + 1)
  | number {start : Nat} {token : Token} {value : Binary64} :
      stream.get? start = some token → isNumeric token.kind = true →
      token.constant = .number value →
      Derives stream (.expr .primary (.number none value)) start (start + 1)
  | string {start : Nat} {token : Token} :
      stream.get? start = some token → token.kind = .stringLiteral →
      Derives stream (.expr .primary (.string none (Literal.text token.lexeme))) start (start + 1)
  | paren {start stop : Nat} {inner : Expr} :
      stream.kindAt start = .leftParen →
      Derives stream (.expr .assignment inner) (start + 1) stop →
      stream.kindAt stop = .rightParen →
      Derives stream (.expr .primary (.paren none inner)) start (stop + 1)
  | bare {start stop : Nat} {tree : Expr} :
      Derives stream (.expr .primary tree) start stop →
      Derives stream (.expr .suffixed tree) start stop
  | subscript {start middle stop : Nat} {array index : Expr} :
      Derives stream (.expr .suffixed array) start middle →
      stream.kindAt middle = .leftBracket →
      Derives stream (.expr .assignment index) (middle + 1) stop →
      stream.kindAt stop = .rightBracket →
      Derives stream (.expr .suffixed (.subscript none array index)) start (stop + 1)
  | emptyCall {start middle : Nat} {callee : Expr} :
      Derives stream (.expr .suffixed callee) start middle →
      stream.kindAt middle = .leftParen → stream.kindAt (middle + 1) = .rightParen →
      Derives stream (.expr .suffixed (.call none callee [])) start (middle + 2)
  | call {start middle stop : Nat} {callee : Expr} {arguments : List Expr} :
      Derives stream (.expr .suffixed callee) start middle →
      stream.kindAt middle = .leftParen →
      Derives stream (.arguments arguments) (middle + 1) stop →
      stream.kindAt stop = .rightParen →
      Derives stream (.expr .suffixed (.call none callee arguments)) start (stop + 1)
  | lastArgument {start stop : Nat} {tree : Expr} :
      Derives stream (.expr .assignment tree) start stop →
      Derives stream (.arguments [tree]) start stop
  | moreArguments {start middle stop : Nat} {tree : Expr} {rest : List Expr} :
      Derives stream (.expr .assignment tree) start middle →
      stream.kindAt middle = .comma →
      Derives stream (.arguments rest) (middle + 1) stop →
      Derives stream (.arguments (tree :: rest)) start stop
  | unsigned {start stop : Nat} {tree : Expr} :
      Derives stream (.expr .suffixed tree) start stop →
      Derives stream (.expr .unary tree) start stop
  | unary {start stop : Nat} {operator : UnaryOperator} {operand : Expr} :
      UnaryOperator.ofKind? (stream.kindAt start) = some operator →
      Derives stream (.expr .cast operand) (start + 1) stop →
      Derives stream (.expr .unary (.unary none operator operand)) start stop
  | uncast {start stop : Nat} {tree : Expr} :
      Derives stream (.expr .unary tree) start stop →
      Derives stream (.expr .cast tree) start stop
  | cast {start middle stop : Nat} {specifiers : List Token} {operand : Expr} :
      stream.kindAt start = .leftParen →
      Specifiers stream specifiers (start + 1) middle →
      stream.kindAt middle = .rightParen →
      Derives stream (.expr .cast operand) (middle + 1) stop →
      Derives stream (.expr .cast (.cast none specifiers operand)) start stop
  | operand {start stop : Nat} {tree : Expr} :
      Derives stream (.expr .cast tree) start stop →
      Derives stream (.expr (.level BinaryOperator.levels) tree) start stop
  | tighter {start stop level : Nat} {tree : Expr} :
      Derives stream (.expr (.level (level + 1)) tree) start stop →
      Derives stream (.expr (.level level) tree) start stop
  | binary {start middle stop : Nat} {operator : BinaryOperator} {left right : Expr} :
      Derives stream (.expr (.level operator.level) left) start middle →
      BinaryOperator.ofKind? (stream.kindAt middle) = some operator →
      Derives stream (.expr (.level (operator.level + 1)) right) (middle + 1) stop →
      Derives stream (.expr (.level operator.level) (.binary none operator left right)) start stop
  | unassigned {start stop : Nat} {tree : Expr} :
      Derives stream (.expr (.level 0) tree) start stop →
      Derives stream (.expr .assignment tree) start stop
  | assign {start middle stop : Nat} {operator : AssignOperator} {target value : Expr} :
      Derives stream (.expr .unary target) start middle →
      AssignOperator.ofKind? (stream.kindAt middle) = some operator →
      Derives stream (.expr .assignment value) (middle + 1) stop →
      Derives stream (.expr .assignment (.assign none operator target value)) start stop

/-- Constructs that are derived together with declarators. -/
inductive Shape where
  | declarator (tree : Declarator)
  | parameters (trees : List DeclarationRoot)

/-- The tokens from `start` up to `stop` make a declarator, or the parameters of a function:
a name with square or round groups after it. -/
inductive Declares (stream : TokenStream) : Shape → Nat → Nat → Prop where
  | name {start : Nat} {token : Token} :
      stream.get? start = some token → token.kind = .identifier →
      Declares stream (.declarator (.name none token)) start (start + 1)
  | array {start opening : Nat} {base : Declarator} :
      Declares stream (.declarator base) start opening →
      stream.kindAt opening = .leftBracket → stream.kindAt (opening + 1) = .rightBracket →
      Declares stream (.declarator (.array none base none)) start (opening + 2)
  | sizedArray {start opening closing : Nat} {base : Declarator} {size : Expr} :
      Declares stream (.declarator base) start opening →
      stream.kindAt opening = .leftBracket →
      Derives stream (.expr .assignment size) (opening + 1) closing →
      stream.kindAt closing = .rightBracket →
      Declares stream (.declarator (.array none base (some size))) start (closing + 1)
  | function {start opening : Nat} {base : Declarator} :
      Declares stream (.declarator base) start opening →
      stream.kindAt opening = .leftParen → stream.kindAt (opening + 1) = .rightParen →
      Declares stream (.declarator (.function none base [])) start (opening + 2)
  | functionOf {start opening closing : Nat} {base : Declarator}
      {parameters : List DeclarationRoot} :
      Declares stream (.declarator base) start opening →
      stream.kindAt opening = .leftParen →
      Declares stream (.parameters parameters) (opening + 1) closing →
      stream.kindAt closing = .rightParen →
      Declares stream (.declarator (.function none base parameters)) start (closing + 1)
  | lastParameter {start middle stop : Nat} {specifiers : List Token} {tree : Declarator} :
      Specifiers stream specifiers start middle →
      Declares stream (.declarator tree) middle stop →
      Declares stream (.parameters [.single none specifiers tree]) start stop
  | moreParameters {start middle stop last : Nat} {specifiers : List Token} {tree : Declarator}
      {rest : List DeclarationRoot} :
      Specifiers stream specifiers start middle →
      Declares stream (.declarator tree) middle stop →
      stream.kindAt stop = .comma →
      Declares stream (.parameters rest) (stop + 1) last →
      Declares stream (.parameters (.single none specifiers tree :: rest)) start last

/-- An initial value, which may be left out. -/
inductive DerivesInitial (stream : TokenStream) : Option Expr → Nat → Nat → Prop where
  | none {start : Nat} : DerivesInitial stream none start start
  | some {start stop : Nat} {value : Expr} :
      stream.kindAt start = .assign →
      Derives stream (.expr .assignment value) (start + 1) stop →
      DerivesInitial stream (some value) start stop

/-- Declarators with their initial values, separated by commas. -/
inductive DerivesItems (stream : TokenStream) : List InitDeclarator → Nat → Nat → Prop where
  | last {start middle stop : Nat} {tree : Declarator} {value : Option Expr} :
      Declares stream (.declarator tree) start middle →
      DerivesInitial stream value middle stop →
      DerivesItems stream [.mk tree value] start stop
  | more {start middle stop last : Nat} {tree : Declarator} {value : Option Expr}
      {rest : List InitDeclarator} :
      Declares stream (.declarator tree) start middle →
      DerivesInitial stream value middle stop →
      stream.kindAt stop = .comma →
      DerivesItems stream rest (stop + 1) last →
      DerivesItems stream (.mk tree value :: rest) start last

/-- Type specifiers with any declarators and a semicolon. -/
inductive DerivesDeclaration (stream : TokenStream) : Declaration → Nat → Nat → Prop where
  | bare {start stop : Nat} {specifiers : List Token} :
      Specifiers stream specifiers start stop →
      stream.kindAt stop = .semicolon →
      DerivesDeclaration stream (.mk none (.mk none specifiers []) none) start (stop + 1)
  | declared {start middle stop : Nat} {specifiers : List Token} {items : List InitDeclarator} :
      Specifiers stream specifiers start middle →
      DerivesItems stream items middle stop →
      stream.kindAt stop = .semicolon →
      DerivesDeclaration stream (.mk none (.mk none specifiers items) none) start (stop + 1)

/-- Which `if` an `else` may belong to: any one that the grammar allows, or only the
nearest. -/
inductive Attachment where
  | any
  | nearest
  deriving DecidableEq

/-- Constructs that are derived together with statements. -/
inductive Clause where
  | statement (tree : Statement)
  | items (trees : List Statement)
  | block (tree : Block)

/-- The tokens from `start` up to `stop` make a statement, the items of a block or a block.
When an `else` belongs to the nearest `if`, an `if` without an alternative is not followed by
one. -/
inductive Forms (stream : TokenStream) (attachment : Attachment) :
    Clause → Nat → Nat → Prop where
  | ifOnly {start middle stop : Nat} {test : Expr} {thenBranch : Statement} :
      stream.kindAt start = .ifWord → stream.kindAt (start + 1) = .leftParen →
      Derives stream (.expr .assignment test) (start + 2) middle →
      stream.kindAt middle = .rightParen →
      Forms stream attachment (.statement thenBranch) (middle + 1) stop →
      (attachment = .nearest → stream.kindAt stop ≠ .elseWord) →
      Forms stream attachment (.statement (.ifElse none test thenBranch none)) start stop
  | ifElse {start middle between stop : Nat} {test : Expr} {thenBranch elseBranch : Statement} :
      stream.kindAt start = .ifWord → stream.kindAt (start + 1) = .leftParen →
      Derives stream (.expr .assignment test) (start + 2) middle →
      stream.kindAt middle = .rightParen →
      Forms stream attachment (.statement thenBranch) (middle + 1) between →
      stream.kindAt between = .elseWord →
      Forms stream attachment (.statement elseBranch) (between + 1) stop →
      Forms stream attachment (.statement (.ifElse none test thenBranch (some elseBranch)))
        start stop
  | whileLoop {start middle stop : Nat} {test : Expr} {body : Statement} :
      stream.kindAt start = .whileWord → stream.kindAt (start + 1) = .leftParen →
      Derives stream (.expr .assignment test) (start + 2) middle →
      stream.kindAt middle = .rightParen →
      Forms stream attachment (.statement body) (middle + 1) stop →
      Forms stream attachment (.statement (.whileLoop none test body)) start stop
  | returnNothing {start : Nat} :
      stream.kindAt start = .returnWord → stream.kindAt (start + 1) = .semicolon →
      Forms stream attachment (.statement (.returnValue none none)) start (start + 2)
  | returnValue {start stop : Nat} {value : Expr} :
      stream.kindAt start = .returnWord →
      Derives stream (.expr .assignment value) (start + 1) stop →
      stream.kindAt stop = .semicolon →
      Forms stream attachment (.statement (.returnValue none (some value))) start (stop + 1)
  | breakLoop {start : Nat} :
      stream.kindAt start = .breakWord → stream.kindAt (start + 1) = .semicolon →
      Forms stream attachment (.statement (.breakLoop none)) start (start + 2)
  | continueLoop {start : Nat} :
      stream.kindAt start = .continueWord → stream.kindAt (start + 1) = .semicolon →
      Forms stream attachment (.statement (.continueLoop none)) start (start + 2)
  | compound {start stop : Nat} {tree : Block} :
      Forms stream attachment (.block tree) start stop →
      Forms stream attachment (.statement (.compound tree)) start stop
  | empty {start : Nat} :
      stream.kindAt start = .semicolon →
      Forms stream attachment (.statement (.empty none)) start (start + 1)
  | expression {start stop : Nat} {tree : Expr} :
      Derives stream (.expr .assignment tree) start stop →
      stream.kindAt stop = .semicolon →
      Forms stream attachment (.statement (.expression none tree)) start (stop + 1)
  | noItems {start : Nat} : Forms stream attachment (.items []) start start
  | declarationItem {start middle stop : Nat} {tree : Declaration} {rest : List Statement} :
      DerivesDeclaration stream tree start middle →
      Forms stream attachment (.items rest) middle stop →
      Forms stream attachment (.items (.declaration tree :: rest)) start stop
  | statementItem {start middle stop : Nat} {tree : Statement} {rest : List Statement} :
      Forms stream attachment (.statement tree) start middle →
      Forms stream attachment (.items rest) middle stop →
      Forms stream attachment (.items (tree :: rest)) start stop
  | block {start stop : Nat} {trees : List Statement} :
      stream.kindAt start = .leftBrace →
      Forms stream attachment (.items trees) (start + 1) stop →
      stream.kindAt stop = .rightBrace →
      Forms stream attachment (.block (.mk none trees)) start (stop + 1)

/-- A function declarator with a body. -/
inductive DerivesDefinition (stream : TokenStream) (attachment : Attachment) :
    Declaration → Nat → Nat → Prop where
  | define {start middle opening stop : Nat} {specifiers : List Token} {tree : Declarator}
      {body : Block} :
      Specifiers stream specifiers start middle →
      Declares stream (.declarator tree) middle opening → tree.isFunction = true →
      Forms stream attachment (.block body) opening stop →
      DerivesDefinition stream attachment
        (.mk none (.single none specifiers tree) (some body)) start stop

/-- Declarations and function definitions. -/
inductive DerivesDeclarations (stream : TokenStream) (attachment : Attachment) :
    List Declaration → Nat → Nat → Prop where
  | nil {start : Nat} : DerivesDeclarations stream attachment [] start start
  | declaration {start middle stop : Nat} {tree : Declaration} {rest : List Declaration} :
      DerivesDeclaration stream tree start middle →
      DerivesDeclarations stream attachment rest middle stop →
      DerivesDeclarations stream attachment (tree :: rest) start stop
  | definition {start middle stop : Nat} {tree : Declaration} {rest : List Declaration} :
      DerivesDefinition stream attachment tree start middle →
      DerivesDeclarations stream attachment rest middle stop →
      DerivesDeclarations stream attachment (tree :: rest) start stop

/-- The tokens before the end mark make a compilation unit. -/
inductive DerivesUnit (stream : TokenStream) (attachment : Attachment) :
    CompilationUnit → Prop where
  | unit {declarations : List Declaration} :
      DerivesDeclarations stream attachment declarations 0 stream.lastIndex →
      DerivesUnit stream attachment (.mk none declarations)

end MiniC.Parser
