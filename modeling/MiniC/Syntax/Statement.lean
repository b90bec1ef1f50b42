import MiniC.Syntax.Declarator

/-!
# Statements and compilation units

Blocks hold declarations and statements in source order.  A declaration with a
body is a function definition.  A tree made by hand may hold a whole unit in the
place of a statement.
-/

namespace MiniC

mutual

/-- A statement, or a declaration or a unit among statements. -/
inductive Statement where
  | compound (block : Block)
  | declaration (declaration : Declaration)
  | ifElse (span : Option Span) (condition : Expr) (thenBranch : Statement)
      (elseBranch : Option Statement)
  | whileLoop (span : Option Span) (condition : Expr) (body : Statement)
  | returnValue (span : Option Span) (value : Option Expr)
  | breakLoop (span : Option Span)
  | continueLoop (span : Option Span)
  | empty (span : Option Span)
  | expression (span : Option Span) (expression : Expr)
  | unit (unit : CompilationUnit)

/-- Statements between braces. -/
inductive Block where
  | mk (span : Option Span) (items : List Statement)

/-- A declaration, or a function definition when it has a body. -/
inductive Declaration where
  | mk (span : Option Span) (root : DeclarationRoot) (body : Option Block)

/-- The declarations of a whole source. -/
inductive CompilationUnit where
  | mk (span : Option Span) (declarations : List Declaration)

end

namespace Block

/-- The tokens that a block covers, braces included. -/
def span : Block → Option Span
  | .mk span _ => span

/-- The statements of a block. -/
def items : Block → List Statement
  | .mk _ items => items

end Block

namespace Declaration

/-- The tokens that a declaration covers. -/
def span : Declaration → Option Span
  | .mk span _ _ => span

/-- The specifiers and declarators of a declaration. -/
def root : Declaration → DeclarationRoot
  | .mk _ root _ => root

/-- The body of a function definition. -/
def body : Declaration → Option Block
  | .mk _ _ body => body

/-- Whether a declaration defines a function. -/
def isDefinition (declaration : Declaration) : Bool :=
  declaration.body.isSome

end Declaration

namespace CompilationUnit

/-- The tokens that a unit covers. -/
def span : CompilationUnit → Option Span
  | .mk span _ => span

/-- The declarations of a unit. -/
def declarations : CompilationUnit → List Declaration
  | .mk _ declarations => declarations

end CompilationUnit

/-- The tokens that a statement covers. -/
def Statement.span : Statement → Option Span
  | .compound inner => inner.span
  | .declaration inner => inner.span
  | .unit inner => inner.span
  | .ifElse span _ _ _ | .whileLoop span _ _ | .returnValue span _ | .breakLoop span
  | .continueLoop span | .empty span | .expression span _ => span

end MiniC
