import MiniC.Syntax.Expr

/-!
# Declarators

A declarator is a name with array and function shapes around it.  Type
specifiers with their declarators, each with an optional initial value, make a
declaration root; a parameter of a function is a root as well.  A tree made by
hand may also hold a root in the place of a declarator.
-/

namespace MiniC

mutual

/-- What a declaration declares: a name, an array or function shape around another
declarator, or a whole root. -/
inductive Declarator where
  | name (span : Option Span) (token : Token)
  | array (span : Option Span) (base : Declarator) (size : Option Expr)
  | function (span : Option Span) (base : Declarator) (parameters : List DeclarationRoot)
  | nested (root : DeclarationRoot)

/-- A declarator with the value it is initialised to, if any. -/
inductive InitDeclarator where
  | mk (declarator : Declarator) (value : Option Expr)

/-- Type specifiers with the declarators they apply to. -/
inductive DeclarationRoot where
  | mk (span : Option Span) (specifiers : List Token) (items : List InitDeclarator)

end

/-- The tokens that a root covers. -/
def DeclarationRoot.span : DeclarationRoot → Option Span
  | .mk span _ _ => span

namespace Declarator

/-- The tokens that a declarator covers. -/
def span : Declarator → Option Span
  | .name span _ | .array span _ _ | .function span _ _ => span
  | .nested root => root.span

/-- Whether the outermost shape is a function. -/
def isFunction : Declarator → Bool
  | .function .. => true
  | _ => false

end Declarator

namespace InitDeclarator

/-- The declarator of a pair. -/
def declarator : InitDeclarator → Declarator
  | .mk declarator _ => declarator

/-- The initial value of a pair. -/
def value : InitDeclarator → Option Expr
  | .mk _ value => value

end InitDeclarator

namespace DeclarationRoot

/-- The type specifiers of a root. -/
def specifiers : DeclarationRoot → List Token
  | .mk _ specifiers _ => specifiers

/-- The declarators of a root with their initial values. -/
def items : DeclarationRoot → List InitDeclarator
  | .mk _ _ items => items

/-- The root with a single declarator and no initial value. -/
def single (span : Option Span) (specifiers : List Token) (declarator : Declarator) :
    DeclarationRoot :=
  .mk span specifiers [.mk declarator none]

/-- Declarators and initial values given apart do not match in number. -/
structure CountMismatch where
  declarators : Nat
  values : Nat
  deriving DecidableEq, Repr

/-- The wording of a mismatch. -/
def CountMismatch.message (mismatch : CountMismatch) : String :=
  s!"{mismatch.declarators} declarators but {mismatch.values} initializers"

/-- The root made of declarators and initial values given apart, which have to
be equally many. -/
def ofParts (span : Option Span) (specifiers : List Token) (declarators : List Declarator)
    (values : List (Option Expr)) : Except CountMismatch DeclarationRoot :=
  if declarators.length = values.length then
    .ok (.mk span specifiers (List.zipWith .mk declarators values))
  else
    .error ⟨declarators.length, values.length⟩

end DeclarationRoot

end MiniC
