import MiniC.Diagnostic.Choice
import MiniC.Syntax.Expr

/-!
# Results of rules

A rule looks at a stream from a start index on.  It matches, with the node it
built and the index after it, or it fails with a diagnostic.  A match may carry
errors that were recovered from inside it.
-/

namespace MiniC.Parser

/-- A match: the node, the index after it and the errors recovered inside it. -/
structure Match (α : Type) where
  node : α
  stop : Nat
  recovered : List Diagnostic := []

/-- A match with another node. -/
def Match.map {α β : Type} (f : α → β) (found : Match α) : Match β :=
  { node := f found.node, stop := found.stop, recovered := found.recovered }

/-- What a rule answers. -/
abbrev Outcome (α : Type) := Except Diagnostic (Match α)

/-- The ways in which a run of the parser is broken off altogether. -/
inductive Fault where
  /-- An integer constant is too large for the number format. -/
  | constantTooLarge
  /-- A rule was started beyond the end of the stream, or left it. -/
  | pastEnd
  /-- A bracket scan met a closing bracket or its end with no bracket open. -/
  | unopenedBracket
  /-- A loop ran longer than the stream allows, which no loop does. -/
  | stalled
  deriving DecidableEq, Repr

/-- The wording of a fault. -/
def Fault.message : Fault → String
  | .constantTooLarge => "int too large to convert to float"
  | .pastEnd => "tuple index out of range"
  | .unopenedBracket => "list index out of range"
  | .stalled => "loop exceeds the length of the token stream"

end MiniC.Parser
