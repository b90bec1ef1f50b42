import MiniC.Diagnostic.Basic

/-!
# Ordered choice

Alternatives are tried in order, and the first success wins.  When none
succeeds, the deepest failure is the answer.  When one succeeds after others
failed, the deepest of their failures is noted, since it may still explain why
the surrounding construct fails later.

A failure because of too deep nesting ends the search at once: another
alternative for the same tokens would only nest deeper.
-/

namespace MiniC.Choice

variable {m : Type → Type} [Monad m] {α : Type}

/-- Try alternatives after others have failed, `best` being their deepest failure. -/
def continueWith (note : Diagnostic → m Unit) (best : Diagnostic) :
    List (m (Except Diagnostic α)) → m (Except Diagnostic α)
  | [] => pure (.error best)
  | alternative :: rest => do
      match ← alternative with
      | .ok found =>
          note best
          pure (.ok found)
      | .error failure =>
          if failure.kind = .nestingTooDeep then pure (.error failure)
          else continueWith note (best.deepest failure) rest

/-- Try a first alternative and then the others. -/
def firstOf (note : Diagnostic → m Unit) (first : m (Except Diagnostic α))
    (others : List (m (Except Diagnostic α))) : m (Except Diagnostic α) := do
  match ← first with
  | .ok found => pure (.ok found)
  | .error failure =>
      if failure.kind = .nestingTooDeep then pure (.error failure)
      else continueWith note failure others

/-- Try alternatives, if there are any. -/
def firstOf? (note : Diagnostic → m Unit) :
    List (m (Except Diagnostic α)) → m (Option (Except Diagnostic α))
  | [] => pure none
  | first :: others => do
      let outcome ← firstOf note first others
      pure (some outcome)

end MiniC.Choice
