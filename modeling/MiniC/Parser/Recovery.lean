import MiniC.Parser.State

/-!
# Recovering from errors

Units and blocks are sequences of items.  An item that cannot be parsed is
recorded with its deepest failure and left out, and parsing goes on at the next
synchronisation point that is not before that failure: just after a semicolon
or a closing parenthesis, or at the first token of a new line.  Recovery never
leaves the sequence.
-/

namespace MiniC.Parser

/-- Look for a synchronisation point among the next `count` indices. -/
def synchronizeFrom (stream : TokenStream) : (count index : Nat) → Except Fault Nat
  | 0, index => .ok index
  | count + 1, index =>
      match stream.get? (index - 1) with
      | none => .error .pastEnd
      | some previous =>
          if previous.kind = .semicolon ∨ previous.kind = .rightParen then .ok index
          else
            match stream.get? index with
            | none => .error .pastEnd
            | some token =>
                if token.line ≠ previous.line then .ok index
                else synchronizeFrom stream count (index + 1)

/-- Where to go on after an item from `start` failed at `failedAt`: past the
start, not before the failure and not beyond the limit. -/
def synchronize (input : Input) (start failedAt limit : Nat) : Except Fault Nat :=
  let first := max failedAt (start + 1)
  if limit ≤ first then .ok limit
  else synchronizeFrom input.stream (limit - first) first

/-- Whether the error limit is reached. -/
def limitReached (input : Input) (state : State) : Bool :=
  input.options.maxErrors ≤ state.reported.length + state.errorCount

/-- Run a rule with no failure noted before; the answer comes with the deepest
failure noted on the way.  What was noted before is put back, unless the rule
breaks off. -/
def watched {α : Type} (rule : Attempt (Match α)) : Engine (Outcome α × Option Diagnostic) := do
  let before := (← get).noted
  modify fun state => { state with noted := [] }
  let outcome ← rule.run
  let superseded := (← get).superseded
  modify fun state => { state with noted := before }
  return (outcome, superseded)

/-- The diagnostic to record for an item that failed. -/
def itemFailure (start : Nat) (description : String) (failure : Diagnostic)
    (superseded : Option Diagnostic) : Diagnostic :=
  let deepest :=
    match superseded with
    | some other => if failure.kind = .nestingTooDeep then failure else failure.deepest other
    | none => failure
  describeAt start description deepest

/-- Parse items from an index up to a limit, recovering from those that fail. -/
def itemsFrom {α : Type} (input : Input) (item : Nat → Attempt (Match α)) (description : String)
    (limit : Nat) : (fuel index : Nat) → Engine (Match (List α))
  | 0, _ => abort .stalled
  | fuel + 1, index =>
      if limit ≤ index then
        return { node := [], stop := index }
      else do
        let state ← get
        if limitReached input state then
          record (.limitReached index limit)
          return { node := [], stop := limit }
        else
          let (outcome, superseded) ← watched (item index)
          match outcome with
          | .ok found =>
              modify fun after =>
                { after with errorCount := state.errorCount + found.recovered.length }
              let rest ← itemsFrom input item description limit fuel found.stop
              return {
                node := found.node :: rest.node
                stop := rest.stop
                recovered := found.recovered ++ rest.recovered
              }
          | .error failure =>
              let diagnostic := itemFailure index description failure superseded
              modify fun after => { after with errorCount := state.errorCount + 1 }
              match synchronize input index diagnostic.depth.toNat limit with
              | .error fault => abort fault
              | .ok resume =>
                  record (.recovered diagnostic.kind diagnostic.position index resume)
                  let rest ← itemsFrom input item description limit fuel resume
                  return { rest with recovered := diagnostic :: rest.recovered }

/-- Parse the items between an index and a limit. -/
def items {α : Type} (input : Input) (item : Nat → Attempt (Match α)) (description : String)
    (start limit : Nat) : Engine (Match (List α)) :=
  itemsFrom input item description limit input.fuel start

end MiniC.Parser
