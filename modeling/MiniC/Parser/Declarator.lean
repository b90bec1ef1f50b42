import MiniC.Parser.Bracket
import MiniC.Parser.Expression
import MiniC.Syntax.Declarator

/-!
# Parsing declarators

No symbol table is needed to tell what a declarator declares.  Its end is found
first, by stepping over names and balanced bracket groups.  Its shape is then
read from the right: a last square group makes an array, a last round group
makes a function, and what stands before the group is the base.
-/

namespace MiniC.Parser

/-- Step over names and balanced groups from an index on. -/
def findEndFrom (input : Input) : (fuel index : Nat) → Scanned
  | 0, _ => .error .stalled
  | fuel + 1, index =>
      match input.stream.get? index with
      | none => .error .pastEnd
      | some token =>
          if token.kind = .identifier then findEndFrom input fuel (index + 1)
          else
            match bracketRole token.kind with
            | .opens _ =>
                match matchForward input index with
                | .ok (.ok close) => findEndFrom input fuel (close + 1)
                | other => other
            | _ => .ok (.ok index)

/-- The index after the declarator that starts at an index. -/
def findEnd (input : Input) (start : Nat) : Scanned :=
  findEndFrom input input.fuel start

/-- How the shape of the declarator between two indices is resolved. -/
abbrev Resolver := (start stop : Nat) → Attempt (Match Declarator)

section Shape

variable (input : Input) (resolver : Resolver) (nested : Nested)

/-- The declarator that starts at an index. -/
def declaratorAt (start : Nat) : Attempt (Match Declarator) :=
  supervise input start do
    let stop ← (findEnd input start).attempt
    if stop = start then
      throw (.failure .invalidDeclarator start)
    else
      let resolved ← resolver start stop
      return { node := resolved.node, stop }

/-- The size between two square brackets, which may be left out. -/
def arraySize (opening closing : Nat) : Attempt (Option Expr) :=
  if closing = opening + 1 then
    return none
  else do
    let size ← nested .assignment (opening + 1)
    if size.stop = closing then return some size.node
    else throw (.missing size.stop (.kind .rightBracket))

/-- Parameters separated by commas, up to the closing parenthesis. -/
def parametersFrom (closing : Nat) : (fuel index : Nat) → Attempt (List DeclarationRoot)
  | 0, _ => abort .stalled
  | fuel + 1, index => do
      let types ← specifiers input index
      let declarator ← declaratorAt input resolver types.stop
      let parameter :=
        DeclarationRoot.single (covering index declarator.stop) types.node declarator.node
      if declarator.stop = closing then
        return [parameter]
      else if input.kindAt declarator.stop = .comma then
        let rest ← parametersFrom closing fuel (declarator.stop + 1)
        return parameter :: rest
      else
        throw (.missing declarator.stop (.kind .rightParen) [.kind .comma])

/-- The parameters between two round brackets. -/
def parameters (opening closing : Nat) : Attempt (List DeclarationRoot) :=
  if closing = opening + 1 then return []
  else parametersFrom input resolver closing input.fuel (opening + 1)

/-- The shape of the declarator between two indices. -/
def shape (start stop : Nat) : Attempt (Match Declarator) :=
  if stop ≤ start then
    throw (.failure .invalidDeclarator start)
  else do
    let span := covering start stop
    let last ← tokenAt input (stop - 1)
    match bracketRole last.kind with
    | .closes bracket =>
        let opening ← (matchBackward input (stop - 1) start).attempt
        if opening = start then
          throw (.failure .invalidDeclarator start)
        else
          let base ← resolver start opening
          match bracket with
          | .square =>
              let size ← arraySize nested opening (stop - 1)
              return { node := .array span base.node size, stop }
          | .round =>
              let list ← parameters input resolver opening (stop - 1)
              return { node := .function span base.node list, stop }
    | _ =>
        if stop = start + 1 ∧ last.kind = .identifier then
          return { node := .name span last, stop }
        else
          throw (.failure .invalidDeclarator start)

end Shape

/-- The shape of the declarator between two indices, within a nesting budget. -/
def resolve (input : Input) : (budget : Nat) → Resolver
  | 0, start, _ =>
      supervise input start (guarded input start (tooDeep start input.options.maxNesting))
  | budget + 1, start, stop =>
      supervise input start
        (guarded input start
          (shape input (resolve input budget) (expression input budget) start stop))

/-- The declarator that starts at an index, within a nesting budget. -/
def declarator (input : Input) (budget start : Nat) : Attempt (Match Declarator) :=
  declaratorAt input (resolve input budget) start

end MiniC.Parser
