import MiniC.Parser.State

/-!
# Matching brackets

Declarators are delimited by scanning for matching round and square brackets.
A scan forward never passes a semicolon, a brace or the end of input.  Blocks
are delimited by counting braces.
-/

namespace MiniC.Parser

/-- The brackets of declarators. -/
inductive Bracket where
  | round
  | square
  deriving DecidableEq, Repr

/-- What a token means to a bracket scan. -/
inductive BracketRole where
  | opens (bracket : Bracket)
  | closes (bracket : Bracket)
  | stops
  | plain
  deriving DecidableEq, Repr

/-- The role of a kind of token in a bracket scan. -/
def bracketRole : Kind → BracketRole
  | .leftParen => .opens .round
  | .leftBracket => .opens .square
  | .rightParen => .closes .round
  | .rightBracket => .closes .square
  | .semicolon | .leftBrace | .rightBrace | .endOfInput => .stops
  | _ => .plain

/-- A bracket that is still open, or on the way back still closed, with its index. -/
structure Pending where
  index : Nat
  bracket : Bracket

/-- The answer of a scan: an index or a failure, unless the scan broke off. -/
abbrev Scanned := Except Fault (Except Diagnostic Nat)

/-- Go on with a scan as a step of a rule. -/
def Scanned.attempt (scanned : Scanned) : Attempt Nat :=
  match scanned with
  | .error fault => abort fault
  | .ok (.error failure) => throw failure
  | .ok (.ok index) => pure index

/-- Scan forward from an index with some brackets open. -/
def scanForward (stream : TokenStream) :
    (fuel : Nat) → (opened : List Pending) → (index : Nat) → Scanned
  | 0, _, _ => .error .stalled
  | fuel + 1, opened, index =>
      match stream.get? index with
      | none => .error .pastEnd
      | some token =>
          match bracketRole token.kind with
          | .opens bracket => scanForward stream fuel (⟨index, bracket⟩ :: opened) (index + 1)
          | .closes bracket =>
              match opened with
              | [] => .error .unopenedBracket
              | innermost :: outer =>
                  if innermost.bracket ≠ bracket then
                    .ok (.error (.failure .mismatchedDelimiter index))
                  else if outer.isEmpty then .ok (.ok index)
                  else scanForward stream fuel outer (index + 1)
          | .stops =>
              match opened with
              | [] => .error .unopenedBracket
              | innermost :: _ =>
                  .ok (.error
                    (.failure .mismatchedDelimiter innermost.index (some (index : Int))))
          | .plain => scanForward stream fuel opened (index + 1)

/-- The index of the bracket that closes the one at `index`. -/
def matchForward (input : Input) (index : Nat) : Scanned :=
  scanForward input.stream input.fuel [] index

/-- Scan backward over the `count` tokens from `start` on, with some brackets
closed that have yet to be opened; `close` is the bracket to be matched. -/
def scanBackward (stream : TokenStream) (close start : Nat) :
    (closed : List Pending) → (count : Nat) → Scanned
  | _, 0 => .ok (.error (.failure .mismatchedDelimiter close))
  | closed, count + 1 =>
      let index := start + count
      match stream.get? index with
      | none => .error .pastEnd
      | some token =>
          match bracketRole token.kind with
          | .closes bracket => scanBackward stream close start (⟨index, bracket⟩ :: closed) count
          | .opens bracket =>
              match closed with
              | [] => .error .unopenedBracket
              | innermost :: outer =>
                  if innermost.bracket ≠ bracket then
                    .ok (.error (.failure .mismatchedDelimiter index (some (close : Int))))
                  else if outer.isEmpty then .ok (.ok index)
                  else scanBackward stream close start outer count
          | _ => scanBackward stream close start closed count

/-- The index, not before `start`, of the bracket that opens the one at `close`. -/
def matchBackward (input : Input) (close start : Nat) : Scanned :=
  scanBackward input.stream close start [] (close + 1 - start)

/-- Count braces over the next `count` tokens, up to the one that closes all. -/
def closingBrace? (stream : TokenStream) :
    (count : Nat) → (level : Int) → (index : Nat) → Option Nat
  | 0, _, _ => none
  | count + 1, level, index =>
      match stream.kindAt index with
      | .leftBrace => closingBrace? stream count (level + 1) (index + 1)
      | .rightBrace =>
          if level = 1 then some index
          else closingBrace? stream count (level - 1) (index + 1)
      | _ => closingBrace? stream count level (index + 1)

/-- The index of the brace that closes the one at `index`, or the end of input. -/
def matchingBrace (input : Input) (index : Nat) : Nat :=
  let last := input.stream.lastIndex
  (closingBrace? input.stream (last - index) 0 index).getD last

end MiniC.Parser
