import MiniC.Lexer.Scan

/-!
# Reading tokens one at a time

A reader holds a place in a source and hands out tokens on demand.  Once it
has handed out the end of input, or has failed, it is exhausted; a new reader
may be started at the place where it stopped.
-/

namespace MiniC.Lexer

/-- A place in a source from which tokens are read. -/
structure Reader where
  filename : String
  place : Cursor
  exhausted : Bool := false

namespace Reader

/-- A reader at the start of a source. -/
def ofSource (source filename : String) (line : Int) : Reader :=
  { filename, place := .atStart source.toList line }

/-- Read one token, giving it the number `first`; an exhausted reader yields
none.  The last component is the first number that is still free. -/
def next (reader : Reader) (first : Nat) : Except Error (Option Token) × Reader × Nat :=
  if reader.exhausted then (.ok none, reader, first)
  else
    match Lexer.next reader.filename reader.place with
    | .token token place =>
        (.ok (some { token with number := first }), { reader with place }, first + 1)
    | .finish place =>
        (.ok (some (.endOfInput place.line first)), { reader with place, exhausted := true },
          first + 1)
    | .failure error place => (.error error, { reader with place, exhausted := true }, first)

/-- Read all remaining tokens. -/
def rest (reader : Reader) (first : Nat) : Except Error (List Token) × Reader × Nat :=
  if reader.exhausted then (.ok [], reader, first)
  else
    let result := scanFrom reader.filename reader.place
    let tokens : Except Error (List Token) :=
      match result.failure with
      | some error => .error error
      | none => .ok (Token.numberFrom first result.tokens)
    (tokens, { reader with place := result.place, exhausted := true },
      first + result.tokens.length)

/-- Start reading again at the current place. -/
def restart (reader : Reader) : Reader :=
  { reader with exhausted := false }

end Reader

end MiniC.Lexer
