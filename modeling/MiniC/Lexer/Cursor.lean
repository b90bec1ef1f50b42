/-!
# Cursors

A cursor is a place in a text together with its line and column.  Only a line
feed starts a new line here.
-/

namespace MiniC.Lexer

/-- A place in a text. -/
structure Cursor where
  /-- The text from here on. -/
  rest : List Char
  /-- The text from the start of the current line on. -/
  lineText : List Char
  /-- The number of characters before this place. -/
  offset : Nat := 0
  line : Int := 1
  /-- The column of the next character, counted from one. -/
  column : Nat := 1
  deriving DecidableEq, Repr

namespace Cursor

/-- The start of a text whose first line has the given number. -/
def atStart (text : List Char) (line : Int) : Cursor :=
  { rest := text, lineText := text, line }

/-- The place after the next character. -/
def step (cursor : Cursor) : Cursor :=
  match cursor.rest with
  | [] => cursor
  | c :: rest =>
      if c = '\n' then
        { rest, lineText := rest, offset := cursor.offset + 1
          line := cursor.line + 1, column := 1 }
      else
        { cursor with rest, offset := cursor.offset + 1, column := cursor.column + 1 }

/-- The place after a number of characters. -/
def skip (cursor : Cursor) : Nat → Cursor
  | 0 => cursor
  | count + 1 => cursor.step.skip count

/-- The current line without its line feed. -/
def currentLine (cursor : Cursor) : String :=
  String.ofList (cursor.lineText.takeWhile (· ≠ '\n'))

@[simp]
theorem rest_step (cursor : Cursor) : cursor.step.rest = cursor.rest.tail := by
  unfold step
  split
  next empty => simp [empty]
  next c rest nonempty => split <;> simp [nonempty]

@[simp]
theorem rest_skip (cursor : Cursor) (count : Nat) :
    (cursor.skip count).rest = cursor.rest.drop count := by
  induction count generalizing cursor with
  | zero => rfl
  | succ count induction =>
      rw [skip, induction, rest_step, List.drop_tail, Nat.add_comm]

end Cursor

end MiniC.Lexer
