import MiniC.Source.Location

/-!
# Error notices

A notice says what is wrong and where, shows the line it is about with a caret
under the right column, and may end with a hint.
-/

namespace MiniC.Source

/-- An error to be shown: a message, and what is known about its place. -/
structure Notice where
  message : String
  location : Option Location := none
  sourceLine : Option String := none
  caretColumn : Option Int := none
  hint : Option String := none
  deriving DecidableEq, Repr

namespace Notice

/-- Width of the margin before a source line. -/
def margin : Nat := 4

/-- The line that says what is wrong and where. -/
def headline (notice : Notice) : String :=
  match notice.location with
  | some location => s!"{location.text}: error: {notice.message}"
  | none => s!"error: {notice.message}"

/-- The column of the caret: the one given, else the one of the place. -/
def caret? (notice : Notice) : Option Int :=
  match notice.caretColumn with
  | some column => some column
  | none => notice.location.map Location.column

/-- The line with the caret, absent when the column is not positive. -/
def caretLine (notice : Notice) : List String :=
  match notice.caret? with
  | some column =>
      if 0 < column then
        [String.ofList (List.replicate (margin + column.toNat - 1) ' ') ++ "^"]
      else []
  | none => []

/-- The source line behind its margin, with the caret below it. -/
def context (notice : Notice) : List String :=
  match notice.sourceLine with
  | some line => (String.ofList (List.replicate margin ' ') ++ line) :: notice.caretLine
  | none => []

/-- The hint; an empty one is left out. -/
def hintLine (notice : Notice) : List String :=
  match notice.hint with
  | some hint => if hint.isEmpty then [] else [s!"hint: {hint}"]
  | none => []

/-- The text of a notice. -/
def text (notice : Notice) : String :=
  "\n".intercalate (notice.headline :: (notice.context ++ notice.hintLine))

end Notice

end MiniC.Source
