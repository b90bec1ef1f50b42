/-!
# Lines of a text

A text breaks into lines at ten characters; a carriage return followed by a
line feed is a single break.  A break at the very end does not open another
line, so the empty text has no line at all.
-/

namespace MiniC.Text

/-- Whether a line of a text ends at this character. -/
def isLineBreak (c : Char) : Bool :=
  let n := c.toNat
  (0x0a ≤ n && n ≤ 0x0d) || (0x1c ≤ n && n ≤ 0x1e) || n == 0x85 || n == 0x2028 || n == 0x2029

/-- The lines of a text whose first line has already begun with `opened`,
held in reverse. -/
def linesFrom (opened : List Char) : List Char → List (List Char)
  | [] => if opened.isEmpty then [] else [opened.reverse]
  | '\r' :: '\n' :: rest => opened.reverse :: linesFrom [] rest
  | c :: rest =>
      if isLineBreak c then opened.reverse :: linesFrom [] rest
      else linesFrom (c :: opened) rest

/-- The lines of a text, without the characters that end them. -/
def lines (text : List Char) : List (List Char) :=
  linesFrom [] text

/-- The lines of a string, without the characters that end them. -/
def lineStrings (text : String) : List String :=
  (lines text.toList).map String.ofList

/-- Write every carriage return, alone or before a line feed, as one line feed. -/
def unifyNewlines : List Char → List Char
  | [] => []
  | '\r' :: '\n' :: rest => '\n' :: unifyNewlines rest
  | c :: rest => (if c = '\r' then '\n' else c) :: unifyNewlines rest

/-- Write a carriage return before a line feed as part of that line feed.  Any other
carriage return stays. -/
def joinReturns : List Char → List Char
  | [] => []
  | '\r' :: '\n' :: rest => '\n' :: joinReturns rest
  | c :: rest => c :: joinReturns rest

end MiniC.Text
