import MiniC.Markup.Escape

/-!
# Elements

A document is a tree of elements.  A leaf stands on one line with its text
between its tags; any other element has its tags on lines of their own, with
its children between them, indented one step further.
-/

namespace MiniC.Markup

/-- An element of a document. -/
inductive Element where
  | leaf (tag text : String)
  | branch (tag : String) (children : List Element)
  deriving Repr

/-- The tag that opens an element. -/
def openTag (tag : String) : String :=
  "<" ++ tag ++ ">"

/-- The tag that closes an element. -/
def closeTag (tag : String) : String :=
  "</" ++ tag ++ ">"

/-- Blanks at the start of a line at some depth. -/
def indentation (depth : Nat) : String :=
  String.ofList (List.replicate (4 * depth) ' ')

namespace Element

mutual

/-- The lines of an element at some depth. -/
def lines (depth : Nat) : Element → List String
  | .leaf tag text => [indentation depth ++ openTag tag ++ escaped text ++ closeTag tag]
  | .branch tag children =>
      (indentation depth ++ openTag tag) ::
        (linesOfList (depth + 1) children ++ [indentation depth ++ closeTag tag])

/-- The lines of elements that follow each other at some depth. -/
def linesOfList (depth : Nat) : List Element → List String
  | [] => []
  | element :: rest => lines depth element ++ linesOfList depth rest

end

/-- The text of a document. -/
def render (element : Element) : String :=
  String.join ((element.lines 0).map (· ++ "\n"))

end Element

end MiniC.Markup
