/-!
# Escaping text for markup

The three characters that would be read as markup are written as references;
every other character, quotes and line breaks included, stands for itself.
-/

namespace MiniC.Markup

/-- One character of a text inside an element. -/
def escapeChar (c : Char) : List Char :=
  if c = '&' then ['&', 'a', 'm', 'p', ';']
  else if c = '<' then ['&', 'l', 't', ';']
  else if c = '>' then ['&', 'g', 't', ';']
  else [c]

/-- A text as it is written inside an element. -/
def escape (text : List Char) : List Char :=
  text.flatMap escapeChar

/-- A string as it is written inside an element. -/
def escaped (text : String) : String :=
  String.ofList (escape text.toList)

@[simp]
theorem escape_nil : escape [] = [] := rfl

@[simp]
theorem escape_cons (c : Char) (text : List Char) :
    escape (c :: text) = escapeChar c ++ escape text := rfl

theorem escape_append (first second : List Char) :
    escape (first ++ second) = escape first ++ escape second := by
  simp [escape]

end MiniC.Markup
