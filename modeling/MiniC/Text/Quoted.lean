import MiniC.Text.Digit
import MiniC.Text.Printable

/-!
# Quoted text

How a message shows a text taken from its input: between quotes, on one line,
with every character that does not print written as an escape.  Single quotes
are used unless the text holds a single quote and no double quote.
-/

namespace MiniC.Text.Quoted

/-- The quote that surrounds a text. -/
def mark (text : List Char) : Char :=
  if text.contains '\'' && !text.contains '"' then '"' else '\''

/-- The escape of a character that does not print, by the size of its code point. -/
def escapeCode (c : Char) : List Char :=
  if c.toNat < 0x100 then '\\' :: 'x' :: hexDigits 2 c.toNat
  else if c.toNat < 0x10000 then '\\' :: 'u' :: hexDigits 4 c.toNat
  else '\\' :: 'U' :: hexDigits 8 c.toNat

/-- One character of a text between quotes. -/
def encodeChar (quote c : Char) : List Char :=
  if c = '\\' ∨ c = quote then ['\\', c]
  else if c = '\n' then ['\\', 'n']
  else if c = '\r' then ['\\', 'r']
  else if c = '\t' then ['\\', 't']
  else if isPrintable c then [c]
  else escapeCode c

/-- A text between quotes. -/
def encode (text : List Char) : List Char :=
  let quote := mark text
  quote :: (text.flatMap (encodeChar quote) ++ [quote])

end Quoted

/-- A string as messages show it, between quotes. -/
def quoted (text : String) : String :=
  String.ofList (Quoted.encode text.toList)

end MiniC.Text
