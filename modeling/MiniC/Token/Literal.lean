import MiniC.Text.Digit

/-!
# Literals

The text that a string or character literal stands for.  A literal starts with
its quote and ends at the next quote that no backslash protects; a literal
that was not terminated is read to its end.
-/

namespace MiniC.Literal

/-- The text of a literal, and what follows its closing quote if it has one. -/
structure Decoded where
  text : List Char
  beyond : Option (List Char)
  deriving DecidableEq, Repr

/-- Put a character before a text already read. -/
def Decoded.cons (c : Char) (decoded : Decoded) : Decoded :=
  { decoded with text := c :: decoded.text }

/-- The character that a backslash and another character stand for.  A
character without a meaning of its own stands for itself. -/
def escapeValue (c : Char) : Char :=
  match c with
  | 'n' => '\n'
  | 'r' => '\r'
  | 't' => '\t'
  | 'b' => '\x08'
  | 'f' => '\x0c'
  | 'v' => '\x0b'
  | '0' => '\x00'
  | 'a' => '\x07'
  | other => other

/-- Read the characters of a literal up to its closing quote.  An `x` escape
takes up to two hexadecimal digits, and is a plain letter without any; a
backslash at the very end stands for itself. -/
def decodeBody (quote : Char) : List Char → Decoded
  | [] => ⟨[], none⟩
  | c :: rest =>
      if c = quote then ⟨[], some rest⟩
      else if c ≠ '\\' then (decodeBody quote rest).cons c
      else
        match rest with
        | [] => ⟨['\\'], none⟩
        | escaped :: after =>
            if escaped ≠ 'x' then (decodeBody quote after).cons (escapeValue escaped)
            else
              match after with
              | [] => ⟨['x'], none⟩
              | first :: afterFirst =>
                  match Text.hexValue? first with
                  | none => (decodeBody quote (first :: afterFirst)).cons 'x'
                  | some high =>
                      match afterFirst with
                      | [] => ⟨[Char.ofNat high], none⟩
                      | second :: afterSecond =>
                          match Text.hexValue? second with
                          | none =>
                              (decodeBody quote (second :: afterSecond)).cons (Char.ofNat high)
                          | some low =>
                              (decodeBody quote afterSecond).cons (Char.ofNat (high * 16 + low))

/-- The text that a lexeme stands for; its first character is its quote. -/
def decode : List Char → List Char
  | [] => []
  | quote :: body => (decodeBody quote body).text

/-- The text that a string or character token stands for. -/
def text (lexeme : String) : String :=
  String.ofList (decode lexeme.toList)

end MiniC.Literal
