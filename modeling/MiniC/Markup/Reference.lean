import MiniC.Markup.Entities
import MiniC.Text.Digit

/-!
# Character references

A reference is an ampersand followed by a code point in base ten or sixteen,
or by a name; the semicolon that ends it may be missing.  Reading a text
replaces its references from left to right.  What looks like a reference but
names nothing stays as it is, except that the longest known name it begins
with is replaced.
-/

namespace MiniC.Markup

/-- A reference without its ampersand.  Names keep the semicolon that ends
them. -/
inductive Reference where
  | decimal (digits : List Char)
  | hexadecimal (digits : List Char)
  | named (name : List Char)
  deriving DecidableEq, Repr

/-- A code point in base ten with more digits than a numeral may have. -/
structure OversizedReference where
  digits : Nat
  deriving DecidableEq, Repr

namespace Reference

/-- Code points in base ten have at most this many digits, leading zeros included. -/
def maxDecimalDigits : Nat := 4300

/-- A name is no longer than this, its semicolon not counted. -/
def maxNameLength : Nat := 32

/-- Whether a character may stand in the name of a reference. -/
def isNameChar (c : Char) : Bool :=
  !(c = '\t' || c = '\n' || c = '\x0c' || c = ' ' || c = '<' || c = '&' || c = '#' || c = ';')

/-- The semicolon at the front of a text, if there is one. -/
def terminator : List Char → List Char
  | ';' :: _ => [';']
  | _ => []

/-- The reference made of a run of digits, with its length; `extra` counts the
characters before the digits. -/
def numeric (build : List Char → Reference) (isDigit : Char → Bool) (extra : Nat)
    (text : List Char) : Option (Reference × Nat) :=
  let digits := text.takeWhile isDigit
  if digits.isEmpty then none
  else
    let ending := terminator (text.dropWhile isDigit)
    some (build digits, extra + digits.length + ending.length)

/-- The name at the front of a text, with its length. -/
def name? (text : List Char) : Option (Reference × Nat) :=
  let name := (text.take maxNameLength).takeWhile isNameChar
  if name.isEmpty then none
  else
    let full := name ++ terminator (text.drop name.length)
    some (.named full, full.length)

/-- The reference that follows an ampersand, with its length. -/
def scan? : List Char → Option (Reference × Nat)
  | '#' :: 'x' :: rest => numeric .hexadecimal Text.isHexDigit 2 rest
  | '#' :: 'X' :: rest => numeric .hexadecimal Text.isHexDigit 2 rest
  | '#' :: rest => numeric .decimal Char.isDigit 1 rest
  | text => name? text

/-- The characters that the code points from 0x80 to 0x9f stand for. -/
def legacyCodePoints : List Nat :=
  [0x20ac, 0x81, 0x201a, 0x192, 0x201e, 0x2026, 0x2020, 0x2021, 0x2c6, 0x2030, 0x160,
   0x2039, 0x152, 0x8d, 0x17d, 0x8f, 0x90, 0x2018, 0x2019, 0x201c, 0x201d, 0x2022,
   0x2013, 0x2014, 0x2dc, 0x2122, 0x161, 0x203a, 0x153, 0x9d, 0x17e, 0x178]

/-- Whether a code point is a control or a noncharacter, which stands for no
text at all. -/
def isVoid (n : Nat) : Bool :=
  (0x1 ≤ n && n ≤ 0x8) || n == 0xb || (0xe ≤ n && n ≤ 0x1f) || n == 0x7f ||
    (0xfdd0 ≤ n && n ≤ 0xfdef) || n % 0x10000 == 0xfffe || n % 0x10000 == 0xffff

/-- The text that a code point stands for. -/
def codePointText (n : Nat) : List Char :=
  if n = 0 ∨ (0xd800 ≤ n ∧ n ≤ 0xdfff) ∨ 0x10ffff < n then ['\ufffd']
  else if 0x80 ≤ n ∧ n ≤ 0x9f then [Char.ofNat (legacyCodePoints.getD (n - 0x80) n)]
  else if isVoid n then []
  else [Char.ofNat n]

/-- The value of digits in a base. -/
def digitsValue (base : Nat) (digits : List Char) : Nat :=
  digits.foldl (fun value c => value * base + (Text.hexValue? c).getD 0) 0

/-- Replace the longest prefix of a name that is itself a name.  Prefixes have
at least two characters, and `size` is the length of the first one to try. -/
def namePrefixText (name : List Char) : (size : Nat) → List Char
  | 0 => '&' :: name
  | 1 => '&' :: name
  | size + 2 =>
      match entity? (String.ofList (name.take (size + 2))) with
      | some text => text.toList ++ name.drop (size + 2)
      | none => namePrefixText name (size + 1)

/-- The text that a name stands for. -/
def nameText (name : List Char) : List Char :=
  match entity? (String.ofList name) with
  | some text => text.toList
  | none => namePrefixText name (name.length - 1)

/-- The text that a reference stands for. -/
def text : Reference → Except OversizedReference (List Char)
  | .decimal digits =>
      if maxDecimalDigits < digits.length then .error ⟨digits.length⟩
      else .ok (codePointText (digitsValue 10 digits))
  | .hexadecimal digits => .ok (codePointText (digitsValue 16 digits))
  | .named name => .ok (nameText name)

end Reference

/-- The wording of a code point that is too long. -/
def OversizedReference.message (oversized : OversizedReference) : String :=
  s!"Exceeds the limit ({Reference.maxDecimalDigits} digits) for integer string conversion: " ++
    s!"value has {oversized.digits} digits; " ++
    "use sys.set_int_max_str_digits() to increase the limit"

/-- Replace the references of a text, after leaving out its first `skipped`
characters, which belong to a reference already replaced. -/
def unescapeFrom : (skipped : Nat) → List Char → Except OversizedReference (List Char)
  | _, [] => .ok []
  | skipped + 1, _ :: rest => unescapeFrom skipped rest
  | 0, '&' :: rest =>
      match Reference.scan? rest with
      | none => do return '&' :: (← unescapeFrom 0 rest)
      | some (reference, length) => do
          let text ← reference.text
          return text ++ (← unescapeFrom length rest)
  | 0, c :: rest => do return c :: (← unescapeFrom 0 rest)

/-- Replace the references of a text. -/
def unescape (text : List Char) : Except OversizedReference (List Char) :=
  unescapeFrom 0 text

end MiniC.Markup
