/-!
# Blank characters

The blanks that surround a line or a numeral, and the trimming of a text on
both sides.  Numerals use a slightly smaller set: the four information
separators are blanks of a line but not of a numeral.
-/

namespace MiniC.Text

/-- Whether a character is white space in the wide sense: the control blanks,
the information separators and the space characters of every script. -/
def isBlank (c : Char) : Bool :=
  let n := c.toNat
  (0x09 ≤ n && n ≤ 0x0d) || (0x1c ≤ n && n ≤ 0x20) || n == 0x85 || n == 0xa0 ||
    n == 0x1680 || (0x2000 ≤ n && n ≤ 0x200a) || n == 0x2028 || n == 0x2029 ||
    n == 0x202f || n == 0x205f || n == 0x3000

/-- Whether a character may surround a numeral. -/
def isNumeralBlank (c : Char) : Bool :=
  isBlank c && !(0x1c ≤ c.toNat && c.toNat ≤ 0x1f)

/-- Remove the longest suffix whose characters satisfy a test. -/
def trimEnd (test : Char → Bool) (text : List Char) : List Char :=
  (text.reverse.dropWhile test).reverse

/-- Remove the longest prefix and the longest suffix whose characters satisfy a test. -/
def trim (test : Char → Bool) (text : List Char) : List Char :=
  trimEnd test (text.dropWhile test)

end MiniC.Text
