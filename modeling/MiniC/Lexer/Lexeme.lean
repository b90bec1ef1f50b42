import MiniC.Text.Digit
import MiniC.Token.Kind

/-!
# Lexemes

The token at the front of a text that starts with neither a blank nor a
comment: a word, a number, a quoted literal or a punctuator.  Each class takes
as many characters as it can.  A literal that meets a line feed or the end of
the text before its closing quote is kept as an ill-formed lexeme.
-/

namespace MiniC.Lexer

/-- The text of a token with its classification. -/
structure Lexeme where
  kind : Kind
  text : List Char
  wellFormed : Bool := true
  deriving DecidableEq, Repr

/-- Whether a character can start a name. -/
def isNameStart (c : Char) : Bool :=
  c.isAlpha || c = '_'

/-- Whether a character can continue a name. -/
def isNameChar (c : Char) : Bool :=
  c.isAlphanum || c = '_'

namespace Lexeme

/-- The keyword or identifier at the front of a text. -/
def word (text : List Char) : Lexeme :=
  let name := text.takeWhile isNameChar
  { kind := (Kind.keyword? (String.ofList name)).getD .identifier, text := name }

/-- The integer in base sixteen at the front of a text, which has a base mark
and a digit after it. -/
def hexNumber? : List Char → Option (List Char)
  | '0' :: mark :: digit :: rest =>
      if (mark = 'x' ∨ mark = 'X') ∧ Text.isHexDigit digit then
        some ('0' :: mark :: digit :: rest.takeWhile Text.isHexDigit)
      else
        none
  | _ => none

/-- The number at the front of a text.  Digits with a point are a floating
constant, with or without digits after the point. -/
def number (text : List Char) : Lexeme :=
  match hexNumber? text with
  | some digits => { kind := .integerConstant, text := digits }
  | none =>
      let whole := text.takeWhile Text.isDigitChar
      match text.dropWhile Text.isDigitChar with
      | '.' :: rest =>
          { kind := .doubleConstant, text := whole ++ '.' :: rest.takeWhile Text.isDigitChar }
      | _ => { kind := .integerConstant, text := whole }

/-- The characters of a literal after its opening quote, closing quote
included, and whether there is one.  A backslash protects the character after
it, unless that is a line feed. -/
def quotedBody (quote : Char) : List Char → List Char × Bool
  | [] => ([], false)
  | [c] => if c = '\n' then ([], false) else ([c], c = quote)
  | c :: next :: rest =>
      if c = '\n' then ([], false)
      else if c = '\\' ∧ next ≠ '\n' then
        let (body, closed) := quotedBody quote rest
        (c :: next :: body, closed)
      else if c = quote then ([c], true)
      else
        let (body, closed) := quotedBody quote (next :: rest)
        (c :: body, closed)

/-- The literal that a quote starts. -/
def quoted (quote : Char) (body : List Char) : Lexeme :=
  let (text, closed) := quotedBody quote body
  { kind := if quote = '"' then .stringLiteral else .charConstant
    text := quote :: text
    wellFormed := closed }

/-- The punctuator at the front of a text; two characters win over one. -/
def punctuator? (text : List Char) : Option Lexeme :=
  let pair := text.take 2
  match Kind.punctuator? (String.ofList pair) with
  | some kind => some { kind, text := pair }
  | none =>
      let single := text.take 1
      (Kind.punctuator? (String.ofList single)).map fun kind => { kind, text := single }

/-- The lexeme at the front of a text, if a token can start there. -/
def scan? : List Char → Option Lexeme
  | [] => none
  | c :: rest =>
      if isNameStart c then some (word (c :: rest))
      else if Text.isDigitChar c then some (number (c :: rest))
      else if c = '"' ∨ c = '\'' then some (quoted c rest)
      else punctuator? (c :: rest)

theorem word_text_ne_nil {c : Char} (rest : List Char) (start : isNameStart c = true) :
    (word (c :: rest)).text ≠ [] := by
  have inside : isNameChar c = true := by
    simp only [isNameStart, isNameChar, Char.isAlphanum, Bool.or_eq_true] at start ⊢
    rcases start with letter | underscore
    · exact .inl (.inl letter)
    · exact .inr underscore
  simp [word, inside]

theorem number_text_ne_nil {c : Char} (rest : List Char) (digit : Text.isDigitChar c = true) :
    (number (c :: rest)).text ≠ [] := by
  unfold number
  split
  next digits found =>
    intro empty
    simp only at empty
    subst empty
    unfold hexNumber? at found
    split at found
    · split at found <;> simp at found
    · simp at found
  next =>
    simp only
    split <;> simp [digit]

theorem punctuator?_text_ne_nil {c : Char} {rest : List Char} {lexeme : Lexeme}
    (found : punctuator? (c :: rest) = some lexeme) : lexeme.text ≠ [] := by
  unfold punctuator? at found
  simp only at found
  split at found
  · simp only [Option.some.injEq] at found
    simp [← found]
  · obtain ⟨kind, _, rfl⟩ := Option.map_eq_some_iff.mp found
    simp

/-- A lexeme holds at least one character. -/
theorem scan?_text_ne_nil {text : List Char} {lexeme : Lexeme}
    (found : scan? text = some lexeme) : lexeme.text ≠ [] := by
  cases text with
  | nil => simp [scan?] at found
  | cons c rest =>
      simp only [scan?] at found
      split at found
      next start =>
        simp only [Option.some.injEq] at found
        exact found ▸ word_text_ne_nil rest start
      next =>
        split at found
        next digit =>
          simp only [Option.some.injEq] at found
          exact found ▸ number_text_ne_nil rest digit
        next =>
          split at found
          · simp only [Option.some.injEq] at found
            simp [← found, quoted]
          · exact punctuator?_text_ne_nil found

end Lexeme

end MiniC.Lexer
