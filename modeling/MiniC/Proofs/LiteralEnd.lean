import MiniC.Proofs.LexedTokens
import MiniC.Token.Literal

/-!
# Where a literal ends

Two loops decide where a quoted literal ends.  The scanner that divides a text into
tokens passes over a backslash together with the character after it.  The reader of
literals takes between one and four characters at a time, and makes one character of
them.  A literal is cut into the pieces that the reader takes: the pieces of a scanned
literal make up all of it, and a closing quote is met exactly where the scanner met one.
-/

namespace MiniC

namespace Literal

/-- A piece of a literal that stands for one character. -/
inductive Piece where
  /-- A character that stands for itself. -/
  | plain (c : Char)
  /-- A backslash with the character after it. -/
  | escaped (c : Char)
  /-- A backslash and an `x` with the hexadecimal digits after them. -/
  | coded (digits : List Char)
  deriving DecidableEq, Repr

namespace Piece

/-- The characters that a piece is written with. -/
def spelling : Piece → List Char
  | .plain c => [c]
  | .escaped c => ['\\', c]
  | .coded digits => '\\' :: 'x' :: digits

/-- The character that a piece stands for.  Without digits it is the letter itself. -/
def value : Piece → Char
  | .plain c => c
  | .escaped c => escapeValue c
  | .coded [] => 'x'
  | .coded digits =>
      Char.ofNat (digits.foldl (fun code digit => code * 16 + (Text.hexValue? digit).getD 0) 0)

end Piece

section Steps

variable {quote c : Char} {text : List Char}

theorem decodeBody_quote : decodeBody quote (quote :: text) = ⟨[], some text⟩ := by
  rw [decodeBody.eq_def]
  simp

theorem decodeBody_plain (notQuote : c ≠ quote) (notEscape : c ≠ '\\') :
    decodeBody quote (c :: text) = (decodeBody quote text).cons c := by
  rw [decodeBody.eq_def]
  simp [notQuote, notEscape]

theorem decodeBody_escaped (notQuote : '\\' ≠ quote) (notCode : c ≠ 'x') :
    decodeBody quote ('\\' :: c :: text) = (decodeBody quote text).cons (escapeValue c) := by
  rw [decodeBody.eq_def]
  simp [notQuote, notCode]

theorem decodeBody_uncoded (notQuote : '\\' ≠ quote)
    (ended : ∀ c ∈ text.head?, Text.isHexDigit c = false) :
    decodeBody quote ('\\' :: 'x' :: text) = (decodeBody quote text).cons 'x' := by
  rw [decodeBody.eq_def]
  cases text with
  | nil => simp [notQuote, decodeBody, Decoded.cons]
  | cons c text =>
      have none : Text.hexValue? c = none := by simpa [Text.isHexDigit] using ended
      simp [notQuote, none]

theorem decodeBody_coded (notQuote : '\\' ≠ quote) {high : Nat}
    (digit : Text.hexValue? c = some high)
    (ended : ∀ c ∈ text.head?, Text.isHexDigit c = false) :
    decodeBody quote ('\\' :: 'x' :: c :: text) =
      (decodeBody quote text).cons (Char.ofNat high) := by
  rw [decodeBody.eq_def]
  cases text with
  | nil => simp [notQuote, digit, decodeBody, Decoded.cons]
  | cons other text =>
      have none : Text.hexValue? other = none := by simpa [Text.isHexDigit] using ended
      simp [notQuote, digit, none]

theorem decodeBody_codedTwice (notQuote : '\\' ≠ quote) {other : Char} {high low : Nat}
    (digit : Text.hexValue? c = some high) (second : Text.hexValue? other = some low) :
    decodeBody quote ('\\' :: 'x' :: c :: other :: text) =
      (decodeBody quote text).cons (Char.ofNat (high * 16 + low)) := by
  rw [decodeBody.eq_def]
  simp [notQuote, digit, second]

end Steps

/-- A text is read in pieces, up to its end or up to a quote that others follow.  A quote is
never the first character of a piece, a backslash is a piece of its own only at the very end,
and a piece has as many digits as it can, up to two. -/
inductive Reads (quote : Char) : List Char → List Piece → Option (List Char) → Prop where
  | finished : Reads quote [] [] none
  | closed (beyond : List Char) : Reads quote (quote :: beyond) [] (some beyond)
  | trailing : '\\' ≠ quote → Reads quote ['\\'] [.plain '\\'] none
  | plain {c : Char} {text : List Char} {pieces : List Piece} {beyond : Option (List Char)} :
      c ≠ quote → c ≠ '\\' → Reads quote text pieces beyond →
      Reads quote (c :: text) (.plain c :: pieces) beyond
  | escaped {c : Char} {text : List Char} {pieces : List Piece} {beyond : Option (List Char)} :
      '\\' ≠ quote → c ≠ 'x' → Reads quote text pieces beyond →
      Reads quote ('\\' :: c :: text) (.escaped c :: pieces) beyond
  | coded {digits text : List Char} {pieces : List Piece} {beyond : Option (List Char)} :
      '\\' ≠ quote → digits.length ≤ 2 → (∀ digit ∈ digits, Text.isHexDigit digit = true) →
      (digits.length < 2 → ∀ c ∈ text.head?, Text.isHexDigit c = false) →
      Reads quote text pieces beyond →
      Reads quote ('\\' :: 'x' :: (digits ++ text)) (.coded digits :: pieces) beyond

namespace Reads

variable {quote : Char} {text : List Char} {pieces : List Piece} {beyond : Option (List Char)}

theorem spelled (reads : Reads quote text pieces beyond) :
    text = pieces.flatMap Piece.spelling ++ (beyond.map (quote :: ·)).getD [] := by
  induction reads with
  | finished => rfl
  | closed beyond => rfl
  | trailing _ => rfl
  | plain _ _ _ induction => simpa [Piece.spelling] using induction
  | escaped _ _ _ induction => simpa [Piece.spelling] using induction
  | coded _ _ _ _ _ induction => simpa [Piece.spelling] using induction

theorem ne_nil {rest : List Char} (reads : Reads quote text pieces (some rest)) : text ≠ [] := by
  rintro rfl
  cases reads

/-- What follows the quote that ends a text is not looked at. -/
theorem append {rest : List Char} (reads : Reads quote text pieces (some rest))
    (more : List Char) : Reads quote (text ++ more) pieces (some (rest ++ more)) := by
  generalize found : some rest = beyond at reads
  induction reads with
  | finished => cases found
  | closed beyond =>
      cases found
      exact .closed _
  | trailing _ => cases found
  | plain notQuote notEscape _ induction => exact .plain notQuote notEscape (induction found)
  | escaped notQuote notCode _ induction => exact .escaped notQuote notCode (induction found)
  | @coded digits text pieces beyond notQuote few hex greedy reads induction =>
      subst found
      have sameHead : (text ++ more).head? = text.head? := by
        rw [List.head?_append, Option.or_of_isSome (List.isSome_head?.mpr reads.ne_nil)]
      have again : Reads quote ('\\' :: 'x' :: (digits ++ (text ++ more))) (.coded digits :: pieces)
          (some (rest ++ more)) :=
        .coded notQuote few hex (sameHead ▸ greedy) (induction rfl)
      simpa using again

theorem decoded (reads : Reads quote text pieces beyond) :
    decodeBody quote text = ⟨pieces.map Piece.value, beyond⟩ := by
  induction reads with
  | finished => rfl
  | closed beyond => exact decodeBody_quote
  | trailing notQuote => simp [decodeBody, notQuote, Piece.value]
  | plain notQuote notEscape _ induction =>
      rw [decodeBody_plain notQuote notEscape, induction]
      rfl
  | escaped notQuote notCode _ induction =>
      rw [decodeBody_escaped notQuote notCode, induction]
      rfl
  | @coded digits text pieces beyond notQuote few hex greedy reads induction =>
      match digits, few, hex, greedy with
      | [], _, _, ended =>
          rw [List.nil_append, decodeBody_uncoded notQuote (ended (by simp)), induction]
          rfl
      | [digit], _, hex, ended =>
          obtain ⟨high, digitValue⟩ := Option.isSome_iff_exists.mp (hex digit (by simp))
          rw [List.singleton_append, decodeBody_coded notQuote digitValue (ended (by simp)),
            induction]
          simp [Decoded.cons, Piece.value, digitValue]
      | [digit, second], _, hex, _ =>
          obtain ⟨high, digitValue⟩ := Option.isSome_iff_exists.mp (hex digit (by simp))
          obtain ⟨low, secondValue⟩ := Option.isSome_iff_exists.mp (hex second (by simp))
          rw [List.cons_append, List.singleton_append,
            decodeBody_codedTwice notQuote digitValue secondValue, induction]
          simp [Decoded.cons, Piece.value, digitValue, secondValue]

/-- A digit that is read is a piece of its own, so that reading may as well start behind it. -/
theorem behind_digit {digit : Char} (notDigit : Text.isHexDigit quote = false)
    (isDigit : Text.isHexDigit digit = true) (reads : Reads quote (digit :: text) pieces beyond) :
    ∃ later, Reads quote text later beyond := by
  cases reads with
  | closed => simp [notDigit] at isDigit
  | trailing => exact absurd isDigit (by decide)
  | plain _ _ reads => exact ⟨_, reads⟩
  | escaped => exact absurd isDigit (by decide)
  | coded => exact absurd isDigit (by decide)

theorem starts_with_digit (text : List Char) :
    (∀ c ∈ text.head?, Text.isHexDigit c = false) ∨
      ∃ digit rest, text = digit :: rest ∧ Text.isHexDigit digit = true := by
  cases text with
  | nil => exact .inl (by simp)
  | cons digit rest =>
      cases isDigit : Text.isHexDigit digit with
      | false => exact .inl (by simp [isDigit])
      | true => exact .inr ⟨digit, rest, rfl, isDigit⟩

/-- Digits that are read one by one are read together behind a backslash and an `x`. -/
theorem behind_code (notDigit : Text.isHexDigit quote = false) (notQuote : '\\' ≠ quote)
    (reads : Reads quote text pieces beyond) :
    ∃ others, Reads quote ('\\' :: 'x' :: text) others beyond := by
  rcases starts_with_digit text with ended | ⟨digit, rest, rfl, isDigit⟩
  · exact ⟨_, @coded quote [] _ _ _ notQuote (by simp) (by simp) (fun _ => ended) reads⟩
  · obtain ⟨later, readsLater⟩ := reads.behind_digit notDigit isDigit
    rcases starts_with_digit rest with ended | ⟨second, rest, rfl, isSecond⟩
    · exact ⟨_, @coded quote [digit] _ _ _ notQuote (by simp) (by simpa using isDigit)
        (fun _ => ended) readsLater⟩
    · obtain ⟨last, readsLast⟩ := readsLater.behind_digit notDigit isSecond
      exact ⟨_, @coded quote [digit, second] _ _ _ notQuote (by simp) (by simp [isDigit, isSecond])
        (by simp) readsLast⟩

end Reads

end Literal

namespace Lexer

open Literal (Piece Reads decodeBody)

/-- The quotes that literals are written in. -/
def isQuote (c : Char) : Bool :=
  c = '"' || c = '\''

section Quotes

variable {quote : Char} (isQuoted : isQuote quote = true)

include isQuoted

theorem isQuote_cases : quote = '"' ∨ quote = '\'' := by
  simpa [isQuote] using isQuoted

theorem backslash_ne_quote : '\\' ≠ quote := by
  rcases isQuote_cases isQuoted with rfl | rfl <;> decide

theorem not_isHexDigit_quote : Text.isHexDigit quote = false := by
  rcases isQuote_cases isQuoted with rfl | rfl <;> decide

/-- A scanned literal is read in pieces up to the quote that the scanner stopped at, or up to
its end if the scanner met no quote. -/
theorem quotedBody_reads (text : List Char) :
    ∃ pieces, Reads quote (Lexeme.quotedBody quote text).1 pieces
      (if (Lexeme.quotedBody quote text).2 then some [] else none) := by
  have notQuote := backslash_ne_quote isQuoted
  fun_induction Lexeme.quotedBody quote text with
  | case1 => exact ⟨[], .finished⟩
  | case2 => exact ⟨[], .finished⟩
  | case3 c inLine =>
      by_cases closes : c = quote
      · simp only [closes, decide_true, if_true]
        exact ⟨[], .closed []⟩
      · simp only [closes, decide_false]
        by_cases escapes : c = '\\'
        · subst escapes
          exact ⟨_, .trailing notQuote⟩
        · exact ⟨_, .plain closes escapes .finished⟩
  | case4 => exact ⟨[], .finished⟩
  | case5 c next rest inLine protects body closed scanned induction =>
      -- the reader takes up to two digits more than the scanner passes over here
      obtain ⟨rfl, -⟩ := protects
      rw [scanned] at induction
      obtain ⟨pieces, reads⟩ := induction
      by_cases codes : next = 'x'
      · subst codes
        exact reads.behind_code (not_isHexDigit_quote isQuoted) notQuote
      · exact ⟨_, .escaped notQuote codes reads⟩
  | case6 => exact ⟨[], .closed []⟩
  | case7 c next rest inLine unprotected unclosed body closed scanned induction =>
      rw [scanned] at induction
      obtain ⟨pieces, reads⟩ := induction
      by_cases escapes : c = '\\'
      · -- only a line feed is not protected, and no literal goes on behind it
        obtain rfl : next = '\n' := by simpa [escapes] using unprotected
        obtain ⟨rfl, rfl⟩ : [] = body ∧ false = closed := by
          cases rest <;> simpa [Lexeme.quotedBody] using scanned
        subst escapes
        exact ⟨_, .trailing notQuote⟩
      · exact ⟨_, .plain unclosed escapes reads⟩

end Quotes

/-- A token that holds a lexeme found at the front of some text. -/
def HoldsLexeme (token : Token) : Prop :=
  ∃ text lexeme, Lexeme.scan? text = some lexeme ∧ token.kind = lexeme.kind ∧
    token.lexeme = String.ofList lexeme.text ∧ token.wellFormed = lexeme.wellFormed

theorem next_holdsLexeme {filename : String} {cursor after : Cursor} {token : Token}
    (step : next filename cursor = .token token after) : HoldsLexeme token := by
  unfold next at step
  simp only at step
  split at step
  · cases step
  · cases step
  · split at step
    · cases step
    next lexeme found =>
      obtain ⟨rfl, -⟩ := Step.token.inj step
      exact ⟨_, lexeme, found, rfl, rfl, rfl⟩

theorem mem_scanFrom {filename : String} {cursor : Cursor} {token : Token}
    (member : token ∈ (scanFrom filename cursor).tokens) :
    token.kind = .endOfInput ∨ HoldsLexeme token := by
  fun_induction scanFrom filename cursor with
  | case1 cursor found after step induction =>
      rcases List.mem_cons.mp member with rfl | later
      · exact .inr (next_holdsLexeme step)
      · exact induction later
  | case2 cursor place step =>
      obtain rfl := List.mem_singleton.mp member
      exact .inl rfl
  | case3 cursor error place step => cases member

theorem isQuotedKind_word (text : List Char) : isQuotedKind (Lexeme.word text).kind = false := by
  have words : ∀ kind ∈ Kind.identifier :: Kind.keywords, isQuotedKind kind = false := by decide
  exact words _ (kind_word text)

theorem isQuotedKind_number (text : List Char) :
    isQuotedKind (Lexeme.number text).kind = false := by
  unfold Lexeme.number
  split
  · rfl
  · simp only
    split <;> rfl

theorem isQuotedKind_punctuator? {text : List Char} {lexeme : Lexeme}
    (found : Lexeme.punctuator? text = some lexeme) : isQuotedKind lexeme.kind = false := by
  have punctuators : ∀ kind ∈ Kind.punctuators, isQuotedKind kind = false := by decide
  exact punctuators _ (kind_punctuator? found)

theorem scan?_quoted {text : List Char} {lexeme : Lexeme}
    (found : Lexeme.scan? text = some lexeme) (quoted : isQuotedKind lexeme.kind = true) :
    ∃ quote rest, isQuote quote = true ∧ lexeme = Lexeme.quoted quote rest := by
  cases text with
  | nil => cases found
  | cons c rest =>
      simp only [Lexeme.scan?] at found
      split at found
      · obtain rfl := Option.some.inj found
        simp [isQuotedKind_word] at quoted
      · split at found
        · obtain rfl := Option.some.inj found
          simp [isQuotedKind_number] at quoted
        · split at found
          next isQuoted =>
            exact ⟨c, rest, by simpa [isQuote] using isQuoted, (Option.some.inj found).symm⟩
          next => simp [isQuotedKind_punctuator? found] at quoted

/-- The scanner and the reader of literals agree on where a literal ends.  Every quoted token of
a source, accepted or not, is read in pieces that make up all of it.  A well-formed one is read
up to its last character, which is its closing quote, and what follows that is never looked
at.  An ill-formed one is read to its end, and no closing quote is met. -/
theorem literal_read_whole (source filename : String) (line : Int) (first : Nat) :
    ∀ token ∈ Token.numberFrom first (scan source filename line).tokens,
      isQuotedKind token.kind = true →
      ∃ (quote : Char) (body : List Char) (pieces : List Piece),
        isQuote quote = true ∧ token.lexeme = String.ofList (quote :: body) ∧
        (token.wellFormed = true →
          body = pieces.flatMap Piece.spelling ++ [quote] ∧
            decodeBody quote body = ⟨pieces.map Piece.value, some []⟩ ∧
            ∀ more, Literal.text (token.lexeme ++ more) = Literal.text token.lexeme) ∧
        (token.wellFormed = false →
          body = pieces.flatMap Piece.spelling ∧
            decodeBody quote body = ⟨pieces.map Piece.value, none⟩) := by
  intro token member quoted
  obtain ⟨origin, known, number, -, rfl⟩ := mem_numberFrom member
  obtain ⟨text, lexeme, found, kindEq, textEq, formEq⟩ : HoldsLexeme origin := by
    rcases mem_scanFrom known with ends | holds
    · simp [ends, isQuotedKind] at quoted
    · exact holds
  obtain ⟨quote, rest, isQuoted, rfl⟩ := scan?_quoted found (kindEq ▸ quoted)
  obtain ⟨pieces, reads⟩ := quotedBody_reads isQuoted rest
  refine ⟨quote, (Lexeme.quotedBody quote rest).1, pieces, isQuoted, textEq, ?_, ?_⟩
  · intro wellFormed
    have closed : (Lexeme.quotedBody quote rest).2 = true := formEq.symm.trans wellFormed
    rw [closed, if_pos rfl] at reads
    refine ⟨reads.spelled, reads.decoded, fun more => ?_⟩
    simp [Literal.text, Literal.decode, textEq, Lexeme.quoted, reads.decoded,
      (reads.append more.toList).decoded]
  · intro illFormed
    have unclosed : (Lexeme.quotedBody quote rest).2 = false := formEq.symm.trans illFormed
    rw [unclosed, if_neg Bool.false_ne_true] at reads
    exact ⟨by simpa using reads.spelled, reads.decoded⟩

/-- A string with an escaped quote behind a coded character, and a character constant that
ends in a backslash at the end of the text. -/
def mixedLiterals : String := "\"\\x4\\\"\" '\\x\\"

/-- The string of the mixed literals. -/
def codedString : Token :=
  { kind := .stringLiteral, lexeme := "\"\\x4\\\"\"", line := 1, number := 0 }

/-- The character constant of the mixed literals. -/
def brokenConstant : Token :=
  { kind := .charConstant, lexeme := "'\\x\\", line := 1, wellFormed := false, number := 1 }

/-- The string is read up to its last quote, and the constant to its end. -/
theorem literal_read_whole_mixed :
    (codedString ∈ Token.numberFrom 0 (scan mixedLiterals "<input>" 1).tokens ∧
      ∃ (quote : Char) (body : List Char) (pieces : List Piece),
        codedString.lexeme = String.ofList (quote :: body) ∧
          body = pieces.flatMap Piece.spelling ++ [quote] ∧
          decodeBody quote body = ⟨pieces.map Piece.value, some []⟩) ∧
      brokenConstant ∈ Token.numberFrom 0 (scan mixedLiterals "<input>" 1).tokens ∧
      ∃ (quote : Char) (body : List Char) (pieces : List Piece),
        brokenConstant.lexeme = String.ofList (quote :: body) ∧
          body = pieces.flatMap Piece.spelling ∧
          decodeBody quote body = ⟨pieces.map Piece.value, none⟩ := by
  have string : codedString ∈ Token.numberFrom 0 (scan mixedLiterals "<input>" 1).tokens := by
    decide +kernel
  have constant : brokenConstant ∈ Token.numberFrom 0 (scan mixedLiterals "<input>" 1).tokens := by
    decide +kernel
  obtain ⟨quote, body, pieces, -, lexemeEq, closed, -⟩ :=
    literal_read_whole mixedLiterals "<input>" 1 0 codedString string rfl
  obtain ⟨otherQuote, otherBody, otherPieces, -, otherEq, -, unclosed⟩ :=
    literal_read_whole mixedLiterals "<input>" 1 0 brokenConstant constant rfl
  obtain ⟨bodyEq, decoded, -⟩ := closed rfl
  exact ⟨⟨string, quote, body, pieces, lexemeEq, bodyEq, decoded⟩, constant, otherQuote, otherBody,
    otherPieces, otherEq, unclosed rfl⟩

end Lexer

end MiniC
