import MiniC.Frontend
import MiniC.Proofs.DigitReading
import MiniC.Proofs.FailureWording
import MiniC.Proofs.LiteralEnd
import MiniC.Proofs.RecordedSource
import MiniC.Proofs.Respacing

/-!
# Which constants of a source have a value

A number of a source is scanned with one notion of a digit and read with another.
The scanner takes every character that reads as a digit; a numeral is made of digits
with a place value.  So a scanned constant has no value exactly if one of its digits
has none, or if it is an integer of more digits than a numeral may have, and only
such a constant is reported as invalid.
-/

namespace MiniC

open Text (isDigitChar isHexDigit isValueless)

namespace Constant

theorem ofInteger_eq_invalid_iff {lexeme : List Char} :
    ofInteger lexeme = .invalid ↔ integer? lexeme = none := by
  unfold ofInteger
  cases integer? lexeme with
  | none => simp
  | some n =>
      simp only [ofInt, reduceCtorEq, iff_false]
      split <;> simp

theorem ofDouble_eq_invalid_iff {lexeme : List Char} :
    ofDouble lexeme = .invalid ↔ Numeral.decimal? lexeme = none := by
  unfold ofDouble
  cases Numeral.decimal? lexeme with
  | none => simp
  | some value => simp

theorem ofCharacter_ne_invalid {lexeme : List Char} : ofCharacter lexeme ≠ .invalid := by
  unfold ofCharacter
  split <;> simp

theorem integer?_of_digits {digits : List Char} (each : ∀ c ∈ digits, isDigitChar c = true) :
    integer? digits = Numeral.integer? digits := by
  have lower : isDigitChar 'x' = false := by decide
  have upper : isDigitChar 'X' = false := by decide
  unfold integer?
  split
  · simp [lower] at each
  · simp [upper] at each
  · rfl

end Constant

namespace Lexer

open Numeral (maxDecimalDigits)

/-- The three forms of a number. -/
inductive NumberForm : Kind → List Char → Prop
  | hex {mark : Char} {digits : List Char} (marked : mark = 'x' ∨ mark = 'X')
      (some : digits ≠ []) (each : ∀ c ∈ digits, isHexDigit c = true) :
      NumberForm .integerConstant ('0' :: mark :: digits)
  | pointed {whole part : List Char} (some : whole ≠ [])
      (eachWhole : ∀ c ∈ whole, isDigitChar c = true)
      (eachPart : ∀ c ∈ part, isDigitChar c = true) :
      NumberForm .doubleConstant (whole ++ '.' :: part)
  | whole {digits : List Char} (some : digits ≠ [])
      (each : ∀ c ∈ digits, isDigitChar c = true) : NumberForm .integerConstant digits

theorem mem_takeWhile {test : Char → Bool} {text : List Char} :
    ∀ c ∈ text.takeWhile test, test c = true :=
  List.all_eq_true.1 List.all_takeWhile

/-- What starts with a digit is scanned in one of the three forms. -/
theorem number_form {c : Char} {rest : List Char} (digit : isDigitChar c = true) :
    NumberForm (Lexeme.number (c :: rest)).kind (Lexeme.number (c :: rest)).text := by
  have some : (c :: rest).takeWhile isDigitChar ≠ [] := by
    simp [List.takeWhile_cons_of_pos digit]
  cases hex : Lexeme.hexNumber? (c :: rest) with
  | some digits =>
      rw [Lexeme.number_hex hex]
      unfold Lexeme.hexNumber? at hex
      split at hex
      next mark first others _ =>
        split at hex
        next valid =>
          cases hex
          exact .hex valid.1 (List.cons_ne_nil _ _)
            (List.forall_mem_cons.2 ⟨valid.2, mem_takeWhile⟩)
        next => cases hex
      next => cases hex
  | none =>
      by_cases point : ((c :: rest).dropWhile isDigitChar).head? = .some '.'
      · obtain ⟨others, pointed⟩ := List.head?_eq_some_iff.1 point
        rw [Lexeme.number_pointed hex pointed]
        exact .pointed some mem_takeWhile mem_takeWhile
      · rw [Lexeme.number_whole hex point]
        exact .whole some mem_takeWhile

/-- A lexeme that stands for a number is a character constant or has one of the three forms. -/
theorem scan?_numeric {text : List Char} {lexeme : Lexeme}
    (found : Lexeme.scan? text = some lexeme) (numeric : Parser.isNumericKind lexeme.kind = true) :
    lexeme.kind = .charConstant ∨ NumberForm lexeme.kind lexeme.text := by
  have words : ∀ kind ∈ Kind.identifier :: Kind.keywords, Parser.isNumericKind kind = false := by
    decide
  have punctuators : ∀ kind ∈ Kind.punctuators, Parser.isNumericKind kind = false := by decide
  cases text with
  | nil => cases found
  | cons c rest =>
      simp only [Lexeme.scan?] at found
      split at found
      · obtain rfl := Option.some.inj found
        simp [words _ (kind_word _)] at numeric
      · split at found
        next digit =>
          obtain rfl := Option.some.inj found
          exact .inr (number_form digit)
        next =>
          split at found
          · obtain rfl := Option.some.inj found
            left
            simp only [Lexeme.quoted] at numeric ⊢
            split at numeric
            next => cases numeric
            next character => rw [if_neg character]
          · simp [punctuators _ (kind_punctuator? found)] at numeric

/-- A constant with a digit that has no place value, or an integer of too many digits. -/
def Unreadable (token : Token) : Prop :=
  token.kind ≠ .charConstant ∧
    ((∃ c ∈ token.lexeme.toList, isValueless c = true) ∨
      ((∀ c ∈ token.lexeme.toList, isDigitChar c = true) ∧
        maxDecimalDigits < token.lexeme.length))

/-- Base sixteen is read with the digits that it is scanned with. -/
theorem not_unreadable_hex {token : Token} {mark : Char} {digits : List Char}
    (marked : mark = 'x' ∨ mark = 'X') (each : ∀ c ∈ digits, isHexDigit c = true)
    (text : token.lexeme.toList = '0' :: mark :: digits) : ¬ Unreadable token := by
  have markless : isValueless mark = false ∧ isDigitChar mark = false := by
    rcases marked with rfl | rfl <;> decide
  rintro ⟨-, valueless | ⟨all, -⟩⟩
  · obtain ⟨c, member, noValue⟩ := valueless
    rw [text, List.mem_cons, List.mem_cons] at member
    have value : isValueless c = false := by
      rcases member with rfl | rfl | digit
      · decide
      · exact markless.1
      · exact Text.not_isValueless_of_basic (Text.toNat_lt_of_isHexDigit (each c digit))
    rw [value] at noValue
    cases noValue
  · have digit := all mark (by simp [text])
    rw [markless.2] at digit
    cases digit

/-- A scanned constant has no value exactly if it is unreadable. -/
theorem constant_eq_invalid_iff {token : Token} (holds : HoldsLexeme token)
    (numeric : Parser.isNumericKind token.kind = true) :
    token.constant = .invalid ↔ Unreadable token := by
  obtain ⟨text, lexeme, found, kindEq, textEq, -⟩ := holds
  have listed : token.lexeme.toList = lexeme.text := by rw [textEq, String.toList_ofList]
  have counted : token.lexeme.length = lexeme.text.length := by
    rw [← String.length_toList, listed]
  rcases scan?_numeric found (kindEq ▸ numeric) with character | form
  · rw [← kindEq] at character
    simp only [Token.constant, Unreadable, character, Constant.ofCharacter_ne_invalid, ne_eq,
      not_true_eq_false, false_and]
  · generalize textEq : lexeme.text = shape at form listed counted
    rw [← kindEq] at form
    generalize kindEq : token.kind = kind at form
    cases form with
    | hex marked some each =>
        refine iff_of_false ?_ (not_unreadable_hex marked each listed)
        have read := Numeral.hexInteger?_isSome some each
        rw [Option.isSome_iff_ne_none] at read
        rcases marked with rfl | rfl
        all_goals
          simpa [Token.constant, kindEq, listed, Constant.ofInteger_eq_invalid_iff,
            Constant.integer?] using read
    | @pointed whole part some eachWhole eachPart =>
        have broken : ¬ ∀ c ∈ whole ++ '.' :: part, isDigitChar c = true := fun all =>
          absurd (all '.' (by simp)) (by decide)
        simp only [Token.constant, Unreadable, kindEq, listed, Constant.ofDouble_eq_invalid_iff,
          Numeral.decimal?_eq_none_iff some eachWhole eachPart, broken, false_and, or_false,
          ne_eq, reduceCtorEq, not_false_eq_true, true_and]
    | whole some each =>
        simp only [Token.constant, Unreadable, kindEq, listed, counted,
          Constant.ofInteger_eq_invalid_iff, Constant.integer?_of_digits each,
          Numeral.integer?_eq_none_iff each some, ne_eq, reduceCtorEq, not_false_eq_true, true_and]
        exact or_congr_right ⟨fun long => ⟨each, long⟩, And.right⟩

/-- Each constant of a source, accepted or not, has no value exactly if it is unreadable. -/
theorem mem_scan_constant {source filename : String} {line : Int} {first : Nat} {token : Token}
    (member : token ∈ Token.numberFrom first (scan source filename line).tokens)
    (numeric : Parser.isNumericKind token.kind = true) :
    token.constant = .invalid ↔ Unreadable token := by
  obtain ⟨origin, known, number, -, rfl⟩ := mem_numberFrom member
  rcases mem_scanFrom known with ends | holds
  · simp [ends, Parser.isNumericKind] at numeric
  · exact @constant_eq_invalid_iff { origin with number } holds numeric

end Lexer

namespace Frontend

open MiniC.Lexer (Unreadable)
open MiniC.Parser (isNumericKind invalidConstantMessage)

theorem errors_warnIllFormed {filename : String} {tokens : List Token} {findings : Findings} :
    (warnIllFormed filename tokens findings).errors = findings.errors := by
  have each (flagged : List Token) (findings : Findings) :
      (flagged.foldl (fun findings token => findings.addWarning (illFormedMessage token)
        (some { filename, line := token.line })) findings).errors = findings.errors := by
    induction flagged generalizing findings with
    | nil => rfl
    | cons token others induction => exact induction _
  exact each _ findings

theorem parseSource_ok {source : String} {filename : Option String} {options : ParserOptions}
    {first : Nat} {outcome : ParseOutcome}
    (parsed : (parseSource source filename options first).result = .ok outcome) :
    ∃ (named : String) (input : Parser.Input) (unit : CompilationUnit) (after : Parser.State),
      input.stream.tokens =
          (Token.numberFrom first (Lexer.scan source named 1).tokens).toArray ∧
        outcome.listing.tokens = input.stream.tokens ∧
        Parser.parse input {} = .ok unit after ∧ outcome.findings.errors = after.reported := by
  unfold parseSource at parsed
  dsimp only at parsed
  generalize (filename.filter fun name => !name.isEmpty).getD options.filename = named at parsed
  split at parsed
  next => cases parsed
  next tokens free lexed =>
    obtain ⟨-, scanned⟩ := Lexer.tokenize_scanned (congrArg Prod.fst lexed)
    simp only [Run.logged, parseTokens] at parsed
    split at parsed
    next stream streamed =>
      have held : stream.tokens = tokens.toArray := by
        unfold TokenStream.ofList? at streamed
        split at streamed
        · cases streamed
          rfl
        · cases streamed
      unfold parseStream at parsed
      split at parsed
      next unit after run =>
        cases parsed
        exact ⟨named, _, unit, after, held.trans (congrArg List.toArray scanned), rfl, run,
          errors_warnIllFormed⟩
      next => cases parsed
    next => cases parsed

/-- Each constant of a source, accepted or not, has a value unless it holds a digit without a
place value or is an integer of too many digits.  A parse of a source reports a constant as
invalid only if the constant that the error refers to is one of these. -/
theorem constant_unreadable (source : String) :
    (∀ (filename : String) (line : Int) (first : Nat),
      ∀ token ∈ Token.numberFrom first (Lexer.scan source filename line).tokens,
        isNumericKind token.kind = true → (token.constant = .invalid ↔ Unreadable token)) ∧
    ∀ (filename : Option String) (options : ParserOptions) (free : Nat) (outcome : ParseOutcome),
      (parseSource source filename options free).result = .ok outcome →
      ∀ error ∈ outcome.findings.errors, ∀ lexeme,
        error.message = invalidConstantMessage lexeme →
        ∃ (index : Nat) (token : Token), error.position = index ∧
          outcome.listing.tokens[index]? = some token ∧ isNumericKind token.kind = true ∧
          Unreadable token ∧ error.message = invalidConstantMessage token.lexeme := by
  refine ⟨fun filename line first token member => Lexer.mem_scan_constant member, ?_⟩
  intro filename options free outcome parsed error reported lexeme same
  obtain ⟨named, input, unit, after, scanned, listed, run, errors⟩ := parseSource_ok parsed
  rw [errors] at reported
  obtain ⟨index, token, position, found, numeric, invalid, message⟩ :=
    (Parser.reported_worded run error reported).of_message same
  have member : token ∈ Token.numberFrom free (Lexer.scan source named 1).tokens := by
    rw [TokenStream.get?, scanned, List.getElem?_toArray] at found
    exact List.mem_of_getElem? found
  refine ⟨index, token, position, ?_, numeric, ?_, message⟩
  · rw [listed]
    exact found
  · exact (Lexer.mem_scan_constant member numeric).1 invalid

/-- A declaration whose initial value is a raised digit. -/
def raisedSource : String := "int a = ²;"

/-- The tokens of a declaration with a raised digit. -/
def raisedTokens : List Token :=
  [{ kind := .intWord, lexeme := "int", line := 1, number := 0 },
   { kind := .identifier, lexeme := "a", line := 1, number := 1 },
   { kind := .assign, lexeme := "=", line := 1, number := 2 },
   { kind := .integerConstant, lexeme := "²", line := 1, number := 3 },
   { kind := .semicolon, lexeme := ";", line := 1, number := 4 },
   { kind := .endOfInput, lexeme := "", line := 1, number := 5 }]

/-- The error about a raised digit. -/
def raisedError : Diagnostic :=
  .failure .expectedExpression 3 none (some (invalidConstantMessage "²"))

/-- The raised digit has no value, and it is the constant that the parse reports. -/
theorem constant_unreadable_raised :
    ((raisedTokens[3] ∈ Token.numberFrom 0 (Lexer.scan raisedSource "<input>" 1).tokens ∧
        isNumericKind raisedTokens[3].kind = true) ∧
      (raisedTokens[3].constant = .invalid ↔ Unreadable raisedTokens[3])) ∧
    ∃ outcome, (parseSource raisedSource none {} 0).result = .ok outcome ∧
      raisedError ∈ outcome.findings.errors ∧
      raisedError.message = invalidConstantMessage "²" ∧
      ∃ (index : Nat) (token : Token), raisedError.position = index ∧
        outcome.listing.tokens[index]? = some token ∧ isNumericKind token.kind = true ∧
        Unreadable token ∧ raisedError.message = invalidConstantMessage token.lexeme := by
  have scanned : raisedTokens[3] ∈
      Token.numberFrom 0 (Lexer.scan raisedSource "<input>" 1).tokens := by
    decide +kernel
  have parsed : (parseSource raisedSource none {} 0).result.toOption.map
      (fun outcome => outcome.findings.errors) = some [raisedError] := by
    decide +kernel
  have message : raisedError.message = invalidConstantMessage "²" := by decide +kernel
  refine ⟨⟨⟨scanned, rfl⟩, (constant_unreadable raisedSource).1 _ _ _ _ scanned rfl⟩, ?_⟩
  cases result : (parseSource raisedSource none {} 0).result with
  | error failure =>
      rw [result] at parsed
      cases parsed
  | ok outcome =>
      rw [result] at parsed
      have errors : outcome.findings.errors = [raisedError] := Option.some.inj parsed
      have reported : raisedError ∈ outcome.findings.errors := by simp [errors]
      exact ⟨outcome, rfl, reported, message,
        (constant_unreadable raisedSource).2 _ _ _ _ result _ reported _ message⟩

/-- A raised digit is accepted as a constant that has no value, and then reported. -/
theorem raisedSource_invalid :
    Lexer.tokenize raisedSource "<input>" 1 0 = (.ok raisedTokens, 6) ∧
      (∃ token ∈ raisedTokens,
        isNumericKind token.kind = true ∧ token.constant = .invalid) ∧
      ((parseSource raisedSource none {} 0).result.toOption.map
        fun outcome => outcome.findings.errors.map Diagnostic.message) =
          some ["invalid numeric constant '²'"] := by
  refine ⟨tokenize_of_scan (by decide +kernel) (by decide +kernel) rfl, ?_, by decide +kernel⟩
  exact ⟨_, List.getElem_mem (by decide : 3 < raisedTokens.length), by decide +kernel⟩

end Frontend

end MiniC
