import MiniC.Frontend
import MiniC.Proofs.LexedTokens

/-!
# Parsing a source by way of a record file

The tokens of an accepted source are written as records, read again and parsed.
The parse is the one of the source itself, unless a quoted literal of the source
holds a line break other than a line feed: then the records are refused.
-/

namespace MiniC.Frontend

open Lexer (isQuotedKind)

/-- Going through records gives the run that the tokens themselves give if no quoted literal holds a
line break, and no run at all otherwise. -/
theorem parse_recorded {source filename : String} {first free : Nat} {tokens : List Token}
    (accepted : Lexer.tokenize source filename 1 first = (.ok tokens, free))
    (short : Numeral.Fits ↑(first + source.length + 1)) (categories : Bool)
    (options : ParserOptions) :
    ((∀ token ∈ tokens, isQuotedKind token.kind = true → Record.Unbroken token.lexeme) →
      (Record.load (Record.dump categories tokens) free).map
          (fun loaded => parseTokens loaded.1 options loaded.2) =
        .ok (parseTokens tokens options free)) ∧
    ((∃ token ∈ tokens, isQuotedKind token.kind = true ∧ ¬ Record.Unbroken token.lexeme) →
      Record.Refused (Record.load (Record.dump categories tokens) free)) := by
  constructor
  · intro quoted
    have unbroken : ∀ token ∈ tokens, Record.Unbroken token.lexeme := by
      intro token member
      cases kind : isQuotedKind token.kind with
      | false => exact Lexer.tokenize_unbroken accepted token member kind
      | true => exact quoted token member kind
    have restorable : ∀ token ∈ tokens, Record.Restorable categories token := by
      intro token member
      obtain ⟨number, line⟩ := Lexer.tokenize_fits accepted short token member
      exact ⟨number, line, fun _ => Lexer.tokenize_spelling accepted token member⟩
    rw [Record.load_dump_of_restorable (Lexer.tokenize_endsOnce accepted) unbroken restorable]
    rfl
  · rintro ⟨token, member, _, broken⟩
    exact Record.load_dump_refused categories ⟨token, member, broken⟩ free

theorem tokenize_of_scan {source filename : String} {tokens : List Token} {first free : Nat}
    (accepted : (Lexer.scan source filename 1).failure = none)
    (numbered : Token.numberFrom first (Lexer.scan source filename 1).tokens = tokens)
    (counted : first + tokens.length = free) :
    Lexer.tokenize source filename 1 first = (.ok tokens, free) := by
  have count : (Lexer.scan source filename 1).tokens.length = tokens.length := by
    rw [← numbered, Token.length_numberFrom]
  simp only [Lexer.tokenize, accepted, numbered, count, counted]

/-- A declaration with a string of two words. -/
def plainSource : String := "char page = \"two words\";"

/-- The tokens of a declaration whose initial value is a string, written as `text`. -/
def stringTokens (text : String) : List Token :=
  [{ kind := .charWord, lexeme := "char", line := 1, number := 0 },
   { kind := .identifier, lexeme := "page", line := 1, number := 1 },
   { kind := .assign, lexeme := "=", line := 1, number := 2 },
   { kind := .stringLiteral, lexeme := text, line := 1, number := 3 },
   { kind := .semicolon, lexeme := ";", line := 1, number := 4 },
   { kind := .endOfInput, lexeme := "", line := 1, number := 5 }]

theorem tokenize_plainSource :
    Lexer.tokenize plainSource "<input>" 1 0 = (.ok (stringTokens "\"two words\""), 6) :=
  tokenize_of_scan (by decide +kernel) (by decide +kernel) rfl

/-- A string of two words goes through records unchanged. -/
theorem parse_recorded_plain :
    Lexer.tokenize plainSource "<input>" 1 0 = (.ok (stringTokens "\"two words\""), 6) ∧
      (Record.load (Record.dump true (stringTokens "\"two words\"")) 6).map
          (fun loaded => parseTokens loaded.1 {} loaded.2) =
        .ok (parseTokens (stringTokens "\"two words\"") {} 6) := by
  refine ⟨tokenize_plainSource, (parse_recorded tokenize_plainSource ?_ true {}).1 ?_⟩
  · decide +kernel
  · decide +kernel

/-- The same declaration with a form feed in its string. -/
def pagedSource : String := "char page = \"\x0c\";"

/-- A form feed in a string is parsed without errors, and not read back from records. -/
theorem pagedSource_refused :
    Lexer.tokenize pagedSource "<input>" 1 0 = (.ok (stringTokens "\"\x0c\""), 6) ∧
      ((parseTokens (stringTokens "\"\x0c\"") {} 6).result.toOption.map
        ParseOutcome.complete = some true) ∧
      ∀ categories,
        Record.Refused (Record.load (Record.dump categories (stringTokens "\"\x0c\"")) 6) := by
  refine ⟨tokenize_of_scan (by decide +kernel) (by decide +kernel) rfl, by decide +kernel, ?_⟩
  intro categories
  exact Record.load_dump_refused categories (by decide +kernel) 6

end MiniC.Frontend
