import Mathlib.Data.List.DropRight
import MiniC.Proofs.GapGrammar
import MiniC.Proofs.LexedTokens

/-!
# Every character and every line of a source

A source that is accepted consists of gaps and lexemes in turn, and nothing of it
is lost.  The line of a token is the number of line feeds before its lexeme, counted
from the number of the first line.  A source that is refused is divided in the same
way up to the place of the error, which is a character that starts nothing or a block
comment that is never closed.
-/

namespace MiniC.Lexer

/-! ## Places -/

/-- The part of a text after its last line feed. -/
def lastLine (text : List Char) : List Char :=
  text.rtakeWhile (· ≠ '\n')

/-- The number of the line that a text ends in, if it starts in a given one. -/
def lineAfter (line : Int) (text : List Char) : Int :=
  line + text.count '\n'

/-- A cursor that stands after a text whose first line has a given number. -/
structure Cursor.After (line : Int) (before : List Char) (cursor : Cursor) : Prop where
  offset : cursor.offset = before.length
  line : cursor.line = lineAfter line before
  column : cursor.column = (lastLine before).length + 1
  lineText : cursor.lineText = lastLine before ++ cursor.rest

namespace Cursor.After

variable {line : Int} {before : List Char} {cursor : Cursor}

theorem atStart (text : List Char) (line : Int) : (Cursor.atStart text line).After line [] where
  offset := rfl
  line := by simp [Cursor.atStart, lineAfter]
  column := rfl
  lineText := rfl

theorem step (place : cursor.After line before) {c : Char} {rest : List Char}
    (filled : cursor.rest = c :: rest) : cursor.step.After line (before ++ [c]) := by
  obtain ⟨offset, lineEq, column, lineText⟩ := place
  unfold Cursor.step
  rw [filled]
  by_cases feed : c = '\n'
  · subst feed
    refine ⟨?_, ?_, ?_, ?_⟩
    · simp [offset]
    · simp [lineEq, lineAfter, Int.add_assoc]
    · simp [lastLine]
    · simp [lastLine]
  · have kept : lastLine (before ++ [c]) = lastLine before ++ [c] :=
      List.rtakeWhile_concat_pos _ _ _ (by simpa using feed)
    simp only [if_neg feed]
    refine ⟨?_, ?_, ?_, ?_⟩
    · simp [offset]
    · simp [lineEq, lineAfter, feed]
    · simp [column, kept]
    · simp [lineText, kept, filled]

theorem skip (place : cursor.After line before) {taken rest : List Char}
    (filled : cursor.rest = taken ++ rest) :
    (cursor.skip taken.length).After line (before ++ taken) := by
  induction taken generalizing cursor before with
  | nil => simpa [Cursor.skip] using place
  | cons c taken induction =>
      have next : cursor.step.rest = taken ++ rest := by simp [filled]
      simpa [Cursor.skip] using induction (place.step filled) next

/-- The rest of the line that a cursor stands in belongs to its line. -/
theorem currentLine (place : cursor.After line before) :
    cursor.currentLine =
      String.ofList (lastLine before ++ cursor.rest.takeWhile (· ≠ '\n')) := by
  have inLine : ∀ c ∈ lastLine before, decide (c ≠ '\n') = true := by
    intro c member
    exact List.mem_rtakeWhile_imp (p := fun c => decide (c ≠ '\n')) member
  rw [Cursor.currentLine, place.lineText, List.takeWhile_append_of_pos inLine]

end Cursor.After

/-! ## Lexemes -/

namespace Lexeme

theorem quotedBody_prefix (quote : Char) (body : List Char) :
    (quotedBody quote body).1 <+: body := by
  fun_induction quotedBody quote body with
  | case1 => exact List.prefix_rfl
  | case2 => exact List.nil_prefix
  | case3 => exact List.prefix_rfl
  | case4 => exact List.nil_prefix
  | case5 c next rest notFeed escaped inner closed parts induction =>
      rw [parts] at induction
      simpa [List.cons_prefix_cons] using induction
  | case6 => simp [List.cons_prefix_cons]
  | case7 c next rest notFeed plain notQuote inner closed parts induction =>
      rw [parts] at induction
      simpa [List.cons_prefix_cons] using induction

theorem number_prefix (text : List Char) : (number text).text <+: text := by
  unfold number
  split
  next digits found =>
    unfold hexNumber? at found
    split at found
    · split at found
      · obtain rfl := Option.some.inj found
        simpa [List.cons_prefix_cons] using List.takeWhile_prefix _
      · cases found
    · cases found
  next =>
    simp only
    split
    next rest pointed =>
      have whole := List.takeWhile_append_dropWhile (p := Text.isDigitChar) (l := text)
      rw [pointed] at whole
      nth_rewrite 2 [← whole]
      rw [List.prefix_append_right_inj, List.cons_prefix_cons]
      exact ⟨rfl, List.takeWhile_prefix _⟩
    next => exact List.takeWhile_prefix _

theorem scan?_prefix {text : List Char} {lexeme : Lexeme} (found : scan? text = some lexeme) :
    lexeme.text <+: text := by
  cases text with
  | nil => cases found
  | cons c rest =>
      simp only [scan?] at found
      split at found
      · exact Option.some.inj found ▸ List.takeWhile_prefix _
      · split at found
        · exact Option.some.inj found ▸ number_prefix (c :: rest)
        · split at found
          · obtain rfl := Option.some.inj found
            simpa [quoted, List.cons_prefix_cons] using quotedBody_prefix c rest
          · simp only [punctuator?] at found
            split at found
            · obtain rfl := Option.some.inj found
              exact List.take_prefix 2 _
            · obtain ⟨kind, -, rfl⟩ := Option.map_eq_some_iff.mp found
              exact List.take_prefix 1 _

end Lexeme

/-- Whether a character can start a token: a name, a number, a quoted literal or a punctuator.
A comment starts with a character that is a punctuator as well. -/
def StartsToken (c : Char) : Prop :=
  isNameStart c = true ∨ Text.isDigitChar c = true ∨ c = '"' ∨ c = '\'' ∨
    ∃ kind ∈ Kind.punctuators, ∃ spelling ∈ kind.spelling?, spelling.toList.head? = some c

theorem punctuator?_head {kind : Kind} (known : kind ∈ Kind.punctuators) {spelling : String}
    (fixed : spelling ∈ kind.spelling?) {c : Char} (first : spelling.toList.head? = some c) :
    (Kind.punctuator? (String.ofList [c])).isSome = true := by
  have each : (Kind.punctuators.all fun kind => kind.spelling?.all fun spelling =>
      spelling.toList.head?.all fun c => (Kind.punctuator? (String.ofList [c])).isSome) = true := by
    decide +kernel
  have ofKind := List.all_eq_true.mp each kind known
  rw [Option.mem_def.mp fixed, Option.all_some, first] at ofKind
  exact ofKind

theorem not_startsToken {c : Char} {rest : List Char} (none : Lexeme.scan? (c :: rest) = none) :
    ¬ StartsToken c := by
  simp only [Lexeme.scan?] at none
  split at none
  · cases none
  next notName =>
    split at none
    · cases none
    next notDigit =>
      split at none
      · cases none
      next notQuote =>
        simp only [Lexeme.punctuator?] at none
        split at none
        · cases none
        · have single : Kind.punctuator? (String.ofList [c]) = Option.none := by simpa using none
          rintro (name | digit | quote | quote | ⟨kind, known, spelling, fixed, first⟩)
          · exact notName name
          · exact notDigit digit
          · exact notQuote (.inl quote)
          · exact notQuote (.inr quote)
          · have isSome := punctuator?_head known fixed first
            rw [single] at isSome
            cases isSome

/-! ## Divisions -/

/-- The text behind `before` starts with gaps and the lexemes of tokens in turn, the last gap
ends where all up to `place` is read, and `rest` is left. -/
inductive Divided (line : Int) (place rest : List Char) :
    (before text : List Char) → List Token → Prop
  | last {before gap : List Char} (isGap : Gap rest gap) (whole : before ++ gap = place) :
      Divided line place rest before (gap ++ rest) []
  | token {before gap text : List Char} {token : Token} {others : List Token}
      (isGap : Gap (token.lexeme.toList ++ text) gap) (filled : token.lexeme ≠ "")
      (inside : token.kind ≠ .endOfInput)
      (lineEq : token.line = lineAfter line (before ++ gap))
      (more : Divided line place rest (before ++ gap ++ token.lexeme.toList) text others) :
      Divided line place rest before (gap ++ (token.lexeme.toList ++ text)) (token :: others)

/-- Why a source is refused at a place, and what is said about it. -/
inductive Refused (filename : String) (line : Int) (place : List Char) :
    (rest : List Char) → Error → Prop
  | character {c : Char} {rest : List Char} (solid : isGapBlank c = false)
      (startsNothing : ¬ StartsToken c) :
      Refused filename line place (c :: rest)
        (.invalidCharacter c
          { filename, line := lineAfter line place, column := (lastLine place).length + 1 }
          (String.ofList (lastLine place ++ (c :: rest).takeWhile (· ≠ '\n'))))
  | comment {rest : List Char} (unclosed : Unclosed rest) :
      Refused filename line place ('/' :: '*' :: rest)
        (.unterminatedComment
          { filename, line := lineAfter line place, column := (lastLine place).length + 1 })

/-! ## Steps -/

section Steps

variable {line : Int} {before : List Char} {cursor : Cursor}

theorem Cursor.After.skipGap (place : cursor.After line before) :
    ∃ gap rest, cursor.rest = gap ++ rest ∧ Gap rest gap ∧ Settled rest ∧
      (Lexer.skipGap cursor).rest = rest ∧ (Lexer.skipGap cursor).After line (before ++ gap) := by
  obtain ⟨isGap, settled⟩ := gap_splitGap cursor.rest
  have whole := (splitGap_append cursor.rest).symm
  exact ⟨_, _, whole, isGap, settled, rest_skipGap cursor, place.skip whole⟩

/-- What a step finds at a place behind a gap: the lexeme of its token, the end, or an error. -/
def Finds (filename : String) (line : Int) (place rest : List Char) : Step → Prop
  | .token token after =>
      rest = token.lexeme.toList ++ after.rest ∧ token.lexeme ≠ "" ∧ token.kind ≠ .endOfInput ∧
        token.line = lineAfter line place ∧ after.After line (place ++ token.lexeme.toList)
  | .finish stop => rest = [] ∧ stop.line = lineAfter line place
  | .failure error _ => Refused filename line place rest error

/-- A step passes over a gap and takes what it finds there. -/
theorem next_finds (filename : String) (place : cursor.After line before) :
    ∃ gap rest, cursor.rest = gap ++ rest ∧ Gap rest gap ∧
      Finds filename line (before ++ gap) rest (next filename cursor) := by
  obtain ⟨gap, rest, whole, isGap, settled, restEq, between⟩ := place.skipGap
  refine ⟨gap, rest, whole, isGap, ?_⟩
  have location : (Lexer.skipGap cursor).location filename =
      { filename, line := lineAfter line (before ++ gap),
        column := (lastLine (before ++ gap)).length + 1 } := by
    simp [Cursor.location, between.line, between.column]
  unfold next
  simp only [restEq]
  split
  next => exact ⟨rfl, between.line⟩
  next inner =>
    have unclosed : closeComment? inner = none := by simpa [comment?] using settled.2
    rw [location]
    exact .comment (closeComment?_eq_none_iff.mp unclosed)
  next c inner notComment =>
    cases found : Lexeme.scan? (c :: inner) with
    | none =>
        have shown := between.currentLine
        rw [restEq] at shown
        simp only [location, shown]
        exact .character (settled.1 c rfl) (not_startsToken found)
    | some lexeme =>
        obtain ⟨after, parts⟩ := Lexeme.scan?_prefix found
        have restText : (Lexer.skipGap cursor).rest = lexeme.text ++ after :=
          restEq.trans parts.symm
        refine ⟨?_, ?_, (proper_scan? found).inside, between.line, ?_⟩
        · rw [Cursor.rest_skip, restText, List.drop_left, String.toList_ofList]
          exact parts.symm
        · simpa using Lexeme.scan?_text_ne_nil found
        · simpa using between.skip restText

/-- What a scan says about the text from a place on. -/
theorem scanFrom_divided (filename : String) (place : cursor.After line before) :
    match (scanFrom filename cursor).failure with
    | none => ∃ front, (scanFrom filename cursor).tokens =
          front ++ [.endOfInput (lineAfter line (before ++ cursor.rest)) 0] ∧
        Divided line (before ++ cursor.rest) [] before cursor.rest front
    | some error => ∃ stop rest,
        Divided line stop rest before cursor.rest (scanFrom filename cursor).tokens ∧
          Refused filename line stop rest error := by
  fun_induction scanFrom filename cursor generalizing before with
  | case1 cursor token after step induction =>
      obtain ⟨gap, rest, whole, isGap, stepped⟩ := next_finds filename place
      rw [step] at stepped
      obtain ⟨rfl, filled, inside, lineEq, beyond⟩ := stepped
      have more := induction beyond
      simp only [Scan.cons]
      rw [whole]
      split
      next accepted =>
        rw [accepted] at more
        obtain ⟨front, tokens, divided⟩ := more
        simp only [List.append_assoc] at tokens divided ⊢
        exact ⟨token :: front, congrArg (token :: ·) tokens,
          .token isGap filled inside lineEq (by simpa using divided)⟩
      next error refused =>
        rw [refused] at more
        obtain ⟨stop, rest, divided, refusal⟩ := more
        exact ⟨stop, rest, .token isGap filled inside lineEq divided, refusal⟩
  | case2 cursor stop step =>
      obtain ⟨gap, rest, whole, isGap, stepped⟩ := next_finds filename place
      rw [step] at stepped
      obtain ⟨rfl, lineEq⟩ := stepped
      rw [List.append_nil] at whole
      refine ⟨[], ?_, ?_⟩
      · simp [whole, lineEq]
      · simpa [whole] using Divided.last isGap rfl
  | case3 cursor error stop step =>
      obtain ⟨gap, rest, whole, isGap, stepped⟩ := next_finds filename place
      rw [step] at stepped
      rw [whole]
      exact ⟨before ++ gap, rest, .last isGap rfl, stepped⟩

end Steps

/-! ## Sources -/

/-- Numbers do not matter to a division. -/
theorem Divided.numberFrom {line : Int} {place rest before text : List Char} {tokens : List Token}
    (divided : Divided line place rest before text tokens) (first : Nat) :
    Divided line place rest before text (Token.numberFrom first tokens) := by
  induction divided generalizing first with
  | last isGap whole => exact .last isGap whole
  | @token before gap text token others isGap filled inside lineEq more induction =>
      exact @Divided.token line place rest before gap text { token with number := first } _ isGap
        filled inside lineEq (induction (first + 1))

/-- How an answer accounts for a source.  Tokens are those of a division of the whole source, and
an end mark with the line of its end.  An error stands at the place up to which the source is
divided. -/
def Accounts (filename : String) (line : Int) (source : List Char) :
    Except Error (List Token) → Prop
  | .ok tokens => ∃ front number, tokens = front ++ [.endOfInput (lineAfter line source) number] ∧
      Divided line source [] [] source front
  | .error error => ∃ tokens place rest, Divided line place rest [] source tokens ∧
      Refused filename line place rest error

/-- Every character and every line of a source is accounted for, whether the source is accepted
or refused. -/
theorem tokenize_accounts (source filename : String) (line : Int) (first : Nat) :
    Accounts filename line source.toList (tokenize source filename line first).1 := by
  have start := Cursor.After.atStart source.toList line
  have divided := scanFrom_divided filename start
  cases outcome : (scanFrom filename (.atStart source.toList line)).failure with
  | none =>
      rw [outcome] at divided
      obtain ⟨front, tokens, parts⟩ := divided
      simp only [tokenize, scan, outcome, tokens, numberFrom_append]
      exact ⟨Token.numberFrom first front, _, rfl, parts.numberFrom first⟩
  | some error =>
      rw [outcome] at divided
      obtain ⟨place, rest, parts, refused⟩ := divided
      simp only [tokenize, scan, outcome]
      exact ⟨_, place, rest, parts, refused⟩

end MiniC.Lexer
