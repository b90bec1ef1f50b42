import MiniC.Proofs.DividedSource

/-!
# Sources with other gaps

A lexeme that is read once is read again, whole and of the same kind, in front of a
line feed and at the end of a text, whatever followed it at first.  So the lexemes of
an accepted source may be written out again with other gaps between them, as long as
a line feed comes first in each: the tokens are the same but for their lines.
-/

namespace MiniC.Lexer

/-! ## Lexemes in front of a line feed -/

section Classes

variable {test : Char → Bool} {rest : List Char}

/-- A class of characters without the line feed ends where the line does. -/
theorem takeWhile_endsLine (outside : test '\n' = false) (ends : EndsLine rest) :
    rest.takeWhile test = [] ∧ rest.dropWhile test = rest := by
  cases rest with
  | nil => simp
  | cons c others =>
      obtain rfl : c = '\n' := ends c rfl
      simp [outside]

theorem takeWhile_again (outside : test '\n' = false) (ends : EndsLine rest) (text : List Char) :
    (text.takeWhile test ++ rest).takeWhile test = text.takeWhile test ∧
      (text.takeWhile test ++ rest).dropWhile test = rest := by
  have inside : ∀ c ∈ text.takeWhile test, test c = true :=
    List.all_eq_true.mp List.all_takeWhile
  obtain ⟨nothing, all⟩ := takeWhile_endsLine outside ends
  rw [List.takeWhile_append_of_pos inside, List.dropWhile_append_of_pos inside, nothing, all,
    List.append_nil]
  exact ⟨rfl, rfl⟩

end Classes

namespace Lexeme

variable {rest : List Char}

theorem word_again (ends : EndsLine rest) (text : List Char) :
    word ((word text).text ++ rest) = word text := by
  have outside : isNameChar '\n' = false := by decide
  simp only [word, (takeWhile_again outside ends text).1]

theorem hexNumber?_again (ends : EndsLine rest) {text digits : List Char}
    (found : hexNumber? text = some digits) : hexNumber? (digits ++ rest) = some digits := by
  have outside : Text.isHexDigit '\n' = false := by decide
  unfold hexNumber? at found
  split at found
  next mark digit others =>
    split at found
    next valid =>
      obtain rfl := Option.some.inj found
      simp only [List.cons_append, hexNumber?, if_pos valid,
        (takeWhile_again outside ends others).1]
    next => cases found
  next => cases found

/-- What is no hexadecimal number becomes none by being cut off at the end of a line. -/
theorem hexNumber?_cut (ends : EndsLine rest) {front after : List Char}
    (none : hexNumber? (front ++ after) = Option.none) :
    hexNumber? (front ++ rest) = Option.none := by
  have feed : ∀ c others, rest = c :: others → c = '\n' := fun c others same =>
    ends c (by simp [same])
  unfold hexNumber?
  split
  next mark digit others text =>
    refine if_neg fun valid => ?_
    match front, text with
    | [], text =>
        have := feed _ _ text
        cases this
    | [_], text =>
        obtain ⟨-, text⟩ := List.cons.inj text
        have := feed _ _ text
        subst this
        simp at valid
    | [_, _], text =>
        obtain ⟨-, text⟩ := List.cons.inj text
        obtain ⟨-, text⟩ := List.cons.inj text
        have := feed _ _ text
        subst this
        simp [Text.isHexDigit, Text.hexValue?] at valid
    | a :: b :: c :: more, text =>
        simp only [List.cons_append, List.cons.injEq] at text
        obtain ⟨rfl, rfl, rfl, -⟩ := text
        simp [hexNumber?, valid] at none
  next => rfl

theorem number_hex {text digits : List Char} (hex : hexNumber? text = some digits) :
    number text = { kind := .integerConstant, text := digits } := by
  simp only [number, hex]

theorem number_pointed {text others : List Char} (noHex : hexNumber? text = none)
    (pointed : text.dropWhile Text.isDigitChar = '.' :: others) :
    number text =
      { kind := .doubleConstant
        text := text.takeWhile Text.isDigitChar ++ '.' :: others.takeWhile Text.isDigitChar } := by
  simp only [number, noHex, pointed]

theorem number_whole {text : List Char} (noHex : hexNumber? text = none)
    (pointless : (text.dropWhile Text.isDigitChar).head? ≠ some '.') :
    number text =
      { kind := .integerConstant, text := text.takeWhile Text.isDigitChar } := by
  simp only [number, noHex]
  split
  next others pointed => simp [pointed] at pointless
  next => rfl

theorem number_again (ends : EndsLine rest) (text : List Char) :
    number ((number text).text ++ rest) = number text := by
  have outside : Text.isDigitChar '\n' = false := by decide
  obtain ⟨after, parts⟩ := number_prefix text
  cases hex : hexNumber? text with
  | some digits =>
      rw [number_hex hex]
      exact number_hex (hexNumber?_again ends hex)
  | none =>
      have noHex : hexNumber? ((number text).text ++ rest) = none :=
        hexNumber?_cut ends (parts.symm ▸ hex)
      by_cases pointed : (text.dropWhile Text.isDigitChar).head? = some '.'
      · obtain ⟨others, left⟩ := List.head?_eq_some_iff.mp pointed
        have inside : ∀ c ∈ text.takeWhile Text.isDigitChar, Text.isDigitChar c = true :=
          List.all_eq_true.mp List.all_takeWhile
        have point : Text.isDigitChar '.' = false := by decide
        rw [number_pointed hex left] at noHex ⊢
        dsimp only at noHex ⊢
        rw [List.append_assoc, List.cons_append] at noHex ⊢
        have again : ((text.takeWhile Text.isDigitChar) ++
            '.' :: (others.takeWhile Text.isDigitChar ++ rest)).dropWhile Text.isDigitChar =
            '.' :: (others.takeWhile Text.isDigitChar ++ rest) := by
          simp [List.dropWhile_append_of_pos inside, point]
        rw [number_pointed noHex again, (takeWhile_again outside ends others).1,
          List.takeWhile_append_of_pos inside]
        simp [point]
      · obtain ⟨same, left⟩ := takeWhile_again outside ends text
        rw [number_whole hex pointed] at noHex ⊢
        dsimp only at noHex ⊢
        have pointless : rest.head? ≠ some '.' := by
          intro point
          cases ends '.' point
        rw [number_whole noHex (left.symm ▸ pointless), same]

/-- The inside of a literal that ends before the end of a line ends there again. -/
theorem quotedBody_endsLine (quote : Char) (ends : EndsLine rest) :
    quotedBody quote rest = ([], false) := by
  match rest, ends with
  | [], _ => rfl
  | [c], ends =>
      obtain rfl : c = '\n' := ends c rfl
      rfl
  | c :: next :: others, ends =>
      obtain rfl : c = '\n' := ends c rfl
      simp [quotedBody]

/-- The last character of a literal, in front of the end of a line. -/
theorem quotedBody_last (quote : Char) (ends : EndsLine rest) {c : Char} (inLine : c ≠ '\n') :
    quotedBody quote (c :: rest) = ([c], decide (c = quote)) := by
  cases rest with
  | nil => simp [quotedBody, inLine]
  | cons d others =>
      obtain rfl : d = '\n' := ends d rfl
      have stops := quotedBody_endsLine quote ends
      by_cases closes : c = quote
      · subst closes
        simp [quotedBody, inLine]
      · simp [quotedBody, inLine, closes, stops]

theorem quotedBody_again (quote : Char) (ends : EndsLine rest) (body : List Char) :
    quotedBody quote ((quotedBody quote body).1 ++ rest) = quotedBody quote body := by
  fun_induction quotedBody quote body with
  | case1 => exact quotedBody_endsLine quote ends
  | case2 => exact quotedBody_endsLine quote ends
  | case3 c inLine => exact quotedBody_last quote ends inLine
  | case4 => exact quotedBody_endsLine quote ends
  | case5 c next others inLine escaped inner closed parts induction =>
      rw [parts] at induction
      simp [quotedBody, escaped, induction]
  | case6 next others inLine plain =>
      simpa using quotedBody_last quote ends inLine
  | case7 c next others inLine plain open' inner closed parts induction =>
      rw [parts] at induction
      dsimp only at induction ⊢
      cases inner with
      | nil =>
          obtain rfl : closed = false := by
            simpa [quotedBody_endsLine quote ends] using induction.symm
          simpa [open'] using quotedBody_last quote ends inLine
      | cons d tail =>
          have front : d :: tail <+: next :: others := by
            simpa [parts] using quotedBody_prefix quote (next :: others)
          obtain ⟨rfl, -⟩ := List.cons_prefix_cons.mp front
          simp only [List.cons_append] at induction ⊢
          rw [quotedBody, if_neg inLine, if_neg plain, if_neg open', induction]

theorem punctuator?_feed (c : Char) : Kind.punctuator? (String.ofList [c, '\n']) = none := by
  refine List.find?_eq_none.mpr fun kind _ spelled => ?_
  have unbroken := unbroken_of_spelling (beq_iff_eq.mp spelled) '\n' (by simp)
  cases unbroken

/-- The punctuator at the front of a text is spelled by one or two characters. -/
theorem punctuator?_spelled {text : List Char} {lexeme : Lexeme}
    (found : punctuator? text = some lexeme) :
    ∃ kind spelling, lexeme = { kind, text := spelling } ∧
      Kind.punctuator? (String.ofList spelling) = some kind ∧ spelling.length ≤ 2 := by
  simp only [punctuator?] at found
  split at found
  next kind known =>
    exact ⟨kind, _, (Option.some.inj found).symm, known, List.length_take_le 2 text⟩
  next =>
    obtain ⟨kind, known, same⟩ := Option.map_eq_some_iff.mp found
    exact ⟨kind, _, same.symm, known, Nat.le_succ_of_le (List.length_take_le 1 text)⟩

theorem punctuator?_again (ends : EndsLine rest) {c : Char} {text : List Char} {lexeme : Lexeme}
    (found : punctuator? (c :: text) = some lexeme) :
    punctuator? (lexeme.text ++ rest) = some lexeme := by
  have filled := punctuator?_text_ne_nil found
  obtain ⟨kind, spelling, rfl, known, short⟩ := punctuator?_spelled found
  match spelling, filled, short with
  | [a, b], _, _ =>
      simp only [punctuator?, List.cons_append, List.take_succ_cons, List.take_zero, known]
  | [a], _, _ =>
      cases rest with
      | nil => simp only [punctuator?, List.append_nil, List.take_succ_cons, List.take_nil, known]
      | cons d others =>
          obtain rfl : d = '\n' := ends d rfl
          simp only [punctuator?, List.cons_append, List.nil_append, List.take_succ_cons,
            List.take_zero, punctuator?_feed, known, Option.map_some]

theorem scan?_again (ends : EndsLine rest) {text : List Char} {lexeme : Lexeme}
    (found : scan? text = some lexeme) : scan? (lexeme.text ++ rest) = some lexeme := by
  obtain ⟨after, parts⟩ := scan?_prefix found
  cases shape : lexeme.text with
  | nil => exact absurd shape (scan?_text_ne_nil found)
  | cons c tail =>
      rw [shape, List.cons_append] at parts
      subst parts
      simp only [List.cons_append, scan?] at found ⊢
      split at found
      next name =>
        obtain rfl := Option.some.inj found
        rw [if_pos name, ← List.cons_append, ← shape, word_again ends]
      next notName =>
        rw [if_neg notName]
        split at found
        next digit =>
          obtain rfl := Option.some.inj found
          rw [if_pos digit, ← List.cons_append, ← shape, number_again ends]
        next notDigit =>
          rw [if_neg notDigit]
          split at found
          next quote =>
            obtain rfl := Option.some.inj found
            have body : (quotedBody c (tail ++ after)).1 = tail := (List.cons.inj shape).2
            have again := quotedBody_again c ends (tail ++ after)
            rw [body] at again
            simp only [if_pos quote, quoted, again]
          next notQuote =>
            rw [if_neg notQuote, ← List.cons_append, ← shape]
            exact punctuator?_again ends found

end Lexeme

/-! ## Lexemes and gaps -/

/-- A text that starts with the mark that opens a comment. -/
def OpensComment (text : List Char) : Prop :=
  ['/', '/'] <+: text ∨ ['/', '*'] <+: text

/-- A text that starts with no blank and opens no comment is settled. -/
theorem settled_of_plain {c : Char} {rest : List Char} (solid : isGapBlank c = false)
    (plain : ¬ OpensComment (c :: rest)) : Settled (c :: rest) := by
  refine ⟨fun d first => Option.some.inj first ▸ solid, ?_⟩
  unfold comment?
  split
  next text same => exact absurd (.inl ⟨text, same.symm⟩) plain
  next text same => exact absurd (.inr ⟨text, same.symm⟩) plain
  next => rfl

theorem startsToken_of_scan? {c : Char} {rest : List Char} {lexeme : Lexeme}
    (found : Lexeme.scan? (c :: rest) = some lexeme) : StartsToken c := by
  obtain ⟨after, parts⟩ := Lexeme.scan?_prefix found
  have filled := Lexeme.scan?_text_ne_nil found
  simp only [Lexeme.scan?] at found
  split at found
  next name => exact .inl name
  next =>
    split at found
    next digit => exact .inr (.inl digit)
    next =>
      split at found
      next quote => exact .inr (.inr (quote.elim .inl fun single => .inr (.inl single)))
      next =>
        obtain ⟨kind, spelling, rfl, known, -⟩ := Lexeme.punctuator?_spelled found
        have fixed : kind.spelling? = some (String.ofList spelling) := by
          simpa using List.find?_some known
        refine .inr (.inr (.inr (.inr ⟨kind, List.mem_of_find?_eq_some known, _, fixed, ?_⟩)))
        obtain ⟨d, tail, rfl⟩ := List.exists_cons_of_ne_nil filled
        obtain ⟨rfl, -⟩ := List.cons.inj parts
        simp

/-- The six blanks. -/
def gapBlanks : List Char :=
  [' ', '\t', '\n', '\r', '\x0c', '\x0b']

theorem StartsToken.solid {c : Char} (starts : StartsToken c) : isGapBlank c = false := by
  have names : (gapBlanks.all fun c => !isNameStart c) = true := by decide
  have digits : (gapBlanks.all fun c => !Text.isDigitChar c) = true := by decide
  have punctuators : (Kind.punctuators.all fun kind => kind.spelling?.all fun spelling =>
      spelling.toList.head?.all fun c => !gapBlanks.contains c) = true := by
    decide +kernel
  rw [← Bool.not_eq_true]
  intro isBlank
  have blank : c ∈ gapBlanks := by simpa [isGapBlank, gapBlanks, or_assoc] using isBlank
  rcases starts with name | digit | quote | quote | ⟨kind, known, spelling, fixed, first⟩
  · have noName := List.all_eq_true.mp names c blank
    simp [name] at noName
  · have noDigit := List.all_eq_true.mp digits c blank
    simp [digit] at noDigit
  · subst quote
    exact absurd isBlank (by decide)
  · subst quote
    exact absurd isBlank (by decide)
  · have ofKind := List.all_eq_true.mp punctuators kind known
    rw [Option.mem_def.mp fixed, Option.all_some, first, Option.all_some] at ofKind
    simp [blank] at ofKind

theorem not_opensComment {rest : List Char} (ends : EndsLine rest) {text : List Char}
    {lexeme : Lexeme} (found : Lexeme.scan? text = some lexeme) :
    ¬ OpensComment (lexeme.text ++ rest) := by
  -- the lexeme would be the slash alone, and what follows would not end the line
  have slash : ∀ d tail, lexeme.text ++ rest = '/' :: d :: tail →
      Lexeme.scan? ('/' :: d :: tail) = some { kind := .slash, text := ['/'] } → d = '\n' := by
    intro d tail whole alone
    have again := Lexeme.scan?_again ends found
    rw [whole, alone] at again
    obtain rfl := Option.some.inj again
    obtain ⟨-, rfl⟩ := List.cons.inj whole
    exact ends d rfl
  rintro (⟨tail, whole⟩ | ⟨tail, whole⟩)
  · cases slash '/' tail whole.symm rfl
  · cases slash '*' tail whole.symm rfl

/-! ## Tokens read again -/

/-- What a token is, wherever it stands. -/
def reading (token : Token) : Kind × String × Bool :=
  (token.kind, token.lexeme, token.wellFormed)

/-- A token that is read from some text. -/
def Legible (token : Token) : Prop :=
  ∃ text lexeme, Lexeme.scan? text = some lexeme ∧
    reading token = (lexeme.kind, String.ofList lexeme.text, lexeme.wellFormed)

/-- A text of gaps and the lexemes of legible tokens, each of which is followed by the end of a
line. -/
inductive Spelled : List Char → List Token → Prop
  | last {gap : List Char} (isGap : Gap [] gap) : Spelled gap []
  | token {gap text : List Char} {token : Token} {others : List Token}
      (isGap : Gap (token.lexeme.toList ++ text) gap) (legible : Legible token)
      (ends : EndsLine text) (more : Spelled text others) :
      Spelled (gap ++ (token.lexeme.toList ++ text)) (token :: others)

theorem Legible.inside {token : Token} (legible : Legible token) : token.kind ≠ .endOfInput := by
  obtain ⟨text, lexeme, found, same⟩ := legible
  have kindEq : token.kind = lexeme.kind := congrArg Prod.fst same
  exact kindEq ▸ (proper_scan? found).inside

section Steps

variable {cursor : Cursor}

/-- A step that finds a gap and a legible token in front of the end of a line reads the token. -/
theorem next_legible (filename : String) {gap text : List Char} {token : Token}
    (whole : cursor.rest = gap ++ (token.lexeme.toList ++ text))
    (isGap : Gap (token.lexeme.toList ++ text) gap) (legible : Legible token)
    (ends : EndsLine text) :
    ∃ again after, next filename cursor = .token again after ∧ reading again = reading token ∧
      after.rest = text := by
  obtain ⟨origin, lexeme, found, same⟩ := legible
  have spelling : token.lexeme.toList = lexeme.text := by
    have lexemeEq : token.lexeme = String.ofList lexeme.text := congrArg (·.2.1) same
    rw [lexemeEq, String.toList_ofList]
  rw [spelling] at whole isGap
  have again := Lexeme.scan?_again ends found
  have plain := not_opensComment ends found
  obtain ⟨c, tail, shape⟩ := List.exists_cons_of_ne_nil (Lexeme.scan?_text_ne_nil found)
  have settled : Settled (lexeme.text ++ text) := by
    rw [shape, List.cons_append] at again plain ⊢
    exact settled_of_plain (startsToken_of_scan? again).solid plain
  have restEq : (skipGap cursor).rest = lexeme.text ++ text := by
    rw [rest_skipGap, whole, isGap.splitGap settled]
  rw [same]
  unfold next
  simp only [restEq]
  split
  next empty => simp [shape] at empty
  next inner opened => exact absurd (.inr ⟨inner, opened.symm⟩) plain
  next d others _ filled =>
    rw [← filled, again]
    exact ⟨_, _, rfl, rfl, by rw [Cursor.rest_skip, restEq, List.drop_left]⟩

theorem next_blank (filename : String) (isGap : Gap [] cursor.rest) :
    next filename cursor = .finish (skipGap cursor) := by
  have settled : Settled [] := by simp [Settled, comment?]
  have divided := isGap.splitGap settled
  rw [List.append_nil] at divided
  have restEq : (skipGap cursor).rest = [] := by rw [rest_skipGap, divided]
  unfold next
  simp only [restEq]

theorem scanFrom_spelled (filename : String) {text : List Char} {tokens : List Token}
    (spelled : Spelled text tokens) (whole : cursor.rest = text) :
    (scanFrom filename cursor).failure = none ∧
      (scanFrom filename cursor).tokens.map reading =
        tokens.map reading ++ [(.endOfInput, "", true)] := by
  induction spelled generalizing cursor with
  | last isGap =>
      rw [scanFrom, next_blank filename (whole ▸ isGap)]
      exact ⟨rfl, rfl⟩
  | token isGap legible ends more induction =>
      obtain ⟨again, after, step, same, left⟩ := next_legible filename whole isGap legible ends
      obtain ⟨accepted, rest⟩ := induction left
      rw [scanFrom, step]
      refine ⟨accepted, ?_⟩
      simp only [Scan.cons, List.map_cons, List.cons_append, same, rest]

theorem scanFrom_legible {filename : String}
    (accepted : (scanFrom filename cursor).failure = none) :
    ∃ front line, (scanFrom filename cursor).tokens = front ++ [.endOfInput line 0] ∧
      ∀ token ∈ front, Legible token := by
  fun_induction scanFrom filename cursor with
  | case1 cursor token after step induction =>
      obtain ⟨front, line, tokens, legible⟩ := induction accepted
      refine ⟨token :: front, line, congrArg (token :: ·) tokens, ?_⟩
      refine List.forall_mem_cons.mpr ⟨?_, legible⟩
      unfold next at step
      simp only at step
      split at step
      · cases step
      · cases step
      · split at step
        · cases step
        next lexeme found =>
          obtain ⟨rfl, -⟩ := Step.token.inj step
          exact ⟨_, lexeme, found, rfl⟩
  | case2 cursor place step => exact ⟨[], place.line, rfl, by simp⟩
  | case3 cursor error place step => cases accepted

end Steps

/-! ## Sources -/

/-- Blanks, closed block comments, and line comments with their line feeds. -/
inductive Spacing : List Char → Prop
  | none : Spacing []
  | blank {c : Char} {more : List Char} (isBlank : isGapBlank c = true) (rest : Spacing more) :
      Spacing (c :: more)
  | lineComment {body more : List Char} (inLine : '\n' ∉ body) (rest : Spacing more) :
      Spacing ('/' :: '/' :: body ++ '\n' :: more)
  | blockComment {body more : List Char} (inside : Unclosed (body ++ ['*'])) (rest : Spacing more) :
      Spacing ('/' :: '*' :: body ++ '*' :: '/' :: more)

theorem Spacing.gap {spacing : List Char} (isSpacing : Spacing spacing) (text : List Char) :
    Gap text spacing := by
  induction isSpacing with
  | none => exact .none
  | blank isBlank _ induction => exact .blank isBlank induction
  | lineComment inLine _ induction =>
      refine .lineComment inLine ?_ (.blank rfl induction)
      simp [EndsLine]
  | blockComment inside _ induction => exact .blockComment inside induction

/-- The lexemes of tokens, each followed by a line feed and some spacing. -/
def respaced : List (Token × List Char) → List Char
  | [] => []
  | (token, spacing) :: rest => token.lexeme.toList ++ '\n' :: (spacing ++ respaced rest)

/-- The lexemes of legible tokens with spacing between them are a spelled text, also behind
another gap. -/
theorem spelled_respaced {written : List (Token × List Char)} {gap : List Char}
    (isGap : Gap (respaced written) gap) (legible : ∀ part ∈ written, Legible part.1)
    (spaced : ∀ part ∈ written, Spacing part.2) :
    Spelled (gap ++ respaced written) (written.map Prod.fst) := by
  induction written generalizing gap with
  | nil =>
      rw [respaced, List.append_nil]
      exact .last isGap
  | cons part others induction =>
      obtain ⟨token, spacing⟩ := part
      obtain ⟨readable, othersReadable⟩ := List.forall_mem_cons.mp legible
      obtain ⟨isSpacing, othersSpaced⟩ := List.forall_mem_cons.mp spaced
      have feed : Gap (respaced others) ('\n' :: spacing) := .blank rfl (isSpacing.gap _)
      exact .token isGap readable (by simp [EndsLine]) (induction feed othersReadable othersSpaced)

theorem map_reading_numberFrom (first : Nat) (tokens : List Token) :
    (Token.numberFrom first tokens).map reading = tokens.map reading := by
  induction tokens generalizing first with
  | nil => rfl
  | cons token rest induction => rw [Token.numberFrom, List.map_cons, induction]; rfl

/-- The tokens of an accepted source are legible, but for the end mark. -/
theorem tokenize_legible {source filename : String} {line : Int} {first : Nat}
    {tokens : List Token} (accepted : (tokenize source filename line first).1 = .ok tokens) :
    ∃ front mark, tokens = front ++ [mark] ∧ reading mark = (.endOfInput, "", true) ∧
      ∀ token ∈ front, Legible token := by
  obtain ⟨done, rfl⟩ := tokenize_scanned accepted
  obtain ⟨front, last, scanned, legible⟩ := scanFrom_legible done
  rw [scan, scanned, numberFrom_append]
  refine ⟨Token.numberFrom first front, _, rfl, rfl, ?_⟩
  intro token member
  obtain ⟨origin, known, number, -, rfl⟩ := mem_numberFrom member
  exact legible origin known

theorem tokenize_spelled {source : String} {tokens : List Token}
    (spelled : Spelled source.toList tokens) (filename : String) (line : Int) (first : Nat) :
    ∃ again, (tokenize source filename line first).1 = .ok again ∧
      again.map reading = tokens.map reading ++ [(.endOfInput, "", true)] := by
  have start : (Cursor.atStart source.toList line).rest = source.toList := rfl
  obtain ⟨accepted, read⟩ := scanFrom_spelled filename spelled start
  refine ⟨Token.numberFrom first (scan source filename line).tokens, ?_, ?_⟩
  · simp only [tokenize, scan, accepted]
  · rw [map_reading_numberFrom]
    exact read

/-- Other gaps do not change what is read.  The lexemes of an accepted source may be written out
again, each followed by a line feed and any spacing: the text is accepted, and its tokens are
those of the source but for their lines.  Each lexeme on its own is read as its own token. -/
theorem tokenize_respaced {source filename : String} {line : Int} {first : Nat}
    {tokens : List Token} (accepted : (tokenize source filename line first).1 = .ok tokens)
    (otherName : String) (otherLine : Int) (otherFirst : Nat) :
    (∀ written : List (Token × List Char),
        written.map Prod.fst = tokens.filter (fun token => token.kind ≠ .endOfInput) →
        (∀ part ∈ written, Spacing part.2) →
        ∃ again,
          (tokenize (String.ofList (respaced written)) otherName otherLine otherFirst).1 =
              .ok again ∧
            again.map reading = tokens.map reading) ∧
      ∀ token ∈ tokens, token.kind ≠ .endOfInput →
        ∃ again, (tokenize token.lexeme otherName otherLine otherFirst).1 = .ok again ∧
          again.map reading = [reading token, (.endOfInput, "", true)] := by
  obtain ⟨front, mark, rfl, markReading, legible⟩ := tokenize_legible accepted
  have ends : mark.kind = .endOfInput := congrArg Prod.fst markReading
  constructor
  · intro written lexemes spaced
    have kept : written.map Prod.fst = front := by
      rw [lexemes, List.filter_append, List.filter_eq_self.mpr]
      · simp [ends]
      · intro token member
        exact decide_eq_true (legible token member).inside
    have readable : ∀ part ∈ written, Legible part.1 := by
      intro part member
      exact legible part.1 (kept ▸ List.mem_map_of_mem member)
    have spelled := spelled_respaced .none readable spaced
    rw [List.nil_append, kept, ← String.toList_ofList (l := respaced written)] at spelled
    obtain ⟨again, run, read⟩ := tokenize_spelled spelled otherName otherLine otherFirst
    exact ⟨again, run, by rw [read, List.map_append, List.map_singleton, markReading]⟩
  · intro token member inside
    have own : token ∈ front := by
      rcases List.mem_append.mp member with earlier | last
      · exact earlier
      · exact absurd (List.mem_singleton.mp last ▸ ends) inside
    have nothing : EndsLine [] := by simp [EndsLine]
    have spelled : Spelled ([] ++ (token.lexeme.toList ++ [])) [token] :=
      .token .none (legible token own) nothing (.last .none)
    rw [List.nil_append, List.append_nil] at spelled
    exact tokenize_spelled spelled otherName otherLine otherFirst

/-- Tokens without gaps: a zero that is no base mark, a name, a slash that opens no comment, and
a literal that ends in a backslash at the end of the text. -/
def crampedSource : String := "0x/\"//\\"

/-- The tokens of the cramped source, with spacing to write after each. -/
def crampedParts : List (Token × List Char) :=
  [({ kind := .integerConstant, lexeme := "0", line := 1, number := 0 }, []),
   ({ kind := .identifier, lexeme := "x", line := 1, number := 1 }, [' ', '\t']),
   ({ kind := .slash, lexeme := "/", line := 1, number := 2 }, ['/', '*', '/', '*', '*', '/']),
   ({ kind := .stringLiteral, lexeme := "\"//\\", line := 1, wellFormed := false, number := 3 },
    ['/', '/', '"', '\n'])]

/-- The cramped source is read again from a text with a gap after every token. -/
theorem tokenize_respaced_cramped :
    (tokenize crampedSource "<input>" 1 0).1 =
        .ok (crampedParts.map Prod.fst ++ [.endOfInput 1 4]) ∧
      (∀ part ∈ crampedParts, Spacing part.2) ∧
      (∃ again, (tokenize (String.ofList (respaced crampedParts)) "<input>" 1 0).1 = .ok again ∧
        again.map reading = (crampedParts.map Prod.fst ++ [Token.endOfInput 1 4]).map reading) ∧
      ∃ again, (tokenize "\"//\\" "<input>" 1 0).1 = .ok again ∧
        again.map reading = [(.stringLiteral, "\"//\\", false), (.endOfInput, "", true)] := by
  have accepted : (tokenize crampedSource "<input>" 1 0).1 =
      .ok (crampedParts.map Prod.fst ++ [.endOfInput 1 4]) := by
    decide +kernel
  have spaced : ∀ part ∈ crampedParts, Spacing part.2 := by
    simp only [crampedParts, List.forall_mem_cons, List.not_mem_nil, false_imp_iff, implies_true,
      and_true]
    exact ⟨.none, .blank rfl (.blank rfl .none),
      @Spacing.blockComment ['/', '*'] [] (by decide) .none,
      @Spacing.lineComment ['"'] [] (by decide) .none⟩
  obtain ⟨again, alone⟩ := tokenize_respaced accepted "<input>" 1 0
  exact ⟨accepted, spaced, again crampedParts (by decide) spaced,
    alone
      { kind := .stringLiteral, lexeme := "\"//\\", line := 1, wellFormed := false, number := 3 }
      (by simp [crampedParts]) (by decide)⟩

end MiniC.Lexer
