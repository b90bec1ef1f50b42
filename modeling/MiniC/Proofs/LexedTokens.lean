import MiniC.Lexer.Scan
import MiniC.Proofs.RecordRoundTrip

/-!
# The tokens of a source

What the tokens of an accepted source have in common: the last one is their
only end mark, a keyword or punctuator has its spelling, a line break can only
stand in a quoted literal, and numbers and lines are bounded by the length of
the source.
-/

namespace MiniC

namespace Text

/-- The codes of the characters that end a line. -/
def lineBreakCodes : List Nat :=
  [0x0a, 0x0b, 0x0c, 0x0d, 0x1c, 0x1d, 0x1e, 0x85, 0x2028, 0x2029]

theorem mem_lineBreakCodes {c : Char} (breaks : isLineBreak c = true) :
    c.toNat ∈ lineBreakCodes := by
  simp only [isLineBreak, Bool.or_eq_true, Bool.and_eq_true, decide_eq_true_eq,
    beq_iff_eq] at breaks
  simp only [lineBreakCodes, List.mem_cons, List.not_mem_nil]
  omega

/-- A class of characters that leaves out the line breaks holds none of them. -/
theorem not_isLineBreak_of {test : Char → Bool}
    (none : ∀ code ∈ lineBreakCodes, test (Char.ofNat code) = false) {c : Char}
    (member : test c = true) : isLineBreak c = false := by
  cases breaks : isLineBreak c with
  | false => rfl
  | true =>
      have outside := none c.toNat (mem_lineBreakCodes breaks)
      rw [Char.ofNat_toNat, member] at outside
      cases outside

end Text

namespace Lexer

/-! ## Lexemes -/

/-- Whether a kind is one of the two quoted literals. -/
def isQuotedKind (kind : Kind) : Bool :=
  kind = .stringLiteral || kind = .charConstant

/-- What holds of every lexeme: it is no end mark, it has the spelling of its kind where that
is fixed, and only a quoted literal can hold a line break. -/
structure Proper (kind : Kind) (text : String) : Prop where
  inside : kind ≠ .endOfInput
  spelling : ∀ fixed, kind.spelling? = some fixed → text = fixed
  unbroken : isQuotedKind kind = false → Record.Unbroken text

theorem unbroken_of_spelling {kind : Kind} {text : String} (fixed : kind.spelling? = some text) :
    Record.Unbroken text := by
  have each : ∀ kind ∈ Kind.all, ∀ text ∈ kind.spelling?, Record.Unbroken text := by
    decide +kernel
  exact each kind kind.mem_all text fixed

theorem proper_of_spelling {kind : Kind} {text : String} (fixed : kind.spelling? = some text) :
    Proper kind text where
  inside := fun ends => by
    rw [ends] at fixed
    cases fixed
  spelling := fun other same => Option.some.inj (fixed.symm.trans same)
  unbroken := fun _ => unbroken_of_spelling fixed

/-- A lexeme of a kind without a fixed spelling is proper if it is unbroken, or quoted. -/
theorem proper_of_free {kind : Kind} {text : String} (inside : kind ≠ .endOfInput)
    (free : kind.spelling? = none) (unbroken : isQuotedKind kind = false → Record.Unbroken text) :
    Proper kind text where
  inside := inside
  spelling := fun fixed same => by
    rw [free] at same
    cases same
  unbroken := unbroken

theorem unbroken_ofList {text : List Char} (plain : ∀ c ∈ text, Text.isLineBreak c = false) :
    Record.Unbroken (String.ofList text) := by
  rwa [Record.Unbroken, String.toList_ofList]

theorem takeWhile_unbroken {test : Char → Bool}
    (none : ∀ code ∈ Text.lineBreakCodes, test (Char.ofNat code) = false) (text : List Char) :
    ∀ c ∈ text.takeWhile test, Text.isLineBreak c = false := fun _ member =>
  Text.not_isLineBreak_of none (List.all_eq_true.1 List.all_takeWhile _ member)

theorem isNameChar_code : ∀ code ∈ Text.lineBreakCodes, isNameChar (Char.ofNat code) = false := by
  decide

theorem isDigitChar_code :
    ∀ code ∈ Text.lineBreakCodes, Text.isDigitChar (Char.ofNat code) = false := by
  decide

theorem isHexDigit_code :
    ∀ code ∈ Text.lineBreakCodes, Text.isHexDigit (Char.ofNat code) = false := by
  decide

theorem proper_word (text : List Char) :
    Proper (Lexeme.word text).kind (String.ofList (Lexeme.word text).text) := by
  simp only [Lexeme.word]
  cases found : Kind.keyword? (String.ofList (text.takeWhile isNameChar)) with
  | some kind => exact proper_of_spelling (by simpa using List.find?_some found)
  | none =>
      exact proper_of_free (by simp) rfl fun _ =>
        unbroken_ofList (takeWhile_unbroken isNameChar_code text)

theorem hexNumber?_unbroken {text digits : List Char} (found : Lexeme.hexNumber? text = some digits) :
    ∀ c ∈ digits, Text.isLineBreak c = false := by
  unfold Lexeme.hexNumber? at found
  split at found
  · split at found
    · rename_i mark digit rest valid
      obtain rfl := Option.some.inj found
      have marked : Text.isLineBreak mark = false := by
        rcases valid.1 with rfl | rfl <;> decide
      simp only [List.forall_mem_cons]
      exact ⟨by decide, marked, Text.not_isLineBreak_of isHexDigit_code valid.2,
        takeWhile_unbroken isHexDigit_code rest⟩
    · cases found
  · cases found

theorem proper_number (text : List Char) :
    Proper (Lexeme.number text).kind (String.ofList (Lexeme.number text).text) := by
  unfold Lexeme.number
  split
  next digits found =>
    exact proper_of_free (by simp) rfl fun _ => unbroken_ofList (hexNumber?_unbroken found)
  next =>
    have whole := takeWhile_unbroken isDigitChar_code text
    simp only
    split
    next rest _ =>
      refine proper_of_free (by simp) rfl fun _ => unbroken_ofList ?_
      simp only [List.forall_mem_append, List.forall_mem_cons]
      exact ⟨whole, by decide, takeWhile_unbroken isDigitChar_code rest⟩
    next => exact proper_of_free (by simp) rfl fun _ => unbroken_ofList whole

theorem proper_quoted (quote : Char) (body : List Char) :
    Proper (Lexeme.quoted quote body).kind (String.ofList (Lexeme.quoted quote body).text) := by
  simp only [Lexeme.quoted]
  split
  · exact proper_of_free (by simp) rfl fun plain => by cases plain
  · exact proper_of_free (by simp) rfl fun plain => by cases plain

theorem proper_punctuator? {text : List Char} {lexeme : Lexeme}
    (found : Lexeme.punctuator? text = some lexeme) :
    Proper lexeme.kind (String.ofList lexeme.text) := by
  simp only [Lexeme.punctuator?] at found
  split at found
  next kind known =>
    obtain rfl := Option.some.inj found
    exact proper_of_spelling (by simpa using List.find?_some known)
  next =>
    obtain ⟨kind, known, rfl⟩ := Option.map_eq_some_iff.1 found
    exact proper_of_spelling (by simpa using List.find?_some known)

theorem proper_scan? {text : List Char} {lexeme : Lexeme} (found : Lexeme.scan? text = some lexeme) :
    Proper lexeme.kind (String.ofList lexeme.text) := by
  cases text with
  | nil => cases found
  | cons c rest =>
      simp only [Lexeme.scan?] at found
      split at found
      · exact Option.some.inj found ▸ proper_word (c :: rest)
      · split at found
        · exact Option.some.inj found ▸ proper_number (c :: rest)
        · split at found
          · exact Option.some.inj found ▸ proper_quoted c rest
          · exact proper_punctuator? found

/-! ## Kinds -/

theorem kind_word (text : List Char) :
    (Lexeme.word text).kind ∈ Kind.identifier :: Kind.keywords := by
  simp only [Lexeme.word]
  cases found : Kind.keyword? (String.ofList (text.takeWhile isNameChar)) with
  | none => exact List.mem_cons_self
  | some kind => exact List.mem_cons_of_mem _ (List.mem_of_find?_eq_some found)

theorem kind_punctuator? {text : List Char} {lexeme : Lexeme}
    (found : Lexeme.punctuator? text = some lexeme) : lexeme.kind ∈ Kind.punctuators := by
  simp only [Lexeme.punctuator?] at found
  split at found
  next kind known =>
    obtain rfl := Option.some.inj found
    exact List.mem_of_find?_eq_some known
  next =>
    obtain ⟨kind, known, rfl⟩ := Option.map_eq_some_iff.mp found
    exact List.mem_of_find?_eq_some known

/-! ## Scans -/

/-- Whether the line of a place, and every line that can still be reached from it, is at most
some bound. -/
structure Cursor.Below (bound : Int) (cursor : Cursor) : Prop where
  natural : 0 ≤ cursor.line
  reachable : cursor.line + cursor.rest.length ≤ bound

theorem Cursor.Below.step {bound : Int} {cursor : Cursor} (below : cursor.Below bound) :
    cursor.step.Below bound := by
  obtain ⟨natural, reachable⟩ := below
  unfold Cursor.step
  split
  · exact ⟨natural, reachable⟩
  next c rest filled =>
    rw [filled, List.length_cons] at reachable
    split
    · exact ⟨by simp only; omega, by simp only; omega⟩
    · exact ⟨natural, by simp only; omega⟩

theorem Cursor.Below.skip {bound : Int} {cursor : Cursor} (below : cursor.Below bound)
    (count : Nat) : (cursor.skip count).Below bound := by
  induction count generalizing cursor with
  | zero => exact below
  | succ count ih => exact ih below.step

theorem next_proper {filename : String} {cursor after : Cursor} {token : Token}
    (step : next filename cursor = .token token after) : Proper token.kind token.lexeme := by
  unfold next at step
  simp only at step
  split at step
  · cases step
  · cases step
  next c rest _ filled =>
    split at step
    · cases step
    next lexeme found =>
      obtain ⟨rfl, -⟩ := Step.token.inj step
      exact proper_scan? found

/-- What one step gives: a token at a bounded line, and a bounded place after it. -/
theorem next_token {filename : String} {cursor after : Cursor} {token : Token} {bound : Int}
    (below : cursor.Below bound) (step : next filename cursor = .token token after) :
    0 ≤ token.line ∧ token.line ≤ bound ∧ after.Below bound := by
  have gap : (skipGap cursor).Below bound := below.skip _
  unfold next at step
  simp only at step
  split at step
  · cases step
  · cases step
  next c rest _ filled =>
    split at step
    · cases step
    next lexeme found =>
      obtain ⟨rfl, rfl⟩ := Step.token.inj step
      have line : (skipGap cursor).line ≤ bound := by
        have reachable := gap.reachable
        omega
      exact ⟨gap.natural, line, gap.skip _⟩

theorem next_finish {filename : String} {cursor place : Cursor} {bound : Int}
    (below : cursor.Below bound) (step : next filename cursor = .finish place) :
    place.Below bound := by
  unfold next at step
  simp only at step
  split at step
  · obtain rfl := Step.finish.inj step
    exact below.skip _
  · cases step
  · split at step <;> cases step

/-- Proper tokens and an end mark. -/
def Ended (tokens : List Token) : Prop :=
  ∃ front line number, tokens = front ++ [.endOfInput line number] ∧
    ∀ token ∈ front, Proper token.kind token.lexeme

/-- The tokens of a scan that does not fail: proper ones and an end mark, at bounded lines, and
at most one more than there are characters. -/
structure Lexed (bound : Int) (size : Nat) (tokens : List Token) : Prop where
  parts : Ended tokens
  lines : ∀ token ∈ tokens, 0 ≤ token.line ∧ token.line ≤ bound
  count : tokens.length ≤ size + 1

theorem scanFrom_ended {filename : String} {cursor : Cursor}
    (accepted : (scanFrom filename cursor).failure = none) :
    Ended (scanFrom filename cursor).tokens := by
  fun_induction scanFrom filename cursor with
  | case1 cursor token after step ih =>
      obtain ⟨front, last, number, parts, others⟩ := ih accepted
      refine ⟨token :: front, last, number, ?_, List.forall_mem_cons.2 ⟨next_proper step, others⟩⟩
      simp [Scan.cons, parts]
  | case2 cursor place step => exact ⟨[], place.line, 0, rfl, by simp⟩
  | case3 cursor error place step => cases accepted

/-- The tokens of a scan that does not fail are few and at bounded lines, step by step. -/
theorem scanFrom_lexed {filename : String} {cursor : Cursor} {bound : Int}
    (below : cursor.Below bound) (accepted : (scanFrom filename cursor).failure = none) :
    Lexed bound cursor.rest.length (scanFrom filename cursor).tokens := by
  suffices bounded :
      (∀ token ∈ (scanFrom filename cursor).tokens, 0 ≤ token.line ∧ token.line ≤ bound) ∧
        (scanFrom filename cursor).tokens.length ≤ cursor.rest.length + 1 from
    ⟨scanFrom_ended accepted, bounded.1, bounded.2⟩
  fun_induction scanFrom filename cursor with
  | case1 cursor token after step ih =>
      obtain ⟨natural, line, beyond⟩ := next_token below step
      obtain ⟨lines, count⟩ := ih beyond accepted
      have shorter := length_rest_of_next step
      refine ⟨List.forall_mem_cons.2 ⟨⟨natural, line⟩, lines⟩, ?_⟩
      simp only [Scan.cons, List.length_cons]
      omega
  | case2 cursor place step =>
      obtain ⟨natural, reachable⟩ := next_finish below step
      refine ⟨?_, by simp⟩
      simp only [List.mem_singleton, forall_eq]
      exact ⟨natural, by simp only [Token.endOfInput]; omega⟩
  | case3 cursor error place step => cases accepted

/-! ## Numbered tokens -/

theorem numberFrom_append (first : Nat) (front rest : List Token) :
    Token.numberFrom first (front ++ rest) =
      Token.numberFrom first front ++ Token.numberFrom (first + front.length) rest := by
  induction front generalizing first with
  | nil => rfl
  | cons token others ih =>
      rw [List.cons_append, Token.numberFrom, ih, Token.numberFrom, List.cons_append,
        List.length_cons, Nat.add_right_comm, Nat.add_assoc first]

/-- A numbered token is a token of the list with a number from the range that it fills. -/
theorem mem_numberFrom {first : Nat} {tokens : List Token} {token : Token}
    (member : token ∈ Token.numberFrom first tokens) :
    ∃ source ∈ tokens, ∃ number : Nat, number < first + tokens.length ∧
      token = { source with number := number } := by
  induction tokens generalizing first with
  | nil => cases member
  | cons source others ih =>
      rw [Token.numberFrom, List.mem_cons] at member
      rcases member with rfl | later
      · exact ⟨source, List.mem_cons_self, first, by simp, rfl⟩
      · obtain ⟨origin, known, number, bound, same⟩ := ih later
        refine ⟨origin, List.mem_cons_of_mem _ known, number, ?_, same⟩
        simp only [List.length_cons]
        omega

/-- The tokens of an accepted source are those of a scan that does not fail, numbered. -/
theorem tokenize_scanned {source filename : String} {line : Int} {first : Nat}
    {tokens : List Token} (accepted : (tokenize source filename line first).1 = .ok tokens) :
    (scan source filename line).failure = none ∧
      tokens = Token.numberFrom first (scan source filename line).tokens := by
  simp only [tokenize] at accepted
  split at accepted
  · cases accepted
  next done => exact ⟨done, (Except.ok.inj accepted).symm⟩

/-- The tokens of an accepted source are proper ones and an end mark, numbered. -/
theorem tokenize_lexed {source filename : String} {first free : Nat} {tokens : List Token}
    (accepted : tokenize source filename 1 first = (.ok tokens, free)) :
    ∃ scanned, tokens = Token.numberFrom first scanned ∧
      Lexed (1 + source.length) source.length scanned := by
  rw [← String.length_toList]
  have below : (Cursor.atStart source.toList 1).Below (1 + source.toList.length) :=
    ⟨Int.zero_le_ofNat 1, Int.le_refl _⟩
  obtain ⟨done, numbered⟩ := tokenize_scanned (congrArg Prod.fst accepted)
  exact ⟨_, numbered, scanFrom_lexed below done⟩

theorem tokenize_endsOnce {source filename : String} {line : Int} {first free : Nat}
    {tokens : List Token} (accepted : tokenize source filename line first = (.ok tokens, free)) :
    Record.EndsOnce tokens := by
  obtain ⟨done, numbered⟩ := tokenize_scanned (congrArg Prod.fst accepted)
  obtain ⟨front, last, number, parts, proper⟩ := scanFrom_ended done
  rw [scan, parts, numberFrom_append] at numbered
  refine ⟨Token.numberFrom first front, _, numbered, rfl, ?_⟩
  intro token member
  obtain ⟨origin, known, _, _, rfl⟩ := mem_numberFrom member
  exact (proper origin known).inside

theorem tokenize_spelling {source filename : String} {first free : Nat} {tokens : List Token}
    (accepted : tokenize source filename 1 first = (.ok tokens, free)) :
    ∀ token ∈ tokens, ∀ text, token.kind.spelling? = some text → token.lexeme = text := by
  obtain ⟨scanned, rfl, ⟨front, line, number, rfl, proper⟩, _, _⟩ := tokenize_lexed accepted
  intro token member text fixed
  obtain ⟨origin, known, _, _, rfl⟩ := mem_numberFrom member
  rcases List.mem_append.1 known with earlier | last
  · exact (proper origin earlier).spelling text fixed
  · obtain rfl := List.mem_singleton.1 last
    cases fixed

/-- A line break in a token of an accepted source stands in a quoted literal. -/
theorem tokenize_unbroken {source filename : String} {first free : Nat} {tokens : List Token}
    (accepted : tokenize source filename 1 first = (.ok tokens, free)) :
    ∀ token ∈ tokens, isQuotedKind token.kind = false → Record.Unbroken token.lexeme := by
  obtain ⟨scanned, rfl, ⟨front, line, number, rfl, proper⟩, _, _⟩ := tokenize_lexed accepted
  intro token member unquoted
  obtain ⟨origin, known, _, _, rfl⟩ := mem_numberFrom member
  rcases List.mem_append.1 known with earlier | last
  · exact (proper origin earlier).unbroken unquoted
  · obtain rfl := List.mem_singleton.1 last
    intro c absurdity
    cases absurdity

/-- Numbers and lines of an accepted source are at most as large as the source is long. -/
theorem tokenize_fits {source filename : String} {first free : Nat} {tokens : List Token}
    (accepted : tokenize source filename 1 first = (.ok tokens, free))
    (short : Numeral.Fits ↑(first + source.length + 1)) :
    ∀ token ∈ tokens, Numeral.Fits token.number ∧ Numeral.Fits token.line := by
  obtain ⟨scanned, rfl, _, lines, count⟩ := tokenize_lexed accepted
  intro token member
  obtain ⟨origin, known, number, bound, rfl⟩ := mem_numberFrom member
  obtain ⟨natural, small⟩ := lines origin known
  have line : origin.line.natAbs ≤ (↑(first + source.length + 1) : Int).natAbs := by omega
  exact ⟨short.of_le (by simp only [Int.natAbs_natCast]; omega), short.of_le line⟩

end Lexer

end MiniC
