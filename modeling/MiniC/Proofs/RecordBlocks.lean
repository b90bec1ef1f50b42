import MiniC.Proofs.RecordLines
import MiniC.Proofs.WrittenInteger

/-!
# Records read back

A record whose lines are whole is read as its token, as long as its numbers are
not too long and, in the coarse form, its text is the spelling of its kind.  It
is refused, or read as a token of another kind, in all other cases.  A field
without its closing tag is refused.
-/

namespace MiniC

namespace Kind

theorem mem_all (kind : Kind) : kind ∈ all := by
  cases kind <;> decide

theorem ofName?_name (kind : Kind) : ofName? kind.name = some kind := by
  have each : ∀ kind ∈ all, ofName? kind.name = some kind := by decide +kernel
  exact each kind kind.mem_all

theorem ofName?_category (kind : Kind) : ofName? kind.category = none := by
  have each : ∀ kind ∈ all, ofName? kind.category = none := by decide +kernel
  exact each kind kind.mem_all

theorem ofCategory?_keyword (lexeme : String) : ofCategory? "keyword" lexeme = keyword? lexeme := rfl

theorem ofCategory?_punctuator (lexeme : String) :
    ofCategory? "punctuator" lexeme = punctuator? lexeme := rfl

theorem ofCategory?_of_free {kind : Kind} (lexeme : String) (free : kind.spelling? = none) :
    ofCategory? kind.category lexeme = some kind := by
  cases kind <;> cases free <;> rfl

/-- A kind with a fixed spelling is found by it among the keywords or among the
punctuators. -/
theorem found_by_spelling {kind : Kind} {text : String} (fixed : kind.spelling? = some text) :
    kind.category = "keyword" ∧ keyword? text = some kind ∨
      kind.category = "punctuator" ∧ punctuator? text = some kind := by
  have each : ∀ kind ∈ all, ∀ text ∈ kind.spelling?,
      kind.category = "keyword" ∧ keyword? text = some kind ∨
        kind.category = "punctuator" ∧ punctuator? text = some kind := by
    decide +kernel
  exact each kind kind.mem_all text fixed

/-- The coarse name of a kind and a text determine the kind exactly if the text is the
spelling of the kind, where that is fixed. -/
theorem ofCategory?_eq_some_iff {kind : Kind} {lexeme : String} :
    ofCategory? kind.category lexeme = some kind ↔
      ∀ text, kind.spelling? = some text → lexeme = text := by
  constructor
  · intro found text fixed
    have spelt : kind.spelling? = some lexeme := by
      rcases found_by_spelling fixed with ⟨word, _⟩ | ⟨mark, _⟩
      · rw [word, ofCategory?_keyword, keyword?] at found
        simpa using List.find?_some found
      · rw [mark, ofCategory?_punctuator, punctuator?] at found
        simpa using List.find?_some found
    exact Option.some.inj (spelt.symm.trans fixed)
  · intro spelt
    cases fixed : kind.spelling? with
    | none => exact ofCategory?_of_free lexeme fixed
    | some text =>
        obtain rfl := spelt text fixed
        rcases found_by_spelling fixed with ⟨word, known⟩ | ⟨mark, known⟩
        · rw [word, ofCategory?_keyword, known]
        · rw [mark, ofCategory?_punctuator, known]

theorem typeName_plain (categories : Bool) (kind : Kind) :
    ∀ c ∈ (Record.typeName categories kind).toList,
      Markup.isMarkup c = false ∧ Text.isLineBreak c = false := by
  have each : ∀ categories, ∀ kind ∈ all, (Record.typeName categories kind).toList.all
      (fun c => !Markup.isMarkup c && !Text.isLineBreak c) = true := by
    decide +kernel
  intro c member
  simpa using List.all_eq_true.1 (each categories kind kind.mem_all) c member

end Kind

namespace Text

theorem trimEnd_concat {test : Char → Bool} {last : Char} (text : List Char)
    (ends : test last = false) : trimEnd test (text ++ [last]) = text ++ [last] := by
  rw [trimEnd, List.reverse_append, List.reverse_singleton, List.singleton_append,
    List.dropWhile_cons_of_neg (by simp [ends]), ← List.singleton_append, List.reverse_append,
    List.reverse_reverse, List.reverse_singleton]

theorem trim_cons {test : Char → Bool} {first : Char} (text : List Char)
    (starts : test first = false) : trim test (first :: text) = first :: trimEnd test text := by
  have kept (part : List Char) :
      (part ++ [first]).dropWhile test = part.dropWhile test ++ [first] := by
    induction part with
    | nil => simp [starts]
    | cons c rest ih =>
        by_cases satisfied : test c = true
        · simp [satisfied, ih]
        · simp [satisfied]
  rw [trim, List.dropWhile_cons_of_neg (by simp [starts]), trimEnd, List.reverse_cons, kept,
    List.reverse_append, List.reverse_singleton, List.singleton_append, trimEnd]

theorem mem_of_mem_trimEnd {test : Char → Bool} {text : List Char} {c : Char}
    (member : c ∈ trimEnd test text) : c ∈ text := by
  rw [trimEnd, List.mem_reverse] at member
  exact List.mem_reverse.1 ((List.dropWhile_sublist test).subset member)

end Text

namespace Record

/-! ## Fields -/

theorem ok_bind {α β : Type} (value : α) (next : α → Except Error β) :
    (Except.ok value >>= next) = next value := rfl

theorem between?_append (opening content closing : List Char) :
    between? opening closing (opening ++ (content ++ closing)) = some content := by
  rw [between?, if_pos (List.isPrefixOf_iff_prefix.2 (List.prefix_append _ _))]
  simp only [List.drop_left]
  rw [if_pos (List.isSuffixOf_iff_suffix.2 (List.suffix_append _ _))]
  simp

/-- Nothing is found between tags if no closing tag can follow the opening one. -/
theorem between?_eq_none {first c : Char} {opening closing text : List Char} (mark : c ∈ closing)
    (absent : c ∉ text) : between? (first :: opening) closing (first :: text) = none := by
  unfold between?
  split
  · refine if_neg fun suffix => absent ?_
    exact List.mem_of_mem_drop ((List.isSuffixOf_iff_suffix.1 suffix).subset mark)
  · rfl

theorem toList_fieldLine (name content : String) :
    (fieldLine name content).toList =
      ("<" ++ name ++ ">").toList ++ (content.toList ++ ("</" ++ name ++ ">").toList) := by
  simp [fieldLine]

theorem readField_fieldLine (name text : String) (index : Nat) :
    readField name index (fieldLine name (Markup.escaped text)).toList = .ok text := by
  have trimmed : Text.trim isFieldBlank (fieldLine name (Markup.escaped text)).toList =
      (fieldLine name (Markup.escaped text)).toList := by
    have shape : (fieldLine name (Markup.escaped text)).toList =
        '<' :: ((name.toList ++ ('>' :: (Markup.escape text.toList ++
          ('<' :: '/' :: name.toList)))) ++ ['>']) := by
      simp [toList_fieldLine, Markup.escaped]
    rw [shape, Text.trim_cons _ (by decide), Text.trimEnd_concat _ (by decide)]
  simp only [readField, trimmed]
  simp only [toList_fieldLine, between?_append, Markup.escaped, String.toList_ofList,
    Markup.unescape_escape, String.ofList_toList]

theorem readField_plain {text : String} (plain : ∀ c ∈ text.toList, Markup.isMarkup c = false)
    (name : String) (index : Nat) :
    readField name index (fieldLine name text).toList = .ok text := by
  have unchanged : Markup.escaped text = text := by
    rw [Markup.escaped, Markup.escape_of_plain plain, String.ofList_toList]
  rw [← readField_fieldLine name text index, unchanged]

theorem readField_unclosed (name : String) (index : Nat) {text : List Char} (absent : '<' ∉ text) :
    readField name index ('<' :: text) = .error (malformed (.field name) index ('<' :: text)) := by
  have unclosed : '<' ∉ Text.trimEnd isFieldBlank text := mt Text.mem_of_mem_trimEnd absent
  have missing : between? ("<" ++ name ++ ">").toList ("</" ++ name ++ ">").toList
      ('<' :: Text.trimEnd isFieldBlank text) = none := by
    simp only [String.toList_append, List.append_assoc]
    exact between?_eq_none (by simp) unclosed
  simp only [readField, Text.trim_cons text (by decide : isFieldBlank '<' = false), missing]

/-! ## Records -/

/-- Whether a file is refused for one of its lines. -/
def Refused {α : Type} (result : Except Error α) : Prop :=
  ∃ flaw index line, result = .error (.malformed flaw index line)

theorem Refused.bind {α β : Type} {result : Except Error α} (refused : Refused result)
    (next : α → Except Error β) : Refused (result >>= next) := by
  obtain ⟨flaw, index, line, rfl⟩ := refused
  exact ⟨flaw, index, line, rfl⟩

/-- The lines of the record of a token, taken as they are written. -/
def block (categories : Bool) (token : Token) : Block where
  opening := recordOpen.toList
  number := (fieldLine "number" (toString token.number)).toList
  value := (fieldLine "value" (Markup.escaped token.lexeme)).toList
  type := (fieldLine "type" (typeName categories token.kind)).toList
  line := (fieldLine "line" (toString token.line)).toList
  valid := (fieldLine "valid" (if token.wellFormed then "true" else "false")).toList
  closing := recordClose.toList

/-- A record is read field by field: its numbers are read back, and its kind is looked up. -/
theorem readBlock_block (categories : Bool) (token : Token) (index : Nat) :
    readBlock index (block categories token) = (do
      let number ← readInteger (toString token.number) (index + 1) (block categories token).number
      let line ← readInteger (toString token.line) (index + 4) (block categories token).line
      match kindOf? (typeName categories token.kind) token.lexeme with
      | none =>
          throw (malformed (.kind (typeName categories token.kind) token.lexeme) (index + 3)
            (block categories token).type)
      | some kind => return { token with kind, number, line }) := by
  have opening : isTag recordOpen recordOpen.toList = true := by decide
  have closing : isTag recordClose recordClose.toList = true := by decide
  have digits (n : Int) := Numeral.forall_mem_toString (P := (Markup.isMarkup · = false))
    (by decide) (by decide) n
  have named (c : Char) (member : c ∈ (typeName categories token.kind).toList) :=
    (Kind.typeName_plain categories token.kind c member).1
  have flag : ∀ c ∈ (if token.wellFormed then "true" else "false").toList,
      Markup.isMarkup c = false := by
    cases token.wellFormed <;> simp [Markup.isMarkup]
  simp only [readBlock, block, opening, closing, readField_plain (digits _), readField_plain named,
    readField_plain flag, readField_fieldLine, if_true, ok_bind]
  cases token.wellFormed <;> rfl

theorem readInteger_toString (n : Int) (index : Nat) (line : List Char) :
    readInteger (toString n) index line =
      if Numeral.Fits n then .ok n else .error (malformed (.integer (toString n)) index line) := by
  rw [readInteger, Numeral.integer?_toString]
  by_cases fits : Numeral.Fits n
  · simp only [if_pos fits]
  · simp only [if_neg fits]

/-- The name of a kind in a record leads back to the kind, in the coarse form with the
help of the spelling. -/
theorem kindOf?_typeName_iff {categories : Bool} {kind : Kind} {lexeme : String} :
    kindOf? (typeName categories kind) lexeme = some kind ↔
      (categories = true → ∀ text, kind.spelling? = some text → lexeme = text) := by
  cases categories with
  | false => simp [kindOf?, typeName, Kind.ofName?_name]
  | true => simp [kindOf?, typeName, Kind.ofName?_category, Kind.ofCategory?_eq_some_iff]

/-- Whether the record of a token holds all that is needed to read the token back. -/
structure Restorable (categories : Bool) (token : Token) : Prop where
  number : Numeral.Fits token.number
  line : Numeral.Fits token.line
  spelling : categories = true → ∀ text, token.kind.spelling? = some text → token.lexeme = text

/-- A record whose numbers are not too long is read as its token, with the kind that its
type stands for. -/
theorem readBlock_of_fits {categories : Bool} {token : Token} (index : Nat)
    (number : Numeral.Fits token.number) (line : Numeral.Fits token.line) :
    readBlock index (block categories token) =
      match kindOf? (typeName categories token.kind) token.lexeme with
      | none =>
          .error (malformed (.kind (typeName categories token.kind) token.lexeme) (index + 3)
            (block categories token).type)
      | some kind => .ok { token with kind } := by
  rw [readBlock_block, readInteger_toString, readInteger_toString, if_pos number, if_pos line]
  rfl

theorem readBlock_refused (categories : Bool) {token : Token} (index : Nat)
    (long : ¬ (Numeral.Fits token.number ∧ Numeral.Fits token.line)) :
    Refused (readBlock index (block categories token)) := by
  rw [readBlock_block, readInteger_toString, readInteger_toString]
  by_cases number : Numeral.Fits token.number
  · rw [if_pos number, if_neg fun line => long ⟨number, line⟩]
    exact ⟨_, _, _, rfl⟩
  · rw [if_neg number]
    exact ⟨_, _, _, rfl⟩

theorem readBlock_block_iff {categories : Bool} {token : Token} {index : Nat} :
    readBlock index (block categories token) = .ok token ↔ Restorable categories token := by
  by_cases fits : Numeral.Fits token.number ∧ Numeral.Fits token.line
  · rw [readBlock_of_fits index fits.1 fits.2]
    constructor
    · intro read
      refine ⟨fits.1, fits.2, kindOf?_typeName_iff.1 ?_⟩
      cases found : kindOf? (typeName categories token.kind) token.lexeme with
      | none => simp [found] at read
      | some kind =>
          rw [found] at read
          exact congrArg some (congrArg Token.kind (Except.ok.inj read))
    · intro restorable
      rw [kindOf?_typeName_iff.2 restorable.spelling]
  · constructor
    · intro read
      obtain ⟨flaw, place, text, refused⟩ := readBlock_refused categories index fits
      rw [read] at refused
      cases refused
    · exact fun restorable => absurd ⟨restorable.number, restorable.line⟩ fits

/-- Reading a whole record fails only for one of its lines. -/
theorem readBlock_block_ok_or_refused (categories : Bool) (token : Token) (index : Nat) :
    (∃ read, readBlock index (block categories token) = .ok read) ∨
      Refused (readBlock index (block categories token)) := by
  by_cases fits : Numeral.Fits token.number ∧ Numeral.Fits token.line
  · rw [readBlock_of_fits index fits.1 fits.2]
    cases kindOf? (typeName categories token.kind) token.lexeme with
    | none => exact .inr ⟨_, _, _, rfl⟩
    | some kind => exact .inl ⟨_, rfl⟩
  · exact .inr (readBlock_refused categories index fits)

end Record

end MiniC
