import Mathlib.Data.List.Forall2
import MiniC.Proofs.RecordFields
import MiniC.Proofs.RecordRoundTrip
import MiniC.Token.Stream

/-!
# The format of a record file

A record file is accepted exactly if its lines are those of a root line, of records and of
a closing root line, and no mark of the end stands before another one that is last.  Then
its tokens are those that the records hold, closed with a mark of the end.  Any other file
is refused for one of its lines, or for a code point with too many digits in one of them.
-/

namespace MiniC.Record

open Text (Around)

/-! ## Records -/

/-- The lines of a record in order. -/
def Block.lines (block : Block) : List (List Char) :=
  [block.opening, block.number, block.value, block.type, block.line, block.valid, block.closing]

/-- A record that holds a token. -/
structure Holds (block : Block) (token : Token) : Prop where
  opening : Around Text.isBlank recordOpen.toList block.opening
  closing : Around Text.isBlank recordClose.toList block.closing
  number : ∃ content, FieldHolds "number" block.number content ∧
    Numeral.integer? content.toList = some token.number
  value : FieldHolds "value" block.value token.lexeme
  type : ∃ name, FieldHolds "type" block.type name ∧ Names token.lexeme name token.kind
  line : ∃ content, FieldHolds "line" block.line content ∧
    Numeral.integer? content.toList = some token.line
  valid : FieldHolds "valid" block.valid (if token.wellFormed then "true" else "false")

/-- Read the fields of a record. -/
def readFields (index : Nat) (block : Block) : Except Error Token := do
  let number ← readField "number" (index + 1) block.number
  let lexeme ← readField "value" (index + 2) block.value
  let type ← readField "type" (index + 3) block.type
  let line ← readField "line" (index + 4) block.line
  let valid ← readField "valid" (index + 5) block.valid
  let number ← readInteger number (index + 1) block.number
  let line ← readInteger line (index + 4) block.line
  match kindOf? type lexeme with
  | none => throw (malformed (.kind type lexeme) (index + 3) block.type)
  | some kind =>
      if valid = "true" then
        return { kind, lexeme, line, wellFormed := true, number }
      else if valid = "false" then
        return { kind, lexeme, line, wellFormed := false, number }
      else
        throw (malformed (.validity valid) (index + 5) block.valid)

/-- The tags of a record are looked at before its fields. -/
theorem readBlock_eq (index : Nat) (block : Block) :
    readBlock index block =
      if isTag recordOpen block.opening = true then
        if isTag recordClose block.closing = true then readFields index block
        else .error (malformed .closing (index + 6) block.closing)
      else .error (malformed .opening index block.opening) := by
  unfold readBlock
  split
  · split
    · rfl
    · rfl
  · rfl

theorem readFields_eq_ok_iff {index : Nat} {block : Block} {token : Token} :
    readFields index block = .ok token ↔
      (∃ content, FieldHolds "number" block.number content ∧
        Numeral.integer? content.toList = some token.number) ∧
      FieldHolds "value" block.value token.lexeme ∧
      (∃ name, FieldHolds "type" block.type name ∧ Names token.lexeme name token.kind) ∧
      (∃ content, FieldHolds "line" block.line content ∧
        Numeral.integer? content.toList = some token.line) ∧
      FieldHolds "valid" block.valid (if token.wellFormed then "true" else "false") := by
  simp only [readFields, bind_eq_ok_iff, readField_eq_ok_iff, readInteger_eq_ok_iff]
  constructor
  · rintro ⟨number, numberHeld, lexeme, value, type, typeHeld, line, lineHeld, valid, validHeld, n,
      numberRead, m, lineRead, read⟩
    split at read
    · cases read
    next kind found =>
      have names := kindOf?_eq_some_iff.1 found
      split at read
      next flagged =>
        obtain rfl := Except.ok.inj read
        exact ⟨⟨_, numberHeld, numberRead⟩, value, ⟨_, typeHeld, names⟩, ⟨_, lineHeld, lineRead⟩,
          flagged ▸ validHeld⟩
      next =>
        split at read
        next flagged =>
          obtain rfl := Except.ok.inj read
          exact ⟨⟨_, numberHeld, numberRead⟩, value, ⟨_, typeHeld, names⟩,
            ⟨_, lineHeld, lineRead⟩, flagged ▸ validHeld⟩
        next => cases read
  · rintro ⟨⟨number, numberHeld, numberRead⟩, value, ⟨type, typeHeld, names⟩,
      ⟨line, lineHeld, lineRead⟩, valid⟩
    refine ⟨number, numberHeld, token.lexeme, value, type, typeHeld, line, lineHeld, _, valid,
      token.number, numberRead, token.line, lineRead, ?_⟩
    rw [kindOf?_eq_some_iff.2 names]
    obtain ⟨kind, lexeme, place, wellFormed, n⟩ := token
    cases wellFormed <;> rfl

theorem readBlock_eq_ok_iff {index : Nat} {block : Block} {token : Token} :
    readBlock index block = .ok token ↔ Holds block token := by
  rw [readBlock_eq]
  constructor
  · intro read
    split at read
    next opening =>
      split at read
      next closing =>
        obtain ⟨number, value, type, line, valid⟩ := readFields_eq_ok_iff.1 read
        exact ⟨(isTag_iff (by decide)).1 opening, (isTag_iff (by decide)).1 closing, number, value,
          type, line, valid⟩
      next => cases read
    next => cases read
  · rintro ⟨opening, closing, number, value, type, line, valid⟩
    rw [if_pos ((isTag_iff (by decide)).2 opening), if_pos ((isTag_iff (by decide)).2 closing)]
    exact readFields_eq_ok_iff.2 ⟨number, value, type, line, valid⟩

/-- A line among others is at fault for an error. -/
def Faulty (index : Nat) (lines : List (List Char)) (error : Error) : Prop :=
  ∃ offset line, lines[offset]? = some line ∧ AtFault (index + offset) line error

theorem Faulty.front {index : Nat} {front : List (List Char)} {error : Error}
    (faulty : Faulty index front error) (rest : List (List Char)) :
    Faulty index (front ++ rest) error := by
  obtain ⟨offset, line, found, atFault⟩ := faulty
  refine ⟨offset, line, ?_, atFault⟩
  rw [List.getElem?_append_left (List.getElem?_eq_some_iff.1 found).1, found]

theorem Faulty.behind {index : Nat} (front : List (List Char)) {rest : List (List Char)}
    {error : Error} (faulty : Faulty (index + front.length) rest error) :
    Faulty index (front ++ rest) error := by
  obtain ⟨offset, line, found, atFault⟩ := faulty
  refine ⟨front.length + offset, line, ?_, by rwa [← Nat.add_assoc]⟩
  rw [List.getElem?_append_right (Nat.le_add_right _ _), Nat.add_sub_cancel_left, found]

/-- A step that is refused only for one of some lines. -/
def Faults {α : Type} (index : Nat) (lines : List (List Char)) (step : Except Error α) : Prop :=
  ∀ error, step = .error error → Faulty index lines error

namespace Faults

variable {α β : Type} {index offset : Nat} {lines : List (List Char)} {line : List Char}
  {step : Except Error α} {next : α → Except Error β}

theorem ok {value : α} : Faults index lines (.ok value) :=
  fun _ refused => nomatch refused

theorem bind (first : Faults index lines step) (more : ∀ value, Faults index lines (next value)) :
    Faults index lines (step >>= next) := by
  intro error refused
  obtain failed | ⟨value, -, later⟩ := bind_eq_error_iff.1 refused
  · exact first error failed
  · exact more value error later

variable (found : lines[offset]? = some line)

include found

theorem malformed {flaw : Flaw} :
    Faults index lines (.error (malformed flaw (index + offset) line) : Except Error α) := by
  rintro _ ⟨⟩
  exact ⟨offset, line, found, .shown flaw⟩

theorem field {name : String} : Faults index lines (readField name (index + offset) line) :=
  fun _ refused => ⟨offset, line, found, readField_atFault refused⟩

theorem integer {content : String} :
    Faults index lines (readInteger content (index + offset) line) :=
  fun _ refused => ⟨offset, line, found, readInteger_atFault refused⟩

end Faults

theorem readFields_faults {index : Nat} {block : Block} :
    Faults index block.lines (readFields index block) := by
  refine .bind (.field rfl) fun number => .bind (.field rfl) fun lexeme => ?_
  refine .bind (.field rfl) fun type => .bind (.field rfl) fun line => ?_
  refine .bind (.field rfl) fun valid => .bind (.integer rfl) fun _ => .bind (.integer rfl) ?_
  intro _
  split
  · exact .malformed rfl
  · split
    · exact .ok
    · split
      · exact .ok
      · exact .malformed rfl

/-- A record that is refused has a line at fault. -/
theorem readBlock_faults {index : Nat} {block : Block} :
    Faults index block.lines (readBlock index block) := by
  rw [readBlock_eq]
  split
  · split
    · exact readFields_faults
    · exact .malformed rfl
  · exact .malformed (rfl : block.lines[0]? = some block.opening)

/-! ## Files -/

theorem readBlocks_eq_ok_iff {index : Nat} {lines : List (List Char)} {tokens : List Token} :
    readBlocks index lines = .ok tokens ↔
      ∃ blocks, lines = blocks.flatMap Block.lines ∧ List.Forall₂ Holds blocks tokens := by
  fun_induction readBlocks index lines generalizing tokens with
  | case1 index =>
      constructor
      · intro read
        obtain rfl := Except.ok.inj read
        exact ⟨[], rfl, .nil⟩
      · rintro ⟨blocks, lines, holds⟩
        cases holds with
        | nil => rfl
        | cons => cases lines
  | case2 index opening number value type line valid closing rest induction =>
      simp only [bind_eq_ok_iff, readBlock_eq_ok_iff, induction]
      constructor
      · rintro ⟨token, first, others, ⟨blocks, rfl, later⟩, read⟩
        obtain rfl := Except.ok.inj read
        exact ⟨_ :: blocks, rfl, .cons first later⟩
      · rintro ⟨blocks, lines, holds⟩
        cases holds with
        | nil => cases lines
        | cons first later =>
            cases lines
            exact ⟨_, first, _, ⟨_, rfl, later⟩, rfl⟩
  | case3 index line rest short =>
      refine iff_of_false (fun read => nomatch read) ?_
      rintro ⟨blocks, lines, holds⟩
      cases holds with
      | nil => cases lines
      | cons first later =>
          obtain ⟨rfl, parts⟩ := List.cons.inj lines
          exact short _ _ _ _ _ _ _ parts

theorem readBlocks_faults {index : Nat} {lines : List (List Char)} :
    Faults index lines (readBlocks index lines) := by
  fun_induction readBlocks index lines with
  | case1 => exact .ok
  | case2 index opening number value type line valid closing rest induction =>
      refine .bind (fun error refused => ?_) fun _ => .bind (fun error refused => ?_) fun _ => .ok
      · exact (readBlock_faults error refused).front rest
      · exact .behind [opening, number, value, type, line, valid, closing] (induction error refused)
  | case3 index line rest short =>
      exact .malformed (rfl : (line :: rest)[0]? = some line)

/-- The lines of a record file and the tokens that its records hold. -/
inductive Formatted : List (List Char) → List Token → Prop
  | file {first last : List Char} {blocks : List Block} {tokens : List Token}
      (opens : Around Text.isBlank rootOpen.toList first)
      (closes : Around Text.isBlank rootClose.toList last)
      (records : List.Forall₂ Holds blocks tokens) :
      Formatted (first :: (blocks.flatMap Block.lines ++ [last])) tokens

/-- An error names a line of a file, or the first line if there is none, and shows it; or there
is a code point with too many digits in a line. -/
inductive Blames (lines : List (List Char)) : Error → Prop
  | line (flaw : Flaw) {index : Nat} (inside : index + 1 ≤ max 1 lines.length) :
      Blames lines (.malformed flaw index (lines[index]?.map String.ofList))
  | oversized {digits : Nat} {line : List Char} (member : line ∈ lines)
      (holds : Markup.HoldsOversized digits line) : Blames lines (.oversizedReference ⟨digits⟩)

theorem Faulty.blames {lines : List (List Char)} {error : Error} (faulty : Faulty 0 lines error) :
    Blames lines error := by
  obtain ⟨offset, line, found, atFault⟩ := faulty
  rw [Nat.zero_add] at atFault
  have inside := (List.getElem?_eq_some_iff.1 found).1
  cases atFault with
  | shown flaw =>
      have blames : Blames lines (.malformed flaw offset (lines[offset]?.map String.ofList)) :=
        .line flaw (by omega)
      rw [found] at blames
      exact blames
  | oversized holds => exact .oversized (List.mem_of_getElem? found) holds

theorem not_isTag_rootClose {line : List Char} (opens : isTag rootOpen line = true) :
    isTag rootClose line = false := by
  rw [isTag, beq_iff_eq] at opens
  rw [isTag, opens]
  decide

theorem readTokens_eq_ok_iff {text : String} {tokens : List Token} :
    readTokens text = .ok tokens ↔ Formatted (contentLines text) tokens := by
  unfold readTokens
  constructor
  · intro read
    split at read
    · cases read
    next first rest parts =>
      split at read
      next opens =>
        dsimp only at read
        split at read
        next closes =>
          rcases List.eq_nil_or_concat rest with rfl | ⟨body, last, rfl⟩
          · rw [List.getLast?_nil, Option.getD_none, not_isTag_rootClose opens] at closes
            cases closes
          · rw [List.concat_eq_append] at *
            rw [List.getLast?_concat, Option.getD_some] at closes
            rw [List.dropLast_concat] at read
            obtain ⟨blocks, rfl, records⟩ := readBlocks_eq_ok_iff.1 read
            rw [parts]
            exact .file ((isTag_iff (by decide)).1 opens) ((isTag_iff (by decide)).1 closes) records
        next => cases read
      next => cases read
  · intro formatted
    generalize contentLines text = lines at formatted
    cases formatted with
    | file opens closes records =>
        simp only [(isTag_iff (by decide)).2 opens, (isTag_iff (by decide)).2 closes, if_true,
          List.getLast?_concat, Option.getD_some, List.dropLast_concat]
        exact readBlocks_eq_ok_iff.2 ⟨_, rfl, records⟩

theorem readTokens_blames {text : String} {error : Error}
    (refused : readTokens text = .error error) : Blames (contentLines text) error := by
  unfold readTokens at refused
  split at refused
  next none =>
    cases refused
    rw [none]
    exact .line _ (Nat.le_refl _)
  next first rest parts =>
    rw [parts]
    split at refused
    next =>
      dsimp only at refused
      rcases List.eq_nil_or_concat rest with rfl | ⟨body, last, rfl⟩
      · split at refused
        · cases refused
        · cases refused
          exact Faulty.blames ⟨0, first, rfl, .shown _⟩
      · rw [List.concat_eq_append] at *
        rw [List.getLast?_concat, Option.getD_some, List.dropLast_concat] at refused
        split at refused
        · exact (Faulty.behind [first] ((readBlocks_faults _ refused).front [last])).blames
        · cases refused
          refine Faulty.blames ⟨(body ++ [last]).length, last, by simp, ?_⟩
          rw [Nat.zero_add]
          exact .shown _
    next =>
      cases refused
      exact Faulty.blames ⟨0, first, rfl, .shown _⟩

/-! ## The mark of the end -/

/-- Tokens that end with a mark of the end although another one stands before it. -/
def EndsEarly (tokens : List Token) : Prop :=
  (∃ last, tokens.getLast? = some last ∧ last.kind = .endOfInput) ∧
    ∃ other ∈ tokens.dropLast, other.kind = .endOfInput

/-- Tokens with a mark of the end behind them, unless they end with one already, and the first
number that is still free.  The mark carries the line of the last token. -/
def closed (tokens : List Token) (free : Nat) : List Token × Nat :=
  match tokens.getLast? with
  | none => ([.endOfInput 1 free], free + 1)
  | some last =>
      if last.kind = .endOfInput then (tokens, free)
      else (tokens ++ [.endOfInput last.line free], free + 1)

theorem getLast?_closed (tokens : List Token) (free : Nat) :
    (closed tokens free).1.getLast?.map Token.kind = some .endOfInput := by
  unfold closed
  split
  · rfl
  next last known =>
    split
    next marked => simp [known, marked]
    next => simp [Token.endOfInput]

theorem isSome_ofList?_closed (tokens : List Token) (free : Nat) :
    (TokenStream.ofList? (closed tokens free).1).isSome = true := by
  simp [TokenStream.ofList?, getLast?_closed tokens free]

section Terminate

variable {firstLine : Option String} {tokens : List Token} {free : Nat}

theorem terminate_eq_ok_iff {answer : List Token × Nat} :
    terminate firstLine tokens free = .ok answer ↔
      ¬ EndsEarly tokens ∧ closed tokens free = answer := by
  unfold terminate closed EndsEarly
  cases tokens.getLast? with
  | none => simp
  | some last =>
      by_cases marked : last.kind = .endOfInput
      · by_cases early : ∃ other ∈ tokens.dropLast, other.kind = .endOfInput
        · simp [marked, early]
        · simp [marked, early]
      · simp [marked]

theorem terminate_eq_error {error : Error}
    (refused : terminate firstLine tokens free = .error error) :
    tokens ≠ [] ∧ error = .malformed .earlyEnd 0 firstLine := by
  unfold terminate at refused
  split at refused
  · cases refused
  next last known =>
    split at refused
    · cases refused
    · split at refused
      · cases refused
        exact ⟨fun none => by simp [none] at known, rfl⟩
      · cases refused

end Terminate

/-- A record file is accepted exactly if it has the format and no mark of the end stands before
another one that is last.  Its tokens are those that its records hold, closed with a mark of the
end, so that they are always those of a stream.  It is refused for one of its lines, which is
named and shown, and otherwise only for a code point with too many digits. -/
theorem load_exact (text : String) (free : Nat) :
    (∀ answer, load text free = .ok answer ↔
      ∃ tokens, Formatted (contentLines text) tokens ∧ ¬ EndsEarly tokens ∧
        closed tokens free = answer) ∧
    (∀ answer, load text free = .ok answer → (TokenStream.ofList? answer.1).isSome = true) ∧
    ∀ error, load text free = .error error → Blames (contentLines text) error := by
  have accepts (answer : List Token × Nat) : load text free = .ok answer ↔
      ∃ tokens, Formatted (contentLines text) tokens ∧ ¬ EndsEarly tokens ∧
        closed tokens free = answer := by
    simp only [load, bind_eq_ok_iff, readTokens_eq_ok_iff, terminate_eq_ok_iff]
  refine ⟨accepts, fun answer loaded => ?_, fun error refused => ?_⟩
  · obtain ⟨tokens, -, -, rfl⟩ := (accepts answer).1 loaded
    exact isSome_ofList?_closed tokens free
  · obtain failed | ⟨tokens, read, failed⟩ := bind_eq_error_iff.1 refused
    · exact readTokens_blames failed
    · obtain ⟨-, rfl⟩ := terminate_eq_error failed
      rw [List.head?_eq_getElem?]
      exact .line _ (Nat.le_max_left _ _)

/-! ## Code points with too many digits -/

/-- A code point in base ten, written with ones only. -/
def onesReference (count : Nat) : List Char :=
  '&' :: '#' :: '1' :: (List.replicate count '1' ++ [';'])

theorem unescape_onesReference {count : Nat} (many : Markup.Reference.maxDecimalDigits ≤ count) :
    Markup.unescape (onesReference count) = .error ⟨count + 1⟩ := by
  have digits : ('1' :: (List.replicate count '1' ++ [';'])).takeWhile Char.isDigit =
      '1' :: List.replicate count '1' := by
    have ones : ∀ c ∈ '1' :: List.replicate count '1', c.isDigit = true := by
      rw [← List.replicate_succ]
      exact fun c member => List.eq_of_mem_replicate member ▸ by decide
    rw [← List.cons_append, List.takeWhile_append_of_pos ones]
    simp
  have scanned : ∃ length,
      Markup.Reference.scan? ('#' :: '1' :: (List.replicate count '1' ++ [';'])) =
        some (.decimal ('1' :: List.replicate count '1'), length) := by
    have decimal (rest : List Char) : Markup.Reference.scan? ('#' :: '1' :: rest) =
        Markup.Reference.numeric .decimal Char.isDigit 1 ('1' :: rest) := by
      simp [Markup.Reference.scan?]
    simp only [decimal, Markup.Reference.numeric, digits]
    exact ⟨_, rfl⟩
  obtain ⟨length, scanned⟩ := scanned
  have oversized : (Markup.Reference.decimal ('1' :: List.replicate count '1')).text =
      .error ⟨count + 1⟩ := by
    simp only [Markup.Reference.text, List.length_cons, List.length_replicate]
    exact if_pos (Nat.lt_succ_of_le many)
  rw [Markup.unescape, onesReference, Markup.unescapeFrom, scanned]
  dsimp only
  rw [oversized]
  rfl

/-- A record whose number is a code point, written with ones only. -/
def oversizedBlock (count : Nat) : List String :=
  [recordOpen, fieldLine "number" (String.ofList (onesReference count)), fieldLine "value" "a",
    fieldLine "type" "IDENTIFIER", fieldLine "line" "1", fieldLine "valid" "true", recordClose]

/-- The file with this record. -/
def oversizedFile (count : Nat) : String :=
  String.join ((rootOpen :: (oversizedBlock count ++ [rootClose])).map (· ++ "\n"))

theorem contentLines_oversizedFile (count : Nat) :
    contentLines (oversizedFile count) =
      rootOpen.toList :: ((oversizedBlock count).map String.toList ++ [rootClose.toList]) := by
  have number : Unbroken (String.ofList (onesReference count)) := by
    intro c member
    simp only [String.toList_ofList, onesReference, List.mem_cons, List.mem_append,
      List.mem_replicate, List.not_mem_nil, or_false] at member
    rcases member with rfl | rfl | rfl | ⟨-, rfl⟩ | rfl <;> decide
  have field {name content : String} (named : Unbroken name) (filled : Unbroken content) :
      readLines (fieldLine name content) = [(fieldLine name content).toList] :=
    readLines_plain (unbroken_fieldLine named filled)
  have read : (rootOpen :: (oversizedBlock count ++ [rootClose])).flatMap readLines =
      rootOpen.toList :: ((oversizedBlock count).map String.toList ++ [rootClose.toList]) := by
    have tag {text : String} (known : text ∈ tags) : readLines text = [text.toList] :=
      readLines_plain ((by decide : ∀ text ∈ tags, Unbroken text) text known)
    simp only [oversizedBlock, List.cons_append, List.nil_append, List.flatMap_cons,
      List.flatMap_nil, tag (by decide : rootOpen ∈ tags), tag (by decide : rootClose ∈ tags),
      tag (by decide : recordOpen ∈ tags), tag (by decide : recordClose ∈ tags),
      field (by decide : Unbroken "number") number,
      field (by decide : Unbroken "value") (by decide : Unbroken "a"),
      field (by decide : Unbroken "type") (by decide : Unbroken "IDENTIFIER"),
      field (by decide : Unbroken "line") (by decide : Unbroken "1"),
      field (by decide : Unbroken "valid") (by decide : Unbroken "true"), List.map_cons,
      List.map_nil]
  have filled : rootClose.toList.all Text.isBlank = false := by decide
  rw [contentLines, oversizedFile, lines_join, read, List.reverse_cons, List.reverse_append,
    List.reverse_singleton, List.singleton_append, List.cons_append,
    List.dropWhile_cons_of_neg (by simp [filled])]
  simp

/-- A file with too many digits in a code point is refused, and no line is named. -/
theorem load_oversizedFile {count : Nat} (many : Markup.Reference.maxDecimalDigits ≤ count)
    (free : Nat) : load (oversizedFile count) free = .error (.oversizedReference ⟨count + 1⟩) := by
  have field : readField "number" (1 + 1)
      (fieldLine "number" (String.ofList (onesReference count))).toList =
        .error (.oversizedReference ⟨count + 1⟩) := by
    obtain ⟨filled, starts, ends⟩ :=
      solid_fieldLine "number" (String.ofList (onesReference count))
    have whole : Text.trim isFieldBlank
        (fieldLine "number" (String.ofList (onesReference count))).toList =
          (fieldLine "number" (String.ofList (onesReference count))).toList :=
      (Text.trim_eq_iff starts ends filled).2 ⟨[], [], by simp, by simp, by simp⟩
    simp only [readField, whole]
    simp only [toList_fieldLine, between?_append, String.toList_ofList,
      unescape_onesReference many]
  have block : readBlocks 1 ((oversizedBlock count).map String.toList) =
      .error (.oversizedReference ⟨count + 1⟩) := by
    have opening : isTag recordOpen recordOpen.toList = true := by decide
    have closing : isTag recordClose recordClose.toList = true := by decide
    simp only [oversizedBlock, List.map_cons, List.map_nil, readBlocks, readBlock_eq, opening,
      closing, if_true, readFields, field]
    rfl
  have opening : isTag rootOpen rootOpen.toList = true := by decide
  have closing : isTag rootClose rootClose.toList = true := by decide
  simp only [load, readTokens, contentLines_oversizedFile, opening, closing, if_true,
    List.getLast?_concat, Option.getD_some, List.dropLast_concat, block]
  rfl

/-- A file of one record is refused, and no line is named. -/
theorem oversizedFile_unnamed :
    load (oversizedFile 4300) 0 = .error (.oversizedReference ⟨4301⟩) :=
  load_oversizedFile (by decide) 0

end MiniC.Record
