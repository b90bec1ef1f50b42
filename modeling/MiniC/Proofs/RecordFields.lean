import Mathlib.Data.List.DropRight
import MiniC.Proofs.RecordBlocks

/-!
# The format of a field

What a line of a record has to be, said without a reader: a tag or a field with blanks
around it, the content of a field being what its references stand for.  A reader accepts
exactly these lines.  It finds fault with any other line, and besides with a code point
that is written with too many digits.
-/

namespace MiniC

theorem bind_eq_ok_iff {ε α β : Type} {first : Except ε α} {next : α → Except ε β} {value : β} :
    (first >>= next) = .ok value ↔ ∃ between, first = .ok between ∧ next between = .ok value := by
  cases first <;> simp [bind, Except.bind]

theorem bind_eq_error_iff {ε α β : Type} {first : Except ε α} {next : α → Except ε β} {error : ε} :
    (first >>= next) = .error error ↔
      first = .error error ∨ ∃ between, first = .ok between ∧ next between = .error error := by
  cases first <;> simp [bind, Except.bind]

namespace Text

/-- A line that holds a text with only blanks around it. -/
def Around (isBlank : Char → Bool) (core line : List Char) : Prop :=
  ∃ before after, line = before ++ (core ++ after) ∧ (∀ c ∈ before, isBlank c = true) ∧
    ∀ c ∈ after, isBlank c = true

section Trim

variable {isBlank : Char → Bool} {core line : List Char}

/-- Only blanks are taken off a line. -/
theorem around_trim (isBlank : Char → Bool) (line : List Char) :
    Around isBlank (trim isBlank line) line := by
  refine ⟨line.takeWhile isBlank, (line.dropWhile isBlank).rtakeWhile isBlank, ?_,
    List.all_eq_true.1 List.all_takeWhile, fun c => List.mem_rtakeWhile_imp⟩
  have ending : trim isBlank line ++ (line.dropWhile isBlank).rtakeWhile isBlank =
      line.dropWhile isBlank :=
    List.rdropWhile_append_rtakeWhile
  rw [ending, List.takeWhile_append_dropWhile]

/-- A text that neither starts nor ends with a blank is all that is left of its line. -/
theorem Around.trim_eq (around : Around isBlank core line)
    (starts : ∀ c ∈ core.head?, isBlank c = false)
    (ends : ∀ c ∈ core.getLast?, isBlank c = false) (filled : core ≠ []) :
    trim isBlank line = core := by
  obtain ⟨before, after, rfl, beforeBlank, afterBlank⟩ := around
  obtain ⟨first, rest, rfl⟩ := List.exists_cons_of_ne_nil filled
  have firstSolid : isBlank first = false := starts first rfl
  have front : (before ++ (first :: rest ++ after)).dropWhile isBlank = first :: rest ++ after := by
    rw [List.dropWhile_append_of_pos beforeBlank, List.cons_append,
      List.dropWhile_cons_of_neg (by simp [firstSolid])]
  obtain ⟨init, last, parts⟩ : ∃ init last, first :: rest = init ++ [last] :=
    ⟨_, _, (List.dropLast_append_getLast filled).symm⟩
  have lastSolid : isBlank last = false := ends last (by simp [parts])
  rw [trim, front, parts, trimEnd, List.reverse_append,
    List.dropWhile_append_of_pos (by simpa using afterBlank), List.reverse_append,
    List.reverse_singleton, List.singleton_append,
    List.dropWhile_cons_of_neg (by simp [lastSolid])]
  simp

theorem trim_eq_iff (starts : ∀ c ∈ core.head?, isBlank c = false)
    (ends : ∀ c ∈ core.getLast?, isBlank c = false) (filled : core ≠ []) :
    trim isBlank line = core ↔ Around isBlank core line :=
  ⟨fun same => same ▸ around_trim isBlank line, fun around => around.trim_eq starts ends filled⟩

end Trim

end Text

namespace Markup

/-- A text that holds a code point in base ten with more digits than a numeral may have. -/
def HoldsOversized (digits : Nat) (text : List Char) : Prop :=
  Reference.maxDecimalDigits < digits ∧
    ∃ code, code.length = digits ∧ (∀ c ∈ code, c.isDigit = true) ∧ '&' :: '#' :: code <:+: text

theorem HoldsOversized.within {digits : Nat} {text more : List Char}
    (oversized : HoldsOversized digits text) (inside : text <:+: more) :
    HoldsOversized digits more := by
  obtain ⟨many, code, counted, each, found⟩ := oversized
  exact ⟨many, code, counted, each, found.trans inside⟩

theorem Reference.numeric_eq_some {build : List Char → Reference} {isDigit : Char → Bool}
    {extra length : Nat} {text : List Char} {reference : Reference}
    (found : numeric build isDigit extra text = some (reference, length)) :
    reference = build (text.takeWhile isDigit) := by
  simp only [numeric] at found
  split at found
  · cases found
  · exact (Prod.mk.inj (Option.some.inj found)).1.symm

theorem Reference.scan?_decimal {text digits : List Char} {length : Nat}
    (found : scan? text = some (.decimal digits, length)) :
    (∀ c ∈ digits, c.isDigit = true) ∧ '#' :: digits <+: text := by
  unfold scan? at found
  split at found
  · exact nomatch numeric_eq_some found
  · exact nomatch numeric_eq_some found
  · have same := numeric_eq_some found
    obtain rfl := Reference.decimal.inj same
    exact ⟨List.all_eq_true.1 List.all_takeWhile,
      List.cons_prefix_cons.2 ⟨rfl, List.takeWhile_prefix _⟩⟩
  · simp only [name?] at found
    split at found
    · cases found
    · cases (Prod.mk.inj (Option.some.inj found)).1

theorem unescapeFrom_error {skipped : Nat} {text : List Char} {oversized : OversizedReference}
    (failed : unescapeFrom skipped text = .error oversized) :
    HoldsOversized oversized.digits text := by
  fun_induction unescapeFrom skipped text with
  | case1 => cases failed
  | case2 skipped c rest induction =>
      exact (induction failed).within (List.suffix_cons c rest).isInfix
  | case3 rest none induction =>
      obtain later | ⟨_, -, done⟩ := bind_eq_error_iff.1 failed
      · exact (induction later).within (List.suffix_cons _ rest).isInfix
      · cases done
  | case4 rest reference length scanned induction =>
      obtain shown | ⟨text, -, later⟩ := bind_eq_error_iff.1 failed
      · cases reference with
        | decimal digits =>
            simp only [Reference.text] at shown
            split at shown
            next many =>
              cases shown
              obtain ⟨each, front⟩ := Reference.scan?_decimal scanned
              have whole : '&' :: '#' :: digits <+: '&' :: rest :=
                List.cons_prefix_cons.2 ⟨rfl, front⟩
              exact ⟨many, digits, rfl, each, whole.isInfix⟩
            next => cases shown
        | hexadecimal digits => cases shown
        | named name => cases shown
      · obtain later | ⟨_, -, done⟩ := bind_eq_error_iff.1 later
        · exact (induction later).within (List.suffix_cons _ rest).isInfix
        · cases done
  | case5 c rest _ induction =>
      obtain later | ⟨_, -, done⟩ := bind_eq_error_iff.1 failed
      · exact (induction later).within (List.suffix_cons c rest).isInfix
      · cases done

end Markup

namespace Kind

theorem category_of_ofCategory? {type lexeme : String} {kind : Kind}
    (found : ofCategory? type lexeme = some kind) : type = kind.category := by
  have words : ∀ kind ∈ keywords, kind.category = "keyword" := by decide +kernel
  have marks : ∀ kind ∈ punctuators, kind.category = "punctuator" := by decide +kernel
  unfold ofCategory? at found
  split at found
  next literal known =>
    obtain rfl := Option.some.inj found
    exact (by simpa using List.find?_some known : literal.category = type).symm
  next =>
    split at found
    next ends =>
      obtain rfl := Option.some.inj found
      exact ends
    next =>
      split at found
      next word => rw [word, words kind (List.mem_of_find?_eq_some found)]
      next =>
        split at found
        next mark => rw [mark, marks kind (List.mem_of_find?_eq_some found)]
        next => cases found

end Kind

namespace Record

open Text (Around)

/-! ## Kinds -/

/-- The names of a kind in a record: its own, and the coarse one together with the spelling of
the kind, where that is fixed. -/
inductive Names (lexeme : String) : String → Kind → Prop
  | fine (kind : Kind) : Names lexeme kind.name kind
  | coarse {kind : Kind} (spelt : ∀ text, kind.spelling? = some text → lexeme = text) :
      Names lexeme kind.category kind

theorem kindOf?_eq_some_iff {type lexeme : String} {kind : Kind} :
    kindOf? type lexeme = some kind ↔ Names lexeme type kind := by
  constructor
  · intro found
    unfold kindOf? at found
    split at found
    next named known =>
      obtain rfl := Option.some.inj found
      have same : named.name = type := by simpa using List.find?_some known
      exact same ▸ .fine named
    next =>
      obtain rfl := Kind.category_of_ofCategory? found
      exact .coarse (Kind.ofCategory?_eq_some_iff.1 found)
  · intro names
    cases names with
    | fine kind => rw [kindOf?, Kind.ofName?_name]
    | coarse spelt =>
        rw [kindOf?, Kind.ofName?_category]
        exact Kind.ofCategory?_eq_some_iff.2 spelt

/-! ## Tags -/

/-- A text that neither starts nor ends with a blank. -/
def Solid (isBlank : Char → Bool) (text : List Char) : Prop :=
  text ≠ [] ∧ (∀ c ∈ text.head?, isBlank c = false) ∧ ∀ c ∈ text.getLast?, isBlank c = false

instance (isBlank : Char → Bool) (text : List Char) : Decidable (Solid isBlank text) :=
  decidable_of_iff (text ≠ [] ∧ text.head?.any isBlank = false ∧ text.getLast?.any isBlank = false)
    (by simp only [Solid, ← Bool.not_eq_true, Option.any_eq_true, not_exists, not_and,
      Option.mem_def])

/-- The tags of a record file. -/
def tags : List String :=
  [rootOpen, rootClose, recordOpen, recordClose]

theorem isTag_iff {tag : String} (known : tag ∈ tags) {line : List Char} :
    isTag tag line = true ↔ Around Text.isBlank tag.toList line := by
  have each : ∀ tag ∈ tags, Solid Text.isBlank tag.toList := by decide
  obtain ⟨filled, starts, ends⟩ := each tag known
  rw [isTag, beq_iff_eq, Text.trim_eq_iff starts ends filled]

/-! ## Fields -/

/-- A line that is a field with blanks around it, the references of its content standing for a
text. -/
def FieldHolds (name : String) (line : List Char) (text : String) : Prop :=
  ∃ content : String, Around isFieldBlank (fieldLine name content).toList line ∧
    Markup.unescape content.toList = .ok text.toList

theorem between?_eq_some_iff {opening closing text content : List Char} :
    between? opening closing text = some content ↔ text = opening ++ (content ++ closing) := by
  constructor
  · intro found
    unfold between? at found
    split at found
    next front =>
      obtain ⟨body, rfl⟩ := List.isPrefixOf_iff_prefix.1 front
      dsimp only at found
      rw [List.drop_left] at found
      split at found
      next back =>
        obtain ⟨inner, rfl⟩ := List.isSuffixOf_iff_suffix.1 back
        obtain rfl := Option.some.inj found
        simp
      next => cases found
    next => cases found
  · rintro rfl
    exact between?_append opening content closing

theorem solid_fieldLine (name content : String) :
    Solid isFieldBlank (fieldLine name content).toList := by
  have shape : (fieldLine name content).toList =
      '<' :: (name.toList ++ '>' :: (content.toList ++ '<' :: '/' :: name.toList) ++ ['>']) := by
    simp [toList_fieldLine]
  rw [shape]
  refine ⟨List.cons_ne_nil _ _, ?_, ?_⟩
  · simp only [List.head?_cons, Option.mem_some_iff, forall_eq']
    decide
  · rw [← List.cons_append, List.getLast?_concat]
    simp only [Option.mem_some_iff, forall_eq']
    decide

theorem readField_eq_ok_iff {name : String} {index : Nat} {line : List Char} {text : String} :
    readField name index line = .ok text ↔ FieldHolds name line text := by
  constructor
  · intro read
    simp only [readField] at read
    split at read
    · cases read
    next content found =>
      split at read
      · cases read
      next shown unescaped =>
        obtain rfl := Except.ok.inj read
        refine ⟨String.ofList content, ?_, by simpa using unescaped⟩
        rw [between?_eq_some_iff] at found
        rw [toList_fieldLine, String.toList_ofList, ← found]
        exact Text.around_trim isFieldBlank line
  · rintro ⟨content, around, unescaped⟩
    obtain ⟨filled, starts, ends⟩ := solid_fieldLine name content
    simp only [readField, around.trim_eq starts ends filled, toList_fieldLine, between?_append,
      unescaped, String.ofList_toList]

/-- A line is at fault for an error if the error shows it, or if a code point in it has too many
digits. -/
inductive AtFault (index : Nat) (line : List Char) : Error → Prop
  | shown (flaw : Flaw) : AtFault index line (malformed flaw index line)
  | oversized {digits : Nat} (holds : Markup.HoldsOversized digits line) :
      AtFault index line (.oversizedReference ⟨digits⟩)

theorem readField_atFault {name : String} {index : Nat} {line : List Char} {error : Error}
    (refused : readField name index line = .error error) : AtFault index line error := by
  simp only [readField] at refused
  split at refused
  · cases refused
    exact .shown _
  next content found =>
    split at refused
    next oversized failed =>
      cases refused
      rw [between?_eq_some_iff] at found
      obtain ⟨before, after, parts, -, -⟩ := Text.around_trim isFieldBlank line
      have inside : content <:+: Text.trim isFieldBlank line :=
        ⟨_, _, (List.append_assoc _ _ _).trans found.symm⟩
      have whole : Text.trim isFieldBlank line <:+: line :=
        ⟨before, after, (List.append_assoc _ _ _).trans parts.symm⟩
      exact .oversized ((Markup.unescapeFrom_error failed).within (inside.trans whole))
    next => cases refused

theorem readInteger_eq_ok_iff {content : String} {index : Nat} {line : List Char} {n : Int} :
    readInteger content index line = .ok n ↔ Numeral.integer? content.toList = some n := by
  unfold readInteger
  cases Numeral.integer? content.toList <;> simp

theorem readInteger_atFault {content : String} {index : Nat} {line : List Char} {error : Error}
    (refused : readInteger content index line = .error error) : AtFault index line error := by
  unfold readInteger at refused
  split at refused
  · cases refused
  · cases refused
    exact .shown _

end Record

end MiniC
