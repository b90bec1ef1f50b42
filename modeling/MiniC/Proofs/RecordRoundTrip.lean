import MiniC.Proofs.RecordBlocks

/-!
# Reading back what was written

Which token lists survive being written as records and read again.  A record
with a line break in its text is refused, whatever follows it: the part of the
line before the break has an opening tag and no closing one, and a record is
never read from its middle.
-/

namespace MiniC.Record

theorem Unbroken.append {first second : String} (left : Unbroken first) (right : Unbroken second) :
    Unbroken (first ++ second) := by
  intro c member
  rw [String.toList_append, List.mem_append] at member
  exact member.elim (left c) (right c)

theorem unbroken_fieldLine {name content : String} (named : Unbroken name)
    (filled : Unbroken content) : Unbroken (fieldLine name content) := by
  have bracket : Unbroken "<" := by decide
  have ending : Unbroken "</" := by decide
  have close : Unbroken ">" := by decide
  exact ((((bracket.append named).append close).append filled |>.append ending).append named).append
    close

theorem unbroken_toString (n : Int) : Unbroken (toString n) :=
  Numeral.forall_mem_toString (by decide) (by decide) n

theorem unbroken_escaped {text : String} (unbroken : Unbroken text) :
    Unbroken (Markup.escaped text) := by
  rw [Unbroken, Markup.escaped, String.toList_ofList]
  exact Markup.forall_mem_escape (by simp [Text.isLineBreak]) fun c member _ => unbroken c member

/-! ## The lines of a record -/

theorem bodyLines_cons (categories : Bool) (token : Token) (rest : List Token) :
    bodyLines categories (token :: rest) =
      (lines categories token).flatMap readLines ++ bodyLines categories rest := by
  simp [bodyLines]

/-- The lines of a record around the line of the text are read as they are written. -/
theorem flatMap_readLines_lines (categories : Bool) (token : Token) :
    (lines categories token).flatMap readLines =
      (block categories token).opening :: (block categories token).number ::
        (readLines (fieldLine "value" (Markup.escaped token.lexeme)) ++
          [(block categories token).type, (block categories token).line,
            (block categories token).valid, (block categories token).closing]) := by
  have opening : readLines recordOpen = [recordOpen.toList] := readLines_plain (by decide)
  have closing : readLines recordClose = [recordClose.toList] := readLines_plain (by decide)
  have field {name content : String} (named : Unbroken name) (filled : Unbroken content) :
      readLines (fieldLine name content) = [(fieldLine name content).toList] :=
    readLines_plain (unbroken_fieldLine named filled)
  have number := field (by decide : Unbroken "number")
    (unbroken_toString token.number)
  have type := field (by decide : Unbroken "type") fun c member =>
    (Kind.typeName_plain categories token.kind c member).2
  have line := field (by decide : Unbroken "line") (unbroken_toString token.line)
  have flag : Unbroken (if token.wellFormed then "true" else "false") := by
    cases token.wellFormed <;> decide
  have valid := field (by decide : Unbroken "valid") flag
  simp only [lines, List.flatMap_cons, List.flatMap_nil, opening, closing, number, type, line,
    valid, List.singleton_append]
  rfl

theorem readBlocks_cons {categories : Bool} {token : Token} (unbroken : Unbroken token.lexeme)
    (index : Nat) (rest : List Token) :
    readBlocks index (bodyLines categories (token :: rest)) = (do
      let read ← readBlock index (block categories token)
      let others ← readBlocks (index + recordLines) (bodyLines categories rest)
      return read :: others) := by
  have plain : Unbroken (fieldLine "value" (Markup.escaped token.lexeme)) :=
    unbroken_fieldLine (by decide) (unbroken_escaped unbroken)
  rw [bodyLines_cons, flatMap_readLines_lines, readLines_plain plain]
  rfl

/-- The line of a broken text is read as an opening tag and some text, and further lines. -/
theorem readLines_value_broken {lexeme : String} (broken : ¬ Unbroken lexeme) :
    ∃ text more, '<' ∉ text ∧
      readLines (fieldLine "value" (Markup.escaped lexeme)) = ('<' :: text) :: more := by
  obtain ⟨c, found⟩ : ∃ c, lexeme.toList.find? Text.isLineBreak = some c := by
    rw [← Option.isSome_iff_exists, List.find?_isSome]
    simpa [Unbroken] using broken
  obtain ⟨breaks, before, after, parts, first⟩ := List.find?_eq_some_iff_append.1 found
  have plain : ∀ c ∈ before, Text.isLineBreak c = false := fun c member => by
    simpa using first c member
  have ordinary : Markup.isMarkup c = false := by
    rcases Markup.escapeChar_cases c with ⟨rfl, _⟩ | ⟨rfl, _⟩ | ⟨rfl, _⟩ | ⟨ordinary, _⟩
    · exact absurd breaks (by decide)
    · exact absurd breaks (by decide)
    · exact absurd breaks (by decide)
    · exact ordinary
  have written : (fieldLine "value" (Markup.escaped lexeme)).toList =
      ('<' :: ("value>".toList ++ Markup.escape before)) ++
        c :: (Markup.escape after ++ "</value>".toList) := by
    rw [toList_fieldLine, Markup.escaped, String.toList_ofList, parts, Markup.escape_append,
      Markup.escape_cons, Markup.escapeChar_of_not_isMarkup ordinary]
    simp
  have unclosed : '<' ∉ "value>".toList ++ Markup.escape before := by
    rw [List.mem_append, not_or]
    exact ⟨by decide, Markup.opening_not_mem_escape before⟩
  have collected : ∀ c ∈ '<' :: ("value>".toList ++ Markup.escape before),
      Text.isLineBreak c = false := by
    rw [← List.cons_append, List.forall_mem_append]
    exact ⟨by simp [Text.isLineBreak],
      Markup.forall_mem_escape (by simp [Text.isLineBreak]) fun c member _ => plain c member⟩
  obtain ⟨more, split⟩ := readLines_broken written collected breaks
  exact ⟨_, more, unclosed, split⟩

/-- A record whose text is not closed is refused, whatever its other lines are. -/
theorem readBlock_unclosed (n : Int) (index : Nat) {text : List Char} (unclosed : '<' ∉ text)
    (type line valid closing : List Char) :
    Refused (readBlock index
      { opening := recordOpen.toList
        number := (fieldLine "number" (toString n)).toList
        value := '<' :: text, type, line, valid, closing }) := by
  have opening : isTag recordOpen recordOpen.toList = true := by decide
  have number := readField_plain
    (Numeral.forall_mem_toString (P := (Markup.isMarkup · = false)) (by decide) (by decide) n)
    "number" (index + 1)
  by_cases closed : isTag recordClose closing = true
  · simp only [readBlock, opening, closed, number, readField_unclosed "value" (index + 2) unclosed,
      if_true, ok_bind]
    exact ⟨_, _, _, rfl⟩
  · simp only [readBlock, opening, if_true, if_neg closed]
    exact ⟨_, _, _, rfl⟩

theorem readBlocks_broken {categories : Bool} {token : Token} (broken : ¬ Unbroken token.lexeme)
    (index : Nat) (rest : List Token) :
    Refused (readBlocks index (bodyLines categories (token :: rest))) := by
  obtain ⟨text, more, unclosed, split⟩ := readLines_value_broken broken
  have refused := readBlock_unclosed token.number index unclosed
  rw [bodyLines_cons, flatMap_readLines_lines, split]
  -- The broken line and the four after it fill a block, however many lines the break made.
  rcases more with _ | ⟨first, _ | ⟨second, _ | ⟨third, _ | ⟨fourth, more⟩⟩⟩⟩
  all_goals exact (refused _ _ _ _).bind _

/-! ## Files -/

theorem readBlocks_restorable {categories : Bool} {tokens : List Token}
    (unbroken : ∀ token ∈ tokens, Unbroken token.lexeme)
    (restorable : ∀ token ∈ tokens, Restorable categories token) (index : Nat) :
    readBlocks index (bodyLines categories tokens) = .ok tokens := by
  induction tokens generalizing index with
  | nil => rfl
  | cons token rest ih =>
      obtain ⟨whole, wholeRest⟩ := List.forall_mem_cons.1 unbroken
      obtain ⟨first, others⟩ := List.forall_mem_cons.1 restorable
      rw [readBlocks_cons whole, readBlock_block_iff.2 first, ok_bind, ih wholeRest others]
      rfl

/-- Unbroken records are read one by one, and as the tokens they were written for only
if these are restorable. -/
theorem restorable_of_readBlocks {categories : Bool} {tokens read : List Token} {index : Nat}
    (unbroken : ∀ token ∈ tokens, Unbroken token.lexeme)
    (done : readBlocks index (bodyLines categories tokens) = .ok read) :
    read.length = tokens.length ∧
      (read = tokens → ∀ token ∈ tokens, Restorable categories token) := by
  induction tokens generalizing index read with
  | nil =>
      obtain rfl : [] = read := Except.ok.inj done
      exact ⟨rfl, fun _ _ member => absurd member List.not_mem_nil⟩
  | cons token rest ih =>
      obtain ⟨whole, wholeRest⟩ := List.forall_mem_cons.1 unbroken
      rw [readBlocks_cons whole] at done
      cases first : readBlock index (block categories token) with
      | error error => simp [first, bind, Except.bind] at done
      | ok head =>
          rw [first, ok_bind] at done
          cases later : readBlocks (index + recordLines) (bodyLines categories rest) with
          | error error => simp [later, bind, Except.bind] at done
          | ok others =>
              rw [later, ok_bind] at done
              obtain rfl : head :: others = read := Except.ok.inj done
              obtain ⟨lengths, same⟩ := ih wholeRest later
              refine ⟨congrArg (· + 1) lengths, fun equal => ?_⟩
              obtain ⟨rfl, rfl⟩ := List.cons.inj equal
              exact List.forall_mem_cons.2 ⟨readBlock_block_iff.1 first, same rfl⟩

theorem readBlocks_refused {categories : Bool} {tokens : List Token}
    (broken : ∃ token ∈ tokens, ¬ Unbroken token.lexeme) (index : Nat) :
    Refused (readBlocks index (bodyLines categories tokens)) := by
  induction tokens generalizing index with
  | nil =>
      obtain ⟨token, member, _⟩ := broken
      exact absurd member List.not_mem_nil
  | cons token rest ih =>
      by_cases whole : Unbroken token.lexeme
      · rw [readBlocks_cons whole]
        rcases readBlock_block_ok_or_refused categories token index with ⟨read, first⟩ | refused
        · have later : ∃ other ∈ rest, ¬ Unbroken other.lexeme := by
            obtain ⟨other, member, torn⟩ := broken
            rcases List.mem_cons.1 member with rfl | member
            · exact absurd whole torn
            · exact ⟨other, member, torn⟩
          rw [first, ok_bind]
          exact (ih later _).bind _
        · exact refused.bind _
      · exact readBlocks_broken whole index rest

/-- Whether the last token of a list is an end mark, and its only one. -/
def EndsOnce (tokens : List Token) : Prop :=
  ∃ front mark, tokens = front ++ [mark] ∧ mark.kind = .endOfInput ∧
    ∀ token ∈ front, token.kind ≠ .endOfInput

theorem terminate_of_endsOnce {tokens : List Token} (once : EndsOnce tokens)
    (firstLine : Option String) (free : Nat) :
    terminate firstLine tokens free = .ok (tokens, free) := by
  obtain ⟨front, mark, rfl, ends, earlier⟩ := once
  have late : (front.any fun token => token.kind = .endOfInput) = false := by
    simpa using earlier
  rw [terminate, List.getLast?_concat, List.dropLast_concat]
  simp [ends, late]

/-- Closing a list with an end mark leaves its length only if the list has its mark, and
then it leaves the list. -/
theorem eq_of_terminate {firstLine : Option String} {read tokens : List Token} {free : Nat}
    (lengths : read.length = tokens.length)
    (closed : (terminate firstLine read free).map Prod.fst = .ok tokens) :
    read = tokens ∧ EndsOnce tokens := by
  rcases List.eq_nil_or_concat read with rfl | ⟨front, last, rfl⟩
  · obtain rfl : [Token.endOfInput 1 free] = tokens := Except.ok.inj closed
    cases lengths
  · rw [List.concat_eq_append] at lengths closed ⊢
    rw [terminate, List.getLast?_concat, List.dropLast_concat] at closed
    by_cases ends : last.kind = .endOfInput
    · by_cases early : (front.any fun token => token.kind = .endOfInput) = true
      · simp only [ends, ne_eq, not_true_eq_false, if_false, early, if_true] at closed
        cases closed
      · simp only [ends, ne_eq, not_true_eq_false, if_false, early] at closed
        obtain rfl : front ++ [last] = tokens := Except.ok.inj closed
        exact ⟨rfl, front, last, rfl, ends, by simpa using early⟩
    · simp only [ne_eq, ends, not_false_eq_true, if_true] at closed
      have grown := congrArg List.length (Except.ok.inj closed)
      simp only [List.length_append, List.length_singleton] at grown lengths
      omega

theorem load_dump (categories : Bool) (tokens : List Token) (free : Nat) :
    load (dump categories tokens) free =
      readBlocks 1 (bodyLines categories tokens) >>= fun read =>
        terminate (some rootOpen) read free := by
  rw [load, readTokens_dump, contentLines_dump, List.head?_cons, Option.map_some,
    String.ofList_toList]

theorem load_dump_of_restorable {categories : Bool} {tokens : List Token} (once : EndsOnce tokens)
    (unbroken : ∀ token ∈ tokens, Unbroken token.lexeme)
    (restorable : ∀ token ∈ tokens, Restorable categories token) (free : Nat) :
    load (dump categories tokens) free = .ok (tokens, free) := by
  rw [load_dump, readBlocks_restorable unbroken restorable, ok_bind, terminate_of_endsOnce once]

theorem load_dump_refused (categories : Bool) {tokens : List Token}
    (broken : ∃ token ∈ tokens, ¬ Unbroken token.lexeme) (free : Nat) :
    Refused (load (dump categories tokens) free) := by
  rw [load_dump]
  exact (readBlocks_refused broken 1).bind _

/-- Tokens that are read back were unbroken and restorable, and ended with their only end
mark. -/
theorem restorable_of_load_dump {categories : Bool} {tokens : List Token} {free : Nat}
    (done : (load (dump categories tokens) free).map Prod.fst = .ok tokens) :
    EndsOnce tokens ∧ (∀ token ∈ tokens, Unbroken token.lexeme) ∧
      ∀ token ∈ tokens, Restorable categories token := by
  have unbroken : ∀ token ∈ tokens, Unbroken token.lexeme := by
    intro token member
    refine Decidable.byContradiction fun broken => ?_
    obtain ⟨flaw, index, line, error⟩ :=
      load_dump_refused categories ⟨token, member, broken⟩ free
    rw [error] at done
    cases done
  rw [load_dump] at done
  cases body : readBlocks 1 (bodyLines categories tokens) with
  | error error =>
      rw [body] at done
      cases done
  | ok read =>
      obtain ⟨lengths, restored⟩ := restorable_of_readBlocks unbroken body
      rw [body, ok_bind] at done
      obtain ⟨same, once⟩ := eq_of_terminate lengths done
      exact ⟨once, unbroken, restored same⟩

/-- Written tokens are read back as they are exactly if the last of them is their only end
mark, no text among them holds a line break, in the coarse form every keyword and punctuator
has its fixed spelling, and no number is longer than a numeral may be.  A file with a broken
text is always refused. -/
theorem load_dump_eq_iff (categories : Bool) (tokens : List Token) (free : Nat) :
    ((load (dump categories tokens) free).map Prod.fst = .ok tokens ↔
      EndsOnce tokens ∧
        (∀ token ∈ tokens, Unbroken token.lexeme) ∧
        (categories = true → ∀ token ∈ tokens, ∀ text,
          token.kind.spelling? = some text → token.lexeme = text) ∧
        ∀ token ∈ tokens, Numeral.Fits token.number ∧ Numeral.Fits token.line) ∧
      ((∃ token ∈ tokens, ¬ Unbroken token.lexeme) →
        Refused (load (dump categories tokens) free)) := by
  refine ⟨⟨fun done => ?_, ?_⟩, fun broken => load_dump_refused categories broken free⟩
  · obtain ⟨once, unbroken, restorable⟩ := restorable_of_load_dump done
    exact ⟨once, unbroken,
      fun coarse token member => (restorable token member).spelling coarse,
      fun token member => ⟨(restorable token member).number, (restorable token member).line⟩⟩
  · rintro ⟨once, unbroken, spelling, fits⟩
    have restorable : ∀ token ∈ tokens, Restorable categories token := fun token member =>
      ⟨(fits token member).1, (fits token member).2, fun coarse => spelling coarse token member⟩
    rw [load_dump_of_restorable once unbroken restorable]
    rfl

end MiniC.Record
