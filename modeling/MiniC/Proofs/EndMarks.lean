import MiniC.Proofs.LexedTokens
import MiniC.Proofs.RecordFormat

/-!
# The end marks of a record file

The tokens of a source end with their only end mark.  Those of a record file end with an end
mark, and hold another one for each record that has one and is not the last.  A file is
refused for such a record only if its last record has an end mark as well.
-/

namespace MiniC.Record

/-- The number of end marks among some tokens. -/
def marks (tokens : List Token) : Nat :=
  tokens.countP fun token => token.kind = .endOfInput

/-- The records before the last one hold an end mark. -/
def MarkedEarly (records : List Token) : Prop :=
  ∃ other ∈ records.dropLast, other.kind = .endOfInput

section Marks

variable {tokens : List Token}

theorem marks_eq_zero_iff : marks tokens = 0 ↔ ∀ token ∈ tokens, token.kind ≠ .endOfInput := by
  simp [marks]

theorem not_markedEarly_iff : ¬ MarkedEarly tokens ↔ marks tokens.dropLast = 0 := by
  simp [MarkedEarly, marks_eq_zero_iff]

theorem marks_concat (front : List Token) (last : Token) :
    marks (front ++ [last]) = marks front + if last.kind = .endOfInput then 1 else 0 := by
  simp [marks, List.countP_append, List.countP_singleton]

/-- Tokens end with their only end mark if the last one is an end mark and there is one. -/
theorem endsOnce_iff :
    EndsOnce tokens ↔ tokens.getLast?.map Token.kind = some .endOfInput ∧ marks tokens = 1 := by
  constructor
  · rintro ⟨front, mark, rfl, ends, others⟩
    rw [marks_concat, marks_eq_zero_iff.2 others, if_pos ends, List.getLast?_concat]
    exact ⟨congrArg some ends, rfl⟩
  · rintro ⟨ends, one⟩
    rcases List.eq_nil_or_concat tokens with rfl | ⟨front, last, rfl⟩
    · cases one
    · rw [List.concat_eq_append] at *
      rw [List.getLast?_concat, Option.map_some, Option.some.injEq] at ends
      rw [marks_concat, if_pos ends, Nat.add_eq_right] at one
      exact ⟨front, last, rfl, ends, marks_eq_zero_iff.1 one⟩

/-- Closing leaves the end marks before the last token, and puts one last. -/
theorem marks_closed (tokens : List Token) (free : Nat) :
    marks (closed tokens free).1 = marks tokens.dropLast + 1 := by
  rcases List.eq_nil_or_concat tokens with rfl | ⟨front, last, rfl⟩
  · rfl
  · rw [List.concat_eq_append, closed, List.getLast?_concat, List.dropLast_concat]
    dsimp only
    split
    next marked => rw [marks_concat, if_pos marked]
    next other =>
      rw [marks_concat, marks_concat, if_neg other]
      rfl

theorem endsOnce_closed_iff (tokens : List Token) (free : Nat) :
    EndsOnce (closed tokens free).1 ↔ ¬ MarkedEarly tokens := by
  rw [endsOnce_iff, marks_closed, not_markedEarly_iff, Nat.add_eq_right]
  exact and_iff_right (getLast?_closed tokens free)

end Marks

/-- A file with the format is refused exactly if its last record has an end mark and an earlier
record has one as well.  Otherwise its tokens end with an end mark, and hold another one for
each record before the last one that has one: so the last is the only one exactly if no
record before the last one has one.  Any other file is refused.  The tokens of an accepted
source end with their only end mark. -/
theorem load_marks (text : String) (free : Nat) :
    (∀ records, Formatted (contentLines text) records →
      (EndsEarly records →
        load text free =
          .error (.malformed .earlyEnd 0 ((contentLines text).head?.map String.ofList))) ∧
      (¬ EndsEarly records →
        ∃ answer, load text free = .ok answer ∧
          answer.1.getLast?.map Token.kind = some .endOfInput ∧
          marks answer.1 = marks records.dropLast + 1 ∧
          (EndsOnce answer.1 ↔ ¬ MarkedEarly records))) ∧
    (∀ answer, load text free = .ok answer →
      ∃ records, Formatted (contentLines text) records ∧ ¬ EndsEarly records) ∧
    ∀ source filename line first tokens next,
      Lexer.tokenize source filename line first = (.ok tokens, next) → EndsOnce tokens := by
  refine ⟨fun records formatted => ?_, fun answer loaded => ?_,
    fun _ _ _ _ _ _ accepted => Lexer.tokenize_endsOnce accepted⟩
  · rw [load, readTokens_eq_ok_iff.2 formatted, ok_bind]
    constructor
    · intro early
      cases ended : terminate ((contentLines text).head?.map String.ofList) records free with
      | ok answer => exact absurd early (terminate_eq_ok_iff.1 ended).1
      | error error =>
          obtain ⟨-, rfl⟩ := terminate_eq_error ended
          rfl
    · intro orderly
      exact ⟨closed records free, terminate_eq_ok_iff.2 ⟨orderly, rfl⟩,
        getLast?_closed records free, marks_closed records free, endsOnce_closed_iff records free⟩
  · obtain ⟨records, read, ended⟩ := bind_eq_ok_iff.1 loaded
    exact ⟨records, readTokens_eq_ok_iff.1 read, (terminate_eq_ok_iff.1 ended).1⟩

/-- An end mark and a name behind it. -/
def strayTokens : List Token :=
  [{ kind := .endOfInput, lexeme := "", line := 1, number := 0 },
   { kind := .identifier, lexeme := "a", line := 1, number := 1 }]

/-- A file whose first record has an end mark and whose last one has none is accepted, with two
end marks. -/
theorem strayTokens_marked_twice :
    (∀ categories,
      load (dump categories strayTokens) 0 = .ok (strayTokens ++ [.endOfInput 1 0], 1)) ∧
      ¬ EndsOnce (strayTokens ++ [.endOfInput 1 0]) := by
  have unbroken : ∀ token ∈ strayTokens, Unbroken token.lexeme := by decide
  have restorable (categories : Bool) : ∀ token ∈ strayTokens, Restorable categories token := by
    simp only [strayTokens, List.forall_mem_cons]
    refine ⟨⟨by decide, by decide, fun _ _ => nofun⟩, ⟨by decide, by decide, fun _ _ => nofun⟩, ?_⟩
    exact fun _ => nofun
  refine ⟨fun categories => ?_, fun once => ?_⟩
  · rw [load_dump, readBlocks_restorable unbroken (restorable categories), ok_bind]
    rfl
  · obtain ⟨-, one⟩ := endsOnce_iff.1 once
    cases one

end MiniC.Record
