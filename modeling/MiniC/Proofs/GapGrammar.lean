import MiniC.Lexer.Gap

/-!
# The grammar of gaps

What may stand between two tokens, said without a scanner: blanks, line comments
that run up to a line feed or the end of the text, and block comments that end at
the first star with a slash after it.  Dividing a text finds the longest such gap:
the gap is one by the grammar, and what is left starts with no piece of another.
-/

namespace MiniC.Lexer

/-- A text in which no block comment is closed. -/
def Unclosed (text : List Char) : Prop :=
  ¬ ['*', '/'] <:+: text

instance (text : List Char) : Decidable (Unclosed text) :=
  inferInstanceAs (Decidable (¬ ['*', '/'] <:+: text))

/-- What a line comment may run up to: a line feed or the end of the text. -/
def EndsLine (text : List Char) : Prop :=
  ∀ c ∈ text.head?, c = '\n'

/-- A sequence of blanks and comments in front of a text. -/
inductive Gap (text : List Char) : List Char → Prop
  | none : Gap text []
  | blank {c : Char} {gap : List Char} (isBlank : isGapBlank c = true) (more : Gap text gap) :
      Gap text (c :: gap)
  | lineComment {body gap : List Char} (inLine : '\n' ∉ body) (ends : EndsLine (gap ++ text))
      (more : Gap text gap) : Gap text ('/' :: '/' :: body ++ gap)
  /-- The star belongs to the mark that closes the comment, and is no part of an earlier one. -/
  | blockComment {body gap : List Char} (inside : Unclosed (body ++ ['*']))
      (more : Gap text gap) : Gap text ('/' :: '*' :: body ++ '*' :: '/' :: gap)

/-- A text that no further blank or comment starts. -/
def Settled (text : List Char) : Prop :=
  (∀ c ∈ text.head?, isGapBlank c = false) ∧ comment? text = none

/-! ## Comments -/

theorem unclosed_cons {c : Char} {text : List Char} :
    Unclosed (c :: text) ↔ ¬ (c = '*' ∧ text.head? = some '/') ∧ Unclosed text := by
  unfold Unclosed
  rw [List.infix_cons_iff, not_or]
  refine and_congr (not_congr ?_) Iff.rfl
  cases text with
  | nil => simp
  | cons d rest => simp [List.cons_prefix_cons, eq_comm]

theorem closeComment?_body {text comment after : List Char}
    (found : closeComment? text = some (comment, after)) :
    ∃ body, comment = body ++ ['*', '/'] ∧ Unclosed (body ++ ['*']) := by
  fun_induction closeComment? text generalizing comment with
  | case1 => cases found
  | case2 rest =>
      obtain ⟨rfl, -⟩ := Prod.mk.inj (Option.some.inj found)
      exact ⟨[], rfl, unclosed_cons.mpr ⟨by simp, by simp [Unclosed]⟩⟩
  | case3 c rest notMark induction =>
      obtain ⟨⟨inner, beyond⟩, innerFound, pairEq⟩ := Option.map_eq_some_iff.mp found
      obtain ⟨rfl, rfl⟩ := Prod.mk.inj pairEq
      obtain ⟨body, rfl, unclosed⟩ := induction innerFound
      refine ⟨c :: body, rfl, unclosed_cons.mpr ⟨?_, unclosed⟩⟩
      rintro ⟨rfl, slash⟩
      -- a slash right after the star would have closed the comment here
      have text := closeComment?_append innerFound
      cases body with
      | nil => cases slash
      | cons d others =>
          obtain rfl : d = '/' := by simpa using slash
          exact notMark _ rfl text

theorem closeComment?_of_body {body : List Char} (unclosed : Unclosed (body ++ ['*']))
    (after : List Char) :
    closeComment? (body ++ '*' :: '/' :: after) = some (body ++ ['*', '/'], after) := by
  induction body with
  | nil => rfl
  | cons c body induction =>
      obtain ⟨notMark, rest⟩ := unclosed_cons.mp unclosed
      rw [List.cons_append, closeComment?, induction rest]
      · rfl
      · intro others star slash
        refine notMark ⟨star, ?_⟩
        cases body with
        | nil => cases slash
        | cons d more => exact congrArg List.head? slash

theorem closeComment?_eq_none_iff {text : List Char} :
    closeComment? text = none ↔ Unclosed text := by
  fun_induction closeComment? text with
  | case1 => simp [Unclosed]
  | case2 rest => simp [unclosed_cons]
  | case3 c rest notMark induction =>
      rw [Option.map_eq_none_iff, induction, unclosed_cons, and_iff_right]
      rintro ⟨rfl, slash⟩
      obtain ⟨after, rfl⟩ := List.head?_eq_some_iff.mp slash
      exact notMark after rfl rfl

theorem endsLine_dropWhile (text : List Char) : EndsLine (text.dropWhile (· ≠ '\n')) := by
  intro c first
  have stopped := List.head?_dropWhile_not (· ≠ '\n') text
  rw [Option.mem_def.mp first] at stopped
  simpa using stopped

theorem span_endsLine {body after : List Char} (inLine : '\n' ∉ body) (ends : EndsLine after) :
    (body ++ after).takeWhile (· ≠ '\n') = body ∧
      (body ++ after).dropWhile (· ≠ '\n') = after := by
  have inside : ∀ c ∈ body, decide (c ≠ '\n') = true := by
    intro c member
    exact decide_eq_true fun feed => inLine (feed ▸ member)
  rw [List.takeWhile_append_of_pos inside, List.dropWhile_append_of_pos inside]
  cases after with
  | nil => simp
  | cons c rest =>
      obtain rfl : c = '\n' := ends c rfl
      simp

theorem Gap.comment {text comment gap after : List Char}
    (found : comment? text = some (comment, gap ++ after)) (more : Gap after gap) :
    Gap after (comment ++ gap) := by
  unfold comment? at found
  split at found
  next rest =>
    obtain ⟨rfl, left⟩ := Prod.mk.inj (Option.some.inj found)
    refine .lineComment ?_ (left ▸ endsLine_dropWhile rest) more
    intro feed
    simpa using List.all_eq_true.mp List.all_takeWhile _ feed
  next rest =>
    obtain ⟨⟨inner, beyond⟩, innerFound, pairEq⟩ := Option.map_eq_some_iff.mp found
    obtain ⟨rfl, rfl⟩ := Prod.mk.inj pairEq
    obtain ⟨body, rfl, unclosed⟩ := closeComment?_body innerFound
    simpa using Gap.blockComment unclosed more
  next => cases found

/-! ## Dividing a text -/

theorem splitGap_blank {c : Char} (isBlank : isGapBlank c = true) (text : List Char) :
    splitGap (c :: text) = (c :: (splitGap text).1, (splitGap text).2) := by
  rw [splitGap, if_pos isBlank]

theorem splitGap_comment {text comment after : List Char}
    (found : comment? text = some (comment, after)) :
    splitGap text = (comment ++ (splitGap after).1, (splitGap after).2) := by
  have slash : ∃ rest, text = '/' :: rest := by
    unfold comment? at found
    split at found
    · exact ⟨_, rfl⟩
    · exact ⟨_, rfl⟩
    · cases found
  obtain ⟨rest, rfl⟩ := slash
  rw [splitGap, if_neg (by decide)]
  split
  next comment' after' again =>
    obtain ⟨rfl, rfl⟩ := Prod.mk.inj (Option.some.inj (again.symm.trans found))
    rfl
  next missing => cases missing.symm.trans found

theorem Settled.splitGap {text : List Char} (settled : Settled text) :
    splitGap text = ([], text) := by
  cases text with
  | nil => simp [Lexer.splitGap]
  | cons c rest =>
      have solid : isGapBlank c = false := settled.1 c rfl
      rw [Lexer.splitGap, if_neg (by simp [solid])]
      split
      next found => cases found.symm.trans settled.2
      next => rfl

/-- A text is divided into a gap and a rest that starts with no piece of another. -/
theorem gap_splitGap (text : List Char) :
    Gap (splitGap text).2 (splitGap text).1 ∧ Settled (splitGap text).2 := by
  fun_induction splitGap text with
  | case1 => exact ⟨.none, by simp [Settled, comment?]⟩
  | case2 c rest isBlank gap after parts induction =>
      rw [parts] at induction
      exact ⟨.blank isBlank induction.1, induction.2⟩
  | case3 c rest notBlank comment after found gap beyond parts induction =>
      have whole := splitGap_append after
      rw [parts] at induction whole
      exact ⟨.comment (whole ▸ found) induction.1, induction.2⟩
  | case4 c rest notBlank missing => exact ⟨.none, by simpa using notBlank, missing⟩

/-- A gap in front of a settled text is where the text is divided. -/
theorem Gap.splitGap {text gap : List Char} (isGap : Gap text gap) (settled : Settled text) :
    splitGap (gap ++ text) = (gap, text) := by
  induction isGap with
  | none => exact settled.splitGap
  | blank isBlank more induction =>
      rw [List.cons_append, splitGap_blank isBlank, induction]
  | @lineComment body gap inLine ends more induction =>
      have found : comment? ('/' :: '/' :: body ++ gap ++ text) =
          some ('/' :: '/' :: body, gap ++ text) := by
        obtain ⟨taken, left⟩ := span_endsLine inLine ends
        simp only [List.cons_append, List.append_assoc, comment?, taken, left]
      rw [splitGap_comment found, induction]
  | @blockComment body gap inside more induction =>
      have found : comment? ('/' :: '*' :: body ++ '*' :: '/' :: gap ++ text) =
          some ('/' :: '*' :: body ++ ['*', '/'], gap ++ text) := by
        have closed := closeComment?_of_body inside (gap ++ text)
        simp only [List.cons_append, List.append_assoc, comment?, closed, Option.map_some]
      rw [splitGap_comment found, induction]
      simp

end MiniC.Lexer
