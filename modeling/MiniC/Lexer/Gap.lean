/-!
# Gaps between tokens

Blanks and comments separate tokens.  A line comment runs up to a line feed or
the end of the text; a block comment has to be closed.  An opening of a block
comment that is never closed is not part of a gap.
-/

namespace MiniC.Lexer

/-- Whether a character is one of the six blanks between tokens. -/
def isGapBlank (c : Char) : Bool :=
  c = ' ' || c = '\t' || c = '\n' || c = '\r' || c = '\x0c' || c = '\x0b'

/-- Divide a text just after the first end of a block comment. -/
def closeComment? : List Char → Option (List Char × List Char)
  | [] => none
  | '*' :: '/' :: rest => some (['*', '/'], rest)
  | c :: rest => (closeComment? rest).map fun (comment, after) => (c :: comment, after)

/-- The comment at the front of a text, with what follows it. -/
def comment? : List Char → Option (List Char × List Char)
  | '/' :: '/' :: rest =>
      some ('/' :: '/' :: rest.takeWhile (· ≠ '\n'), rest.dropWhile (· ≠ '\n'))
  | '/' :: '*' :: rest =>
      (closeComment? rest).map fun (comment, after) => ('/' :: '*' :: comment, after)
  | _ => none

/-- A closed comment and what follows it make up the text. -/
theorem closeComment?_append {text comment after : List Char}
    (found : closeComment? text = some (comment, after)) : text = comment ++ after := by
  fun_induction closeComment? text generalizing comment with
  | case1 => simp at found
  | case2 rest =>
      simp only [Option.some.injEq, Prod.mk.injEq] at found
      simp [← found.1, ← found.2]
  | case3 c rest _ induction =>
      obtain ⟨⟨inner, beyond⟩, innerFound, pairEq⟩ := Option.map_eq_some_iff.mp found
      simp only [Prod.mk.injEq] at pairEq
      obtain ⟨rfl, rfl⟩ := pairEq
      simp [← induction innerFound]

/-- A comment and what follows it make up the text. -/
theorem comment?_append {text comment after : List Char}
    (found : comment? text = some (comment, after)) : text = comment ++ after := by
  unfold comment? at found
  split at found
  · simp only [Option.some.injEq, Prod.mk.injEq] at found
    simp [← found.1, ← found.2]
  · obtain ⟨⟨inner, beyond⟩, innerFound, pairEq⟩ := Option.map_eq_some_iff.mp found
    simp only [Prod.mk.injEq] at pairEq
    obtain ⟨rfl, rfl⟩ := pairEq
    simp [← closeComment?_append innerFound]
  · simp at found

/-- A comment is never empty. -/
theorem comment?_length {text comment after : List Char}
    (found : comment? text = some (comment, after)) : after.length < text.length := by
  have parts := comment?_append found
  have nonempty : 0 < comment.length := by
    unfold comment? at found
    split at found
    · simp only [Option.some.injEq, Prod.mk.injEq] at found
      simp [← found.1]
    · obtain ⟨⟨inner, beyond⟩, _, pairEq⟩ := Option.map_eq_some_iff.mp found
      simp only [Prod.mk.injEq] at pairEq
      simp [← pairEq.1]
    · simp at found
  simp [parts, nonempty]

/-- Divide a text into the gap at its front and the rest, which starts with
neither a blank nor a closed comment. -/
def splitGap : List Char → List Char × List Char
  | [] => ([], [])
  | c :: rest =>
      if isGapBlank c then
        let (gap, after) := splitGap rest
        (c :: gap, after)
      else
        match _found : comment? (c :: rest) with
        | some (comment, after) =>
            let (gap, beyond) := splitGap after
            (comment ++ gap, beyond)
        | none => ([], c :: rest)
termination_by text => text.length
decreasing_by
  · simp
  · exact comment?_length _found

/-- A gap and the rest make up the text. -/
theorem splitGap_append (text : List Char) :
    (splitGap text).1 ++ (splitGap text).2 = text := by
  fun_induction splitGap text with
  | case1 => rfl
  | case2 c rest blank gap after parts induction => simpa [parts] using induction
  | case3 c rest notBlank comment after found gap beyond parts induction =>
      rw [parts] at induction
      simp only [List.append_assoc, induction]
      exact (comment?_append found).symm
  | case4 => rfl

end MiniC.Lexer
