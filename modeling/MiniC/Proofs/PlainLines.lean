import MiniC.Proofs.DividedSource

/-!
# Lines that end plainly

Lines of a text are counted in two ways.  The scanner counts line feeds; the lines that are
shown also end at other characters.  Where a text ends its lines with line feeds only, with
or without a carriage return in front of them, both ways agree: the line that a place stands
in is the one behind as many lines as there are line feeds before the place.
-/

namespace MiniC

namespace Lexer

theorem lastLine_append {before line : List Char} (inLine : '\n' ∉ line) :
    lastLine (before ++ line) = lastLine before ++ line := by
  have inside : ∀ c ∈ line.reverse, decide (c ≠ '\n') = true := fun c member =>
    decide_eq_true fun feed => inLine (feed ▸ List.mem_reverse.1 member)
  simp only [lastLine, List.rtakeWhile, List.reverse_append,
    List.takeWhile_append_of_pos inside, List.reverse_reverse]

theorem lastLine_feed (first rest : List Char) :
    lastLine (first ++ '\n' :: rest) = lastLine rest := by
  simp only [lastLine, List.rtakeWhile, List.reverse_append, List.reverse_cons, List.append_assoc,
    List.singleton_append, List.takeWhile_append]
  split
  next whole =>
    rw [List.takeWhile_cons_of_neg (by simp), List.append_nil,
      (List.takeWhile_prefix _).eq_of_length whole]
  next => rfl

theorem lastLine_of_inLine {line : List Char} (inLine : '\n' ∉ line) : lastLine line = line := by
  simpa [lastLine] using @lastLine_append [] line inLine

end Lexer

namespace Text

open Lexer (EndsLine lastLine)

/-- A text whose lines end with line feeds, with or without a carriage return in front of them.
A carriage return may also end the text. -/
def PlainBreaks (text : List Char) : Prop :=
  ∀ before c after, text = before ++ c :: after → isLineBreak c = true → c ≠ '\n' →
    c = '\r' ∧ EndsLine after

/-- A line without the carriage return at its end. -/
def withoutReturn (line : List Char) : List Char :=
  if line.getLast? = some '\r' then line.dropLast else line

theorem PlainBreaks.of_feeds {text : List Char}
    (feeds : ∀ c ∈ text, isLineBreak c = true → c = '\n') : PlainBreaks text := by
  rintro before c after rfl breaks notFeed
  exact absurd (feeds c (by simp) breaks) notFeed

theorem PlainBreaks.behind {front rest : List Char} (plain : PlainBreaks (front ++ rest)) :
    PlainBreaks rest := by
  rintro before c after rfl
  exact plain (front ++ before) c after (List.append_assoc _ _ _).symm

/-- A line of such a text is unbroken but for a carriage return at its end. -/
theorem PlainBreaks.line {line rest : List Char} (plain : PlainBreaks (line ++ rest))
    (inLine : '\n' ∉ line) :
    ∃ body, (∀ c ∈ body, isLineBreak c = false) ∧ (line = body ∨ line = body ++ ['\r']) := by
  induction line with
  | nil => exact ⟨[], by simp, .inl rfl⟩
  | cons c line induction =>
      obtain ⟨notFeed, others⟩ : c ≠ '\n' ∧ '\n' ∉ line := by simpa [eq_comm] using inLine
      cases breaks : isLineBreak c with
      | false =>
          obtain ⟨body, unbroken, shape⟩ :=
            induction (@PlainBreaks.behind [c] _ plain) others
          refine ⟨c :: body, List.forall_mem_cons.2 ⟨breaks, unbroken⟩, ?_⟩
          exact shape.imp (congrArg (c :: ·)) (congrArg (c :: ·))
      | true =>
          obtain ⟨rfl, ends⟩ := plain [] c (line ++ rest) rfl breaks notFeed
          cases line with
          | nil => exact ⟨[], by simp, .inr rfl⟩
          | cons next line =>
              obtain rfl : next = '\n' := ends next rfl
              exact absurd List.mem_cons_self others

section Body

variable {body line rest : List Char} (unbroken : ∀ c ∈ body, isLineBreak c = false)

include unbroken

theorem withoutReturn_body (shape : line = body ∨ line = body ++ ['\r']) :
    withoutReturn line = body := by
  have kept : body.getLast? ≠ some '\r' := fun last => by
    have breaks := unbroken _ (List.mem_of_getLast? last)
    exact absurd breaks (by decide)
  rcases shape with rfl | rfl
  · rw [withoutReturn, if_neg kept]
  · simp [withoutReturn]

/-- A line that ends with a line feed is followed by the lines behind it. -/
theorem lines_feed (shape : line = body ∨ line = body ++ ['\r']) (rest : List Char) :
    lines (line ++ '\n' :: rest) = body :: lines rest := by
  have first : linesFrom [] (line ++ ['\n']) = [body] := by
    rcases shape with rfl | rfl
    · rw [linesFrom_append unbroken, linesFrom_cons _ (by simp), if_pos (by decide)]
      simp [linesFrom]
    · rw [List.append_assoc, linesFrom_append unbroken]
      simp [linesFrom]
  rw [lines, linesFrom_newline, first]
  rfl

/-- The first line of a text ends at the first line feed or with the text. -/
theorem lines_head (shape : line = body ∨ line = body ++ ['\r']) (filled : line ≠ [])
    (ends : EndsLine rest) : (lines (line ++ rest)).head? = some body := by
  rcases shape with rfl | rfl
  · rw [lines, linesFrom_append unbroken, List.append_nil]
    cases rest with
    | nil => simp [linesFrom, filled]
    | cons c rest =>
        obtain rfl : c = '\n' := ends c rfl
        obtain ⟨more, first⟩ :=
          linesFrom_break (by decide : isLineBreak '\n' = true) line.reverse rest
        simp [first]
  · obtain ⟨more, first⟩ :=
      linesFrom_break (by decide : isLineBreak '\r' = true) body.reverse rest
    rw [lines, List.append_assoc, linesFrom_append unbroken, List.append_nil,
      List.singleton_append, first]
    simp

end Body

/-- The line of a place stands behind as many lines as there are line feeds before the place, if
the lines up to it end plainly. -/
theorem lines_getElem? {place line rest : List Char} (plain : PlainBreaks (place ++ line))
    (inLine : '\n' ∉ line) (filled : line ≠ []) (ends : EndsLine rest) :
    (lines (place ++ line ++ rest))[place.count '\n']? =
      some (withoutReturn (lastLine place ++ line)) := by
  generalize counted : place.count '\n' = number
  induction number generalizing place with
  | zero =>
      have noFeed : '\n' ∉ place := List.count_eq_zero.1 counted
      have whole : '\n' ∉ place ++ line := by simp [noFeed, inLine]
      obtain ⟨body, unbroken, shape⟩ :=
        @PlainBreaks.line (place ++ line) [] (by simpa using plain) whole
      rw [Lexer.lastLine_of_inLine noFeed, withoutReturn_body unbroken shape,
        ← List.head?_eq_getElem?]
      exact lines_head unbroken shape (by simp [filled]) ends
  | succ number induction =>
      have feed : '\n' ∈ place := List.count_pos_iff.1 (by omega)
      obtain ⟨first, others, rfl, noFeed⟩ := List.eq_append_cons_of_mem feed
      rw [List.append_assoc] at plain
      obtain ⟨body, unbroken, shape⟩ := plain.line noFeed
      have fewer : others.count '\n' = number := by
        simpa [List.count_eq_zero.2 noFeed] using counted
      have later : PlainBreaks (others ++ line) := by
        refine @PlainBreaks.behind (first ++ ['\n']) _ ?_
        simpa using plain
      rw [Lexer.lastLine_feed, List.append_assoc, List.append_assoc, List.cons_append,
        lines_feed unbroken shape, List.getElem?_cons_succ, ← List.append_assoc]
      exact induction later fewer

theorem withoutReturn_append {front word tail : List Char} (filled : word ≠ [])
    (noReturn : '\r' ∉ word) :
    withoutReturn (front ++ (word ++ tail)) = front ++ (word ++ withoutReturn tail) := by
  cases tail with
  | nil =>
      have last : (front ++ (word ++ [])).getLast? ≠ some '\r' := fun same => by
        rw [List.append_nil, List.getLast?_append_of_ne_nil _ filled] at same
        exact noReturn (List.mem_of_getLast? same)
      rw [withoutReturn, if_neg last]
      simp [withoutReturn]
  | cons c tail =>
      simp only [withoutReturn, List.getLast?_append_of_ne_nil _ (List.cons_ne_nil c tail),
        List.getLast?_append_of_ne_nil _ (List.append_ne_nil_of_right_ne_nil word
          (List.cons_ne_nil c tail))]
      split
      · rw [List.dropLast_append_of_ne_nil (by simp), List.dropLast_append_of_ne_nil (by simp)]
      · rfl

/-- The line around the place between two parts of a text. -/
def lineAt (place rest : List Char) : List Char :=
  withoutReturn (Lexer.lastLine place ++ rest.takeWhile (· ≠ '\n'))

section Word

variable {place word after : List Char} (filled : word ≠ [])
  (unbroken : ∀ c ∈ word, isLineBreak c = false)

include unbroken

theorem takeWhile_word : (word ++ after).takeWhile (· ≠ '\n') =
    word ++ after.takeWhile (· ≠ '\n') :=
  List.takeWhile_append_of_pos fun c member => decide_eq_true fun feed =>
    absurd (unbroken c member) (feed ▸ by decide)

include filled

/-- A word without line breaks stands in its line behind the part before it. -/
theorem lineAt_word :
    lineAt place (word ++ after) =
      Lexer.lastLine place ++ (word ++ withoutReturn (after.takeWhile (· ≠ '\n'))) := by
  have noReturn : '\r' ∉ word := fun member => absurd (unbroken _ member) (by decide)
  rw [lineAt, takeWhile_word unbroken, withoutReturn_append filled noReturn]

/-- The line of a word is found behind as many lines as there are line feeds before it. -/
theorem lines_word (plain : PlainBreaks (place ++ (word ++ after).takeWhile (· ≠ '\n'))) :
    (lines (place ++ (word ++ after)))[place.count '\n']? =
      some (lineAt place (word ++ after)) := by
  have inLine : '\n' ∉ (word ++ after).takeWhile (· ≠ '\n') := fun member => by
    simpa using List.all_eq_true.1 List.all_takeWhile _ member
  have some : (word ++ after).takeWhile (· ≠ '\n') ≠ [] := by
    rw [takeWhile_word unbroken]
    exact List.append_ne_nil_of_left_ne_nil filled _
  have whole : place ++ (word ++ after) = place ++ (word ++ after).takeWhile (· ≠ '\n') ++
      (word ++ after).dropWhile (· ≠ '\n') := by
    rw [List.append_assoc, List.takeWhile_append_dropWhile]
  rw [whole]
  exact lines_getElem? plain inLine some (Lexer.endsLine_dropWhile _)

end Word

end Text

end MiniC
