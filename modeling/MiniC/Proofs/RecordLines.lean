import MiniC.Proofs.Escaping
import MiniC.Token.Record

/-!
# The lines of a record file

A file is written line by line, and read back as lines.  A written line that
holds no line break is read as one line.  One that holds a break is read as the
part before the break and further lines; the record of a token can only be
broken in the line of its text.
-/

namespace MiniC

namespace Text

/-- One character is looked at, unless it is a carriage return before a line feed. -/
theorem linesFrom_cons (opened : List Char) {c : Char} {rest : List Char}
    (single : c = '\r' → rest.head? ≠ some '\n') :
    linesFrom opened (c :: rest) =
      if isLineBreak c then opened.reverse :: linesFrom [] rest
      else linesFrom (c :: opened) rest := by
  rw [linesFrom]
  intro after ends same
  exact single ends (by rw [same, List.head?_cons])

theorem linesFrom_append {line : List Char} (plain : ∀ c ∈ line, isLineBreak c = false)
    (opened rest : List Char) :
    linesFrom opened (line ++ rest) = linesFrom (line.reverse ++ opened) rest := by
  induction line generalizing opened with
  | nil => rfl
  | cons c others ih =>
      obtain ⟨first, later⟩ := List.forall_mem_cons.1 plain
      have notReturn : c ≠ '\r' := fun same => by
        rw [same] at first
        exact absurd first (by decide)
      rw [List.cons_append, linesFrom_cons opened fun same => absurd same notReturn, first,
        if_neg Bool.false_ne_true, ih later, List.reverse_cons, List.append_assoc,
        List.singleton_append]

theorem linesFrom_break {c : Char} (breaks : isLineBreak c = true) (opened rest : List Char) :
    ∃ more, linesFrom opened (c :: rest) = opened.reverse :: more := by
  unfold linesFrom
  split
  · exact absurd ‹c :: rest = []› (List.cons_ne_nil c rest)
  · exact ⟨_, rfl⟩
  · rename_i same
    obtain ⟨rfl, rfl⟩ := List.cons.inj same
    rw [if_pos breaks]
    exact ⟨_, rfl⟩

theorem linesFrom_newline (opened first rest : List Char) :
    linesFrom opened (first ++ '\n' :: rest) =
      linesFrom opened (first ++ ['\n']) ++ linesFrom [] rest := by
  fun_induction linesFrom opened first with
  | case1 opened empty => simp [linesFrom, isLineBreak]
  | case2 opened filled => simp [linesFrom, isLineBreak]
  | case3 opened first ih => simp [linesFrom, ih]
  | case4 opened c first notBoth breaks ih =>
      -- A carriage return at the end of the first text swallows the line feed.
      cases first with
      | nil =>
          by_cases ends : c = '\r'
          · rw [ends]
            simp [linesFrom]
          · rw [List.singleton_append, List.singleton_append,
              linesFrom_cons opened fun same => absurd same ends,
              linesFrom_cons opened fun same => absurd same ends, if_pos breaks, if_pos breaks]
            simpa using ih
      | cons next later =>
          have single : c = '\r' → next ≠ '\n' := fun ends same => notBoth later ends (by rw [same])
          have step (tail : List Char) : linesFrom opened (c :: next :: later ++ tail) =
              opened.reverse :: linesFrom [] (next :: later ++ tail) := by
            rw [List.cons_append, linesFrom_cons opened (by simpa using single), if_pos breaks]
          rw [step, step, ih]
          rfl
  | case5 opened c first notBoth inside ih =>
      have notReturn : c ≠ '\r' := fun same => inside (by rw [same]; decide)
      rw [List.cons_append, List.cons_append,
        linesFrom_cons opened fun same => absurd same notReturn,
        linesFrom_cons opened fun same => absurd same notReturn, if_neg inside, if_neg inside, ih]

end Text

namespace Record

/-- Whether a text holds no line break. -/
def Unbroken (text : String) : Prop :=
  ∀ c ∈ text.toList, Text.isLineBreak c = false

instance (text : String) : Decidable (Unbroken text) :=
  decidable_of_iff ((text.toList.any Text.isLineBreak) = false) (by simp [Unbroken])

/-- The lines as which a written line is read. -/
def readLines (line : String) : List (List Char) :=
  Text.lines (line.toList ++ ['\n'])

theorem readLines_plain {line : String} (plain : Unbroken line) :
    readLines line = [line.toList] := by
  rw [readLines, Text.lines, Text.linesFrom_append plain, Text.linesFrom_cons _ (by simp),
    if_pos (by decide), List.append_nil, List.reverse_reverse]
  rfl

/-- A broken line is read as the part before the first break and further lines. -/
theorem readLines_broken {line : String} {c : Char} {before after : List Char}
    (parts : line.toList = before ++ c :: after)
    (plain : ∀ c ∈ before, Text.isLineBreak c = false) (breaks : Text.isLineBreak c = true) :
    ∃ more, readLines line = before :: more := by
  rw [readLines, Text.lines, parts, List.append_assoc, Text.linesFrom_append plain]
  obtain ⟨more, split⟩ :=
    Text.linesFrom_break breaks (before.reverse ++ []) (after ++ ['\n'])
  refine ⟨more, ?_⟩
  rw [List.cons_append, split]
  simp

theorem lines_join (written : List String) :
    Text.lines (String.join (written.map (· ++ "\n"))).toList = written.flatMap readLines := by
  rw [String.toList_join]
  induction written with
  | nil => rfl
  | cons line rest ih =>
      rw [List.map_cons, List.flatMap_cons, List.flatMap_cons, ← ih, String.toList_append]
      change Text.linesFrom [] (line.toList ++ ['\n'] ++ _) = _
      rw [List.append_assoc, List.singleton_append, Text.linesFrom_newline]
      rfl

/-- The lines of a written file between its root lines. -/
def bodyLines (categories : Bool) (tokens : List Token) : List (List Char) :=
  (tokens.flatMap (lines categories)).flatMap readLines

theorem contentLines_dump (categories : Bool) (tokens : List Token) :
    contentLines (dump categories tokens) =
      rootOpen.toList :: (bodyLines categories tokens ++ [rootClose.toList]) := by
  have opening : readLines rootOpen = [rootOpen.toList] := readLines_plain (by decide)
  have closing : readLines rootClose = [rootClose.toList] := readLines_plain (by decide)
  have filled : rootClose.toList.all Text.isBlank = false := by decide
  rw [contentLines, dump, lines_join, List.flatMap_cons, List.flatMap_append,
    List.flatMap_singleton, opening, closing, List.singleton_append]
  change ((rootOpen.toList :: (bodyLines categories tokens ++ [rootClose.toList])).reverse.dropWhile
    _).reverse = _
  rw [List.reverse_cons, List.reverse_append, List.reverse_singleton, List.singleton_append,
    List.cons_append, List.dropWhile_cons_of_neg (by simp [filled])]
  simp

/-- A written file is read as its body, the root lines being right. -/
theorem readTokens_dump (categories : Bool) (tokens : List Token) :
    readTokens (dump categories tokens) = readBlocks 1 (bodyLines categories tokens) := by
  have opening : isTag rootOpen rootOpen.toList = true := by decide
  have closing : isTag rootClose rootClose.toList = true := by decide
  rw [readTokens, contentLines_dump]
  simp [opening, closing]

end Record

end MiniC
