import Mathlib.Data.List.DropRight
import MiniC.Diagnostic.Listing
import MiniC.Proofs.Occurrences

/-!
# The line that is shown for a token

Whatever the tokens, the lines and the position are, the line that is shown holds the
text of the token at the column that is shown with it.  It is the known line of the token
if all tokens of its run stand there one behind another, and then each of them is found
in turn.  Otherwise it is put together from the run.
-/

namespace MiniC

namespace Context

/-- The text of a token. -/
def wordOf (token : Token) : List Char :=
  token.lexeme.toList

/-- A run of tokens on one line that cannot be made longer, with the tokens before it and
after it. -/
structure Longest (tokens front : List Token) (run : Run) (back : List Token) : Prop where
  whole : tokens = front ++ (run.before ++ run.token :: run.after) ++ back
  sameLine : ∀ other ∈ run.before ++ run.after, other.line = run.token.line
  opens : ∀ other ∈ front.getLast?, other.line ≠ run.token.line
  closes : ∀ other ∈ back.head?, other.line ≠ run.token.line

/-- The words of a run up to its token. -/
def Run.words (run : Run) : List (List Char) :=
  run.before.map wordOf ++ [wordOf run.token]

/-- The text that the line of a run is known to have. -/
def Known (sourceLines : Option (List String)) (run : Run) (line : List Char) : Prop :=
  ∃ lines, sourceLines = some lines ∧ 0 < run.token.line ∧
    lines[run.token.line.toNat - 1]? = some (String.ofList line)

/-- A known line with the column of the last word of a run, all words of the run being found in
turn. -/
structure Located (sourceLines : Option (List String)) (run : Run) (view : View)
    (starts : List Nat) (start : Nat) : Prop where
  known : Known sourceLines run view.text.toList
  turn : InTurn view.text.toList 0 run.words (starts ++ [start])
  column : view.column = start + 1
  occurs : Occurs (wordOf run.token) view.text.toList start
  /-- The words before it end before it starts. -/
  apart : List.Forall₂ (fun other before => before + (wordOf other).length ≤ start)
    run.before starts

/-- The line that is put together from a run, with what stands before and after the word of its
token. -/
structure Assembled (run : Run) (view : View) (front back : List Char) : Prop where
  joined : [' '].intercalate ((run.before ++ run.token :: run.after).map wordOf) =
    front ++ wordOf run.token ++ back
  piece : front = run.before.flatMap fun other => wordOf other ++ [' ']
  text : view.text =
    String.ofList (Text.trimEnd Text.isBlank (front ++ wordOf run.token ++ back))
  column : view.column = front.length + 1

/-! ## Runs -/

theorem longest_run {tokens : List Token} {index : Nat} {token : Token}
    (found : tokens[index]? = some token) :
    ∃ front back, Longest tokens front (run tokens index token) back ∧
      front.length + (run tokens index token).before.length = index := by
  let sameLine := fun (other : Token) => decide (other.line = token.line)
  obtain ⟨inside, held⟩ := List.getElem?_eq_some_iff.1 found
  have before : (tokens.take index).rdropWhile sameLine ++ (run tokens index token).before =
      tokens.take index :=
    List.rdropWhile_append_rtakeWhile
  have after : (run tokens index token).after ++ (tokens.drop (index + 1)).dropWhile sameLine =
      tokens.drop (index + 1) :=
    List.takeWhile_append_dropWhile
  refine ⟨(tokens.take index).rdropWhile sameLine,
    (tokens.drop (index + 1)).dropWhile sameLine, ⟨?_, ?_, ?_, ?_⟩, ?_⟩
  · calc tokens
      _ = tokens.take index ++ token :: tokens.drop (index + 1) := by simp [← held]
      _ = ((tokens.take index).rdropWhile sameLine ++ (run tokens index token).before) ++
          token :: ((run tokens index token).after ++
            (tokens.drop (index + 1)).dropWhile sameLine) := by
        rw [before, after]
      _ = _ := by simp only [List.append_assoc, List.cons_append, run]
  · intro other member
    rcases List.mem_append.1 member with earlier | later
    · exact of_decide_eq_true (List.mem_rtakeWhile_imp (p := sameLine) earlier)
    · exact of_decide_eq_true (List.all_eq_true.1 List.all_takeWhile other later)
  · intro other last
    rw [List.rdropWhile, List.getLast?_reverse] at last
    have stopped := List.head?_dropWhile_not sameLine (tokens.take index).reverse
    rw [Option.mem_def.1 last] at stopped
    exact of_decide_eq_false stopped
  · intro other first
    have stopped := List.head?_dropWhile_not sameLine (tokens.drop (index + 1))
    rw [Option.mem_def.1 first] at stopped
    exact of_decide_eq_false stopped
  · rw [← List.length_append, before, List.length_take]
    omega

/-! ## Views -/

theorem known_iff {sourceLines : Option (List String)} {run : Run} {line : List Char} :
    Known sourceLines run line ↔
      (sourceLines.bind fun lines => knownLine? lines run.token.line) =
        some (String.ofList line) := by
  cases sourceLines with
  | none => simp [Known]
  | some lines =>
      simp only [Known, Option.some.injEq, exists_eq_left', Option.bind_some, knownLine?]
      split
      next positive => simp [positive]
      next notPositive => simp [notPositive]

/-- A line is known to have one text only. -/
theorem Known.unique {sourceLines : Option (List String)} {run : Run} {first second : List Char}
    (firstKnown : Known sourceLines run first) (secondKnown : Known sourceLines run second) :
    first = second := by
  have same := (known_iff.1 firstKnown).symm.trans (known_iff.1 secondKnown)
  exact String.ofList_inj.1 (Option.some.inj same)

theorem intercalate_around (before after : List (List Char)) (word : List Char) :
    [' '].intercalate (before ++ word :: after) =
      before.flatMap (· ++ [' ']) ++ word ++ after.flatMap (' ' :: ·) := by
  induction before with
  | nil =>
      induction after generalizing word with
      | nil => simp [List.intercalate]
      | cons next after induction => simpa [List.intercalate] using induction next
  | cons first before induction =>
      have step : [' '].intercalate (first :: (before ++ word :: after)) =
          first ++ [' '] ++ [' '].intercalate (before ++ word :: after) := by
        cases before <;> simp [List.intercalate]
      rw [List.cons_append, step, induction, List.flatMap_cons]
      simp

theorem foldl_width (tokens : List Token) (width : Nat) :
    tokens.foldl (fun width token => width + token.lexeme.length + 1) width =
      width + (tokens.flatMap fun token => wordOf token ++ [' ']).length := by
  induction tokens generalizing width with
  | nil => rfl
  | cons token tokens induction =>
      rw [List.foldl_cons, induction, List.flatMap_cons, List.length_append]
      simp only [wordOf, List.length_append, List.length_singleton, String.length_toList]
      omega

/-- The view that is put together has the word of its token at its column. -/
theorem assembled_spec (run : Run) :
    Assembled run (assembled run) (run.before.flatMap fun other => wordOf other ++ [' '])
      (run.after.flatMap fun other => ' ' :: wordOf other) := by
  have joined : [' '].intercalate ((run.before ++ run.token :: run.after).map wordOf) =
      (run.before.flatMap fun other => wordOf other ++ [' ']) ++ wordOf run.token ++
        run.after.flatMap fun other => ' ' :: wordOf other := by
    rw [List.map_append, List.map_cons, intercalate_around, List.flatMap_map, List.flatMap_map]
  refine ⟨joined, rfl, ?_, ?_⟩
  · rw [← joined]
    rfl
  · simp only [assembled, foldl_width, Nat.zero_add]

/-- A view is the known line with the words found in turn, or else put together. -/
theorem view_cases (sourceLines : Option (List String)) (run : Run) :
    (∃ starts start, Located sourceLines run (view sourceLines run) starts start) ∨
      (∀ line starts, Known sourceLines run line → ¬ Spread line 0 run.words starts) ∧
        view sourceLines run = assembled run := by
  cases known : sourceLines.bind fun lines => knownLine? lines run.token.line with
  | none =>
      refine .inr ⟨fun line starts lineKnown => ?_, by simp [view, known]⟩
      rw [known_iff, known] at lineKnown
      cases lineKnown
  | some text =>
      have textKnown : Known sourceLines run text.toList := by
        rw [known_iff, known, String.ofList_toList]
      cases search : locate? (wordOf run.token) 0 (run.before.map wordOf) text.toList with
      | none =>
          have lost : found? run text = none := Option.map_eq_none_iff.2 search
          refine .inr ⟨fun line starts lineKnown => ?_, by simp [view, known, lost]⟩
          rw [known_iff, known, Option.some.injEq] at lineKnown
          subst lineKnown
          rw [String.toList_ofList] at search
          exact not_spread_of_locate? (Nat.zero_le _) search starts
      | some start =>
          have found : found? run text = some ⟨text, start + 1⟩ :=
            Option.map_eq_some_iff.2 ⟨start, search, rfl⟩
          have shown : view sourceLines run = ⟨text, start + 1⟩ := by simp [view, known, found]
          obtain ⟨starts, turn⟩ := inTurn_of_locate? (Nat.zero_le _) search
          obtain ⟨-, occurs, apart⟩ := turn.spread.stop_le
          rw [shown]
          exact .inl ⟨starts, start, textKnown, turn, rfl, occurs,
            List.forall₂_map_left_iff.1 apart⟩

end Context

namespace Listing

open Context (Longest Located Known Spread Assembled)

/-- The line that is shown for a position has the text of the nearest token at the column that is
shown: in the known line of the token, where the words of its run are found in turn, or, exactly
if they do not stand there one behind another, in the line that is put together from the run. -/
theorem view_shows_token (listing : Listing) (position : Int) :
    ∃ (run : Context.Run) (before after : List Token),
      Longest listing.tokens.toList before run after ∧
      ((before.length + run.before.length : Nat) : Int) =
        max 0 (min position (listing.tokens.size - 1)) ∧
      ((∃ starts start, Located listing.sourceLines run (listing.view position) starts start) ∨
        (∀ line starts, Known listing.sourceLines run line → ¬ Spread line 0 run.words starts) ∧
          ∃ front back, Assembled run (listing.view position) front back) := by
  have filled := listing.nonempty
  have found : listing.tokens.toList[(listing.indexOf position).val]? =
      some (listing.tokenAt position) := by
    rw [Array.getElem?_toList]
    exact Array.getElem?_eq_getElem (listing.indexOf position).isLt
  obtain ⟨before, after, longest, counted⟩ := Context.longest_run found
  refine ⟨_, before, after, longest, ?_, ?_⟩
  · rw [counted]
    simp only [indexOf]
    omega
  · refine (Context.view_cases listing.sourceLines _).imp_right fun ⟨nowhere, shown⟩ =>
      ⟨nowhere, ?_⟩
    exact ⟨_, _, shown ▸ Context.assembled_spec _⟩

end Listing

end MiniC
