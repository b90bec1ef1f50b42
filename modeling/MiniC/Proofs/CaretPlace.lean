import Mathlib.Order.Bounds.Basic
import MiniC.Proofs.LineTokens
import MiniC.Proofs.RecordedSource

/-!
# The place of the caret

Tokens carry no columns, so a line is searched for the tokens on it.  The tokens of a
source do stand one behind another in their line, so the search always succeeds where the
lines end plainly.  The caret stands under the token itself exactly if its line has no
place for the same words that puts the last one earlier; a comment may provide one.
Between tokens that only blanks separate the caret is always right.
-/

namespace MiniC

open Context (Occurs Spread wordOf)

namespace Context

open Lexer (isGapBlank)

/-- A text of words that are separated by blanks only. -/
inductive Spaced : List Char → List (List Char) → Prop
  | last {gap : List Char} (blank : ∀ c ∈ gap, isGapBlank c = true) : Spaced gap []
  | word {gap word text : List Char} {words : List (List Char)}
      (blank : ∀ c ∈ gap, isGapBlank c = true) (more : Spaced text words) :
      Spaced (gap ++ (word ++ text)) (word :: words)

/-- A word that starts with no blank does not start among blanks. -/
theorem Occurs.behind_gap {front gap rest word : List Char} {start : Nat}
    (occurs : Occurs word (front ++ (gap ++ rest)) start) (reached : front.length ≤ start)
    (blank : ∀ c ∈ gap, isGapBlank c = true)
    (solid : ∃ c rest, word = c :: rest ∧ isGapBlank c = false) :
    front.length + gap.length ≤ start := by
  obtain ⟨c, others, rfl, notBlank⟩ := solid
  refine Nat.le_of_not_lt fun early => ?_
  obtain ⟨tail, parts⟩ := occurs.2
  have first : (front ++ (gap ++ rest))[start]? = some c := by
    rw [← Nat.add_zero start, ← List.getElem?_drop, ← parts]
    rfl
  rw [List.getElem?_append_right reached, List.getElem?_append_left (by omega)] at first
  rw [blank c (List.mem_of_getElem? first)] at notBlank
  cases notBlank

/-- Between words that blanks separate no word can be placed earlier. -/
theorem Spaced.le {before : List Char} {words : List (List Char)} (spaced : Spaced before words)
    {front rest last : List Char} {passed start : Nat} {starts : List Nat}
    (solid : ∀ word ∈ words ++ [last], ∃ c rest, word = c :: rest ∧ isGapBlank c = false)
    (reached : front.length ≤ passed)
    (spread : Spread (front ++ (before ++ rest)) passed (words ++ [last]) (starts ++ [start])) :
    front.length + before.length ≤ start := by
  induction spaced generalizing front passed starts with
  | last blank =>
      have lastSolid := solid last (by simp)
      obtain ⟨beyond, occurs, -⟩ := spread.stop_le
      exact occurs.behind_gap (Nat.le_trans reached beyond) blank lastSolid
  | @word gap word text words blank more induction =>
      obtain ⟨wordSolid, others⟩ := List.forall_mem_cons.1 solid
      generalize placed : starts ++ [start] = places at spread
      cases spread with
      | @next _ first _ _ tail beyond occurs later =>
          rw [List.append_assoc] at occurs
          have behind := occurs.behind_gap (Nat.le_trans reached beyond) blank wordSolid
          cases starts with
          | nil =>
              obtain ⟨-, rfl⟩ := List.cons.inj placed
              have := later.length_eq
              simp at this
          | cons other starts =>
              obtain ⟨rfl, rfl⟩ := List.cons.inj placed
              have reachedNext : (front ++ (gap ++ word)).length ≤ other + word.length := by
                simp only [List.length_append]
                omega
              have further := induction others reachedNext (by simpa using later)
              simp only [List.length_append] at further ⊢
              omega

/-- The places of the last of some words that stand in a line one behind another. -/
def Placements (line : List Char) (words : List (List Char)) : Set Nat :=
  {start | ∃ starts, Spread line 0 words (starts ++ [start])}

theorem InTurn.isLeast {line : List Char} {words : List (List Char)} {starts : List Nat}
    {start : Nat} (turn : InTurn line 0 words (starts ++ [start])) :
    IsLeast (Placements line words) start := by
  refine ⟨⟨starts, turn.spread⟩, fun other ⟨others, spread⟩ => ?_⟩
  have pointwise := List.forall₂_reverse_iff.2 (turn.le spread (Nat.le_refl _))
  simp only [List.reverse_append, List.reverse_singleton, List.singleton_append,
    List.forall₂_cons] at pointwise
  exact pointwise.1

end Context

namespace Listing

open Context (Placements Spaced)
open Lexer (Divided lastLine lineAfter)
open Text (PlainBreaks lineAt)

/-- A diagnostic is shown with a line and a caret behind a number of characters of it. -/
def ShowsCaret (listing : Listing) (diagnostic : Diagnostic) (line : List Char) (column : Nat) :
    Prop :=
  listing.format diagnostic = "\n".intercalate
    [(listing.notice diagnostic).headline, String.ofList (List.replicate 4 ' ' ++ line),
      String.ofList (List.replicate (4 + column) ' ' ++ ['^'])]

/-- The caret stands at the column of the view, or behind the text of its token. -/
theorem showsCaret_of_view {listing : Listing} {diagnostic : Diagnostic} {text : String}
    {column : Nat} (view : listing.view diagnostic.position = ⟨text, column + 1⟩) :
    listing.ShowsCaret diagnostic text.toList
      (column + if diagnostic.placement = .after then
        (listing.tokenAt diagnostic.position).lexeme.length else 0) := by
  generalize widthEq : (if diagnostic.placement = .after then
    (listing.tokenAt diagnostic.position).lexeme.length else 0) = width
  have caret : (listing.notice diagnostic).caret? = some ((column + width + 1 : Nat) : Int) := by
    simp only [Source.Notice.caret?, notice, view]
    split at widthEq
    next behind =>
      simp only [if_pos behind, widthEq]
      push_cast
      congr 1
      omega
    next inside => simp only [if_neg inside, ← widthEq]
  have caretLine : (listing.notice diagnostic).caretLine =
      [String.ofList (List.replicate (4 + (column + width)) ' ' ++ ['^'])] := by
    have behind : Source.Notice.margin + ((column + width + 1 : Nat) : Int).toNat - 1 =
        4 + (column + width) := by
      simp only [Source.Notice.margin]
      omega
    simp only [Source.Notice.caretLine, caret, behind, String.ofList_append]
    exact if_pos (by omega)
  have line : (listing.notice diagnostic).sourceLine = some text := by simp only [notice, view]
  have margin : String.ofList (List.replicate Source.Notice.margin ' ') ++ text =
      String.ofList (List.replicate 4 ' ' ++ text.toList) := by
    rw [String.ofList_append, String.ofList_toList, Source.Notice.margin]
  have noHint : (listing.notice diagnostic).hintLine = [] := rfl
  rw [ShowsCaret, format, Source.Notice.text, noHint, Source.Notice.context, line]
  dsimp only
  rw [caretLine, margin]
  rfl

theorem view_of_getElem? {listing : Listing} {index : Nat} {token : Token} {position : Int}
    (found : listing.tokens.toList[index]? = some token) (positionEq : position = index) :
    listing.tokenAt position = token ∧
      listing.view position =
        Context.view listing.sourceLines (Context.run listing.tokens.toList index token) := by
  have size : index < listing.tokens.size := by
    rw [← Array.length_toList]
    exact (List.getElem?_eq_some_iff.1 found).1
  have indexEq : (listing.indexOf position).val = index := by
    simp only [indexOf, positionEq]
    omega
  have tokenEq : listing.tokenAt position = token := by
    rw [Array.getElem?_toList, ← indexEq] at found
    exact Option.some.inj ((Array.getElem?_eq_getElem _).symm.trans found)
  refine ⟨tokenEq, ?_⟩
  rw [← indexEq, ← tokenEq]
  rfl

end Listing

namespace Lexer

open Context (Placements Spaced)
open Text (PlainBreaks lineAt)

/-- The tokens of an accepted source are legible, and each of them stands behind a division of the
text before it. -/
theorem tokenize_cut {source filename : String} {line : Int} {first free : Nat}
    {tokens : List Token} (accepted : tokenize source filename line first = (.ok tokens, free))
    {index : Nat} {token : Token} (found : tokens[index]? = some token)
    (inside : token.kind ≠ .endOfInput) :
    ∃ place after,
      Divided line place (wordOf token ++ after) [] source.toList (tokens.take index) ∧
      token.line = lineAfter line place ∧ (∀ other ∈ tokens.take index, Legible other) ∧
      Legible token := by
  obtain ⟨front, mark, rfl, ends, division⟩ := tokenize_divided accepted
  have legible : ∀ other ∈ front, Legible other := by
    obtain ⟨others, last, parts, -, each⟩ := tokenize_legible (congrArg Prod.fst accepted)
    exact (List.append_inj_left' parts rfl) ▸ each
  have inFront : index < front.length := by
    refine Nat.lt_of_not_le fun beyond => inside ?_
    rw [List.getElem?_append_right beyond] at found
    rw [List.mem_singleton.1 (List.mem_of_getElem? found), ends]
  rw [List.getElem?_append_left inFront] at found
  rw [List.take_append_of_le_length (Nat.le_of_lt inFront)]
  obtain ⟨place, after, cut, lineEq⟩ := division.cut found
  exact ⟨place, after, cut, lineEq, fun other member => legible other (List.mem_of_mem_take member),
    legible token (List.mem_of_getElem? found)⟩

/-- Behind words that only blanks separate, a token is not found before its own column. -/
theorem Divided.le_of_spaced {line : Int} {place after text : List Char} {tokens : List Token}
    {index : Nat} {token : Token}
    (divided : Divided line place (wordOf token ++ after) [] text (tokens.take index))
    (lineEq : token.line = lineAfter line place)
    (legible : ∀ other ∈ tokens.take index, Legible other) (ownLegible : Legible token)
    (unbroken : Record.Unbroken token.lexeme)
    (spaced : Spaced (lastLine place) ((Context.run tokens index token).before.map wordOf))
    {starts : List Nat} {column : Nat}
    (spread : Spread (lineAt place (wordOf token ++ after)) 0
      (Context.run tokens index token).words (starts ++ [column])) :
    (lastLine place).length ≤ column := by
  have solid : ∀ word ∈ (Context.run tokens index token).words,
      ∃ c rest, word = c :: rest ∧ isGapBlank c = false := by
    simp only [Context.Run.words, List.forall_mem_append, List.forall_mem_singleton,
      List.forall_mem_map]
    refine ⟨fun other member => (legible other ?_).solid, ownLegible.solid⟩
    rw [divided.run_before lineEq] at member
    exact List.mem_of_mem_filter member
  rw [@Text.lineAt_word place (wordOf token) after ownLegible.ne_nil unbroken] at spread
  simpa using @Context.Spaced.le _ _ spaced [] _ _ 0 _ _ solid (Nat.le_refl 0) spread

theorem Divided.view {source : String} {place after : List Char} {tokens : List Token} {index : Nat}
    {token : Token}
    (divided : Divided 1 place (wordOf token ++ after) [] source.toList (tokens.take index))
    (lineEq : token.line = lineAfter 1 place)
    (plain : PlainBreaks (place ++ (wordOf token ++ after).takeWhile (· ≠ '\n')))
    (filled : wordOf token ≠ []) (unbroken : Record.Unbroken token.lexeme) :
    (lastLine place).length ∈ Placements (lineAt place (wordOf token ++ after))
        (Context.run tokens index token).words ∧
      ∃ starts column,
        Context.view (some (Text.lineStrings source)) (Context.run tokens index token) =
          ⟨String.ofList (lineAt place (wordOf token ++ after)), column + 1⟩ ∧
        Context.InTurn (lineAt place (wordOf token ++ after)) 0
          (Context.run tokens index token).words (starts ++ [column]) := by
  have line := @Text.lineAt_word place (wordOf token) after filled unbroken
  have occurs : Occurs (wordOf token) (lineAt place (wordOf token ++ after))
      (lastLine place).length := by
    rw [line]
    refine ⟨by simp, ?_⟩
    rw [List.drop_left]
    exact List.prefix_append _ _
  obtain ⟨places, spread⟩ := divided.spread (line ▸ List.prefix_append _ _)
    (.next (Nat.le_refl _) occurs .done) (Nat.zero_le _)
  rw [← divided.run_before lineEq] at spread
  have known : Context.Known (some (Text.lineStrings source)) (Context.run tokens index token)
      (lineAt place (wordOf token ++ after)) := by
    have number : token.line.toNat - 1 = place.count '\n' := by
      rw [lineEq, lineAfter]
      omega
    refine ⟨_, rfl, ?_, ?_⟩
    · change 0 < token.line
      rw [lineEq, lineAfter]
      omega
    · change (Text.lineStrings source)[token.line.toNat - 1]? = _
      have whole : source.toList = place ++ (wordOf token ++ after) := divided.whole
      rw [number, Text.lineStrings, whole, List.getElem?_map,
        Text.lines_word filled unbroken plain]
      rfl
  refine ⟨⟨places, spread⟩, ?_⟩
  rcases Context.view_cases (some (Text.lineStrings source)) (Context.run tokens index token) with
    ⟨starts, column, located⟩ | ⟨nowhere, -⟩
  · have text := located.known.unique known
    refine ⟨starts, column, ?_, text ▸ located.turn⟩
    rw [← text, String.ofList_toList, ← located.column]
  · exact absurd spread (nowhere _ _ known)

end Lexer

namespace Listing

open Context (Placements Spaced)
open Lexer (Divided lastLine)
open Text (PlainBreaks lineAt)

/-- A diagnostic about a token of an accepted source is shown with the line of the token, if the
lines up to there end plainly and the token holds no line break.  The caret stands at the least
place that the last word of the run can have in that line.  The column of the token is such a
place, so the caret stands under the token, or behind its last character, exactly if no place for
the words puts the last one earlier, and always if only blanks separate the words. -/
theorem format_caret {source filename : String} {first free : Nat} {tokens : List Token}
    (accepted : Lexer.tokenize source filename 1 first = (.ok tokens, free)) {listing : Listing}
    (held : listing.tokens.toList = tokens)
    (known : listing.sourceLines = some (Text.lineStrings source)) {index : Nat} {token : Token}
    (found : tokens[index]? = some token) (inside : token.kind ≠ .endOfInput) :
    ∃ place after : List Char,
      Divided 1 place (wordOf token ++ after) [] source.toList (tokens.take index) ∧
      (PlainBreaks (place ++ (wordOf token ++ after).takeWhile (· ≠ '\n')) →
        Record.Unbroken token.lexeme →
        ∃ column,
          IsLeast (Placements (lineAt place (wordOf token ++ after))
            (Context.run tokens index token).words) column ∧
          (lastLine place).length ∈ Placements (lineAt place (wordOf token ++ after))
            (Context.run tokens index token).words ∧
          (Spaced (lastLine place) ((Context.run tokens index token).before.map wordOf) →
            column = (lastLine place).length) ∧
          ∀ diagnostic : Diagnostic, diagnostic.position = index →
            listing.ShowsCaret diagnostic (lineAt place (wordOf token ++ after))
              (column + if diagnostic.placement = .after then token.lexeme.length else 0)) := by
  obtain ⟨place, after, cut, lineEq, legible, ownLegible⟩ :=
    Lexer.tokenize_cut accepted found inside
  refine ⟨place, after, cut, fun plain unbroken => ?_⟩
  obtain ⟨placed, starts, column, view, turn⟩ := cut.view lineEq plain ownLegible.ne_nil unbroken
  have least := turn.isLeast
  refine ⟨column, least, placed, fun spaced => ?_, fun diagnostic position => ?_⟩
  · have behind := cut.le_of_spaced lineEq legible ownLegible unbroken spaced turn.spread
    exact Nat.le_antisymm (least.2 placed) behind
  · obtain ⟨tokenEq, shown⟩ := view_of_getElem? (held ▸ found) position
    rw [held, known, view] at shown
    have caret := showsCaret_of_view shown
    rwa [String.toList_ofList, tokenEq] at caret

/-- A name that is repeated behind a comment. -/
def repeatedSource : String := "a /* b */ a;"

/-- The tokens of a repeated name. -/
def repeatedTokens : List Token :=
  [{ kind := .identifier, lexeme := "a", line := 1, number := 0 },
   { kind := .identifier, lexeme := "a", line := 1, number := 1 },
   { kind := .semicolon, lexeme := ";", line := 1, number := 2 },
   { kind := .endOfInput, lexeme := "", line := 1, number := 3 }]

/-- The listing of a source and its tokens. -/
def listingOf (source : String) (tokens : List Token) (filled : 0 < tokens.toArray.size) :
    Listing where
  tokens := tokens.toArray
  nonempty := filled
  filename := "<input>"
  sourceLines := some (Text.lineStrings source)

/-- The second of two equal names is shown at the least place behind the first. -/
theorem format_caret_repeated :
    Lexer.tokenize repeatedSource "<input>" 1 0 = (.ok repeatedTokens, 4) ∧
      ∃ place after : List Char,
        Divided 1 place (['a'] ++ after) [] repeatedSource.toList (repeatedTokens.take 1) ∧
        ∃ column, IsLeast (Placements (lineAt place (['a'] ++ after)) [['a'], ['a']]) column ∧
          (lastLine place).length ∈ Placements (lineAt place (['a'] ++ after)) [['a'], ['a']] ∧
          (Spaced (lastLine place) [['a']] → column = (lastLine place).length) ∧
          ∀ diagnostic : Diagnostic, diagnostic.position = (1 : Nat) →
            (listingOf repeatedSource repeatedTokens (by decide)).ShowsCaret diagnostic
              (lineAt place (['a'] ++ after))
              (column + if diagnostic.placement = .after then 1 else 0) := by
  have accepted : Lexer.tokenize repeatedSource "<input>" 1 0 = (.ok repeatedTokens, 4) :=
    Frontend.tokenize_of_scan (by decide +kernel) (by decide +kernel) rfl
  obtain ⟨place, after, divided, shown⟩ :=
    @format_caret _ _ _ _ _ accepted (listingOf repeatedSource repeatedTokens (by decide)) rfl rfl 1
      repeatedTokens[1] rfl (by decide)
  refine ⟨accepted, place, after, divided, shown ?_ (by decide)⟩
  have breakless : ∀ c ∈ repeatedSource.toList, ¬ Text.isLineBreak c = true :=
    List.any_eq_false.1 (by decide)
  have whole : repeatedSource.toList = place ++ (wordOf repeatedTokens[1] ++ after) :=
    divided.whole
  refine PlainBreaks.of_feeds fun c member breaks => ?_
  have inside : c ∈ repeatedSource.toList := by
    rw [whole]
    exact List.mem_append.2 ((List.mem_append.1 member).imp_right
      fun later => (List.takeWhile_prefix _).subset later)
  exact absurd breaks (breakless c inside)

/-- A name behind a comment that holds it. -/
def hiddenSource : String := "/* x */ x;"

/-- The tokens of a name behind a comment. -/
def hiddenTokens : List Token :=
  [{ kind := .identifier, lexeme := "x", line := 1, number := 0 },
   { kind := .semicolon, lexeme := ";", line := 1, number := 1 },
   { kind := .endOfInput, lexeme := "", line := 1, number := 2 }]

/-- The name stands at the ninth column of its line, and the caret at the fourth. -/
theorem hiddenSource_caret :
    Lexer.tokenize hiddenSource "<input>" 1 0 = (.ok hiddenTokens, 3) ∧
      Divided 1 "/* x */ ".toList "x;".toList [] hiddenSource.toList (hiddenTokens.take 0) ∧
      (Frontend.parseSource hiddenSource none {} 0).result.toOption.map
          (fun outcome => outcome.findings.errors.map outcome.listing.format) =
        some ["<input>:1: error: expected declaration at 'x'\n    /* x */ x;\n       ^"] := by
  refine ⟨Frontend.tokenize_of_scan (by decide +kernel) (by decide +kernel) rfl, ?_,
    by decide +kernel⟩
  have gap : Lexer.Gap "x;".toList "/* x */ ".toList :=
    @Lexer.Gap.blockComment _ [' ', 'x', ' '] [' '] (by decide) (.blank (by decide) .none)
  exact .last gap rfl

end Listing

end MiniC
