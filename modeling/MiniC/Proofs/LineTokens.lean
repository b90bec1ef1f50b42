import MiniC.Proofs.PlainLines
import MiniC.Proofs.Respacing
import MiniC.Proofs.ShownLine

/-!
# The tokens on a line of a source

The tokens of a source come line by line, so those that share the line of a token form a
run in front of it.  They stand one behind another in the line that the source has there,
and none of them starts with a blank.
-/

namespace MiniC

open Context (Occurs Spread wordOf)

namespace Lexer

theorem lineAfter_append (line : Int) (before after : List Char) :
    lineAfter line (before ++ after) = lineAfter line before + after.count '\n' := by
  simp only [lineAfter, List.count_append, Int.natCast_add, Int.add_assoc]

theorem lastLine_of_sameLine (line : Int) {before after : List Char}
    (same : lineAfter line before = lineAfter line (before ++ after)) :
    lastLine (before ++ after) = lastLine before ++ after := by
  rw [lineAfter_append] at same
  exact lastLine_append (List.count_eq_zero.1 (by omega))

theorem tokenize_divided {source filename : String} {line : Int} {first free : Nat}
    {tokens : List Token} (accepted : tokenize source filename line first = (.ok tokens, free)) :
    ∃ front mark, tokens = front ++ [mark] ∧ mark.kind = .endOfInput ∧
      Divided line source.toList [] [] source.toList front := by
  have divided := scanFrom_divided filename (Cursor.After.atStart source.toList line)
  obtain ⟨done, rfl⟩ := tokenize_scanned (congrArg Prod.fst accepted)
  rw [scan] at done
  rw [done] at divided
  obtain ⟨front, parts, division⟩ := divided
  rw [scan, parts, numberFrom_append]
  exact ⟨_, _, rfl, rfl, division.numberFrom first⟩

namespace Divided

variable {line : Int} {place rest before text : List Char} {tokens : List Token}

theorem isPrefix (divided : Divided line place rest before text tokens) : before <+: place := by
  induction divided with
  | last isGap whole => exact ⟨_, whole⟩
  | token isGap filled inside lineEq more induction =>
      rw [List.append_assoc] at induction
      exact (List.prefix_append _ _).trans induction

theorem whole (divided : Divided line place rest before text tokens) :
    before ++ text = place ++ rest := by
  induction divided with
  | last isGap whole => rw [← List.append_assoc, whole]
  | token isGap filled inside lineEq more induction => simpa using induction

theorem cut (divided : Divided line place rest before text tokens) {index : Nat} {token : Token}
    (found : tokens[index]? = some token) :
    ∃ stop after, Divided line stop (token.lexeme.toList ++ after) before text (tokens.take index) ∧
      token.line = lineAfter line stop := by
  induction divided generalizing index with
  | last => simp at found
  | @token before gap text other others isGap filled inside lineEq more induction =>
      cases index with
      | zero =>
          obtain rfl : other = token := by simpa using found
          exact ⟨before ++ gap, text, .last isGap rfl, lineEq⟩
      | succ index =>
          obtain ⟨stop, after, division, stopLine⟩ := induction (by simpa using found)
          exact ⟨stop, after, .token isGap filled inside lineEq division, stopLine⟩

theorem lines_ascend (divided : Divided line place rest before text tokens) :
    tokens.Pairwise (fun earlier later => earlier.line ≤ later.line) ∧
      ∀ token ∈ tokens, lineAfter line before ≤ token.line ∧ token.line ≤ lineAfter line place := by
  induction divided with
  | last => simp
  | token isGap filled inside lineEq more induction =>
      obtain ⟨ascending, bounds⟩ := induction
      obtain ⟨between, rfl⟩ := more.isPrefix
      simp only [lineAfter_append] at lineEq bounds ⊢
      refine ⟨List.pairwise_cons.2 ⟨fun later member => ?_, ascending⟩,
        List.forall_mem_cons.2 ⟨by omega, fun later member => ?_⟩⟩
      · have := (bounds later member).1
        omega
      · have := bounds later member
        omega

/-- The tokens on the line that a division ends in stand one behind another in that line. -/
theorem spread (divided : Divided line place rest before text tokens) {shown : List Char}
    (front : lastLine place <+: shown) {words : List (List Char)} {starts : List Nat}
    (later : Spread shown (lastLine place).length words starts) {passed : Nat}
    (reached : passed ≤
      if lineAfter line before = lineAfter line place then (lastLine before).length else 0) :
    ∃ places,
      Spread shown passed
        ((tokens.filter fun token => token.line = lineAfter line place).map wordOf ++ words)
        (places ++ starts) := by
  induction divided generalizing passed with
  | @last before gap isGap whole =>
      refine ⟨[], later.earlier ?_⟩
      split at reached
      next same =>
        rw [← whole] at same ⊢
        rw [lastLine_of_sameLine line same, List.length_append]
        omega
      next => omega
  | @token before gap text token others isGap filled inside lineEq more induction =>
      obtain ⟨between, whole⟩ := more.isPrefix
      have sofar : lineAfter line place = lineAfter line (before ++ gap) +
          (token.lexeme.toList.count '\n' + between.count '\n' : Nat) := by
        rw [← whole, lineAfter_append, lineAfter_append]
        omega
      have behind := lineAfter_append line (before ++ gap) token.lexeme.toList
      have gapLine := lineAfter_append line before gap
      by_cases onLine : token.line = lineAfter line place
      · -- no line feed follows the place of the token, which is its column therefore
        have start : lastLine place =
            lastLine (before ++ gap) ++ (token.lexeme.toList ++ between) := by
          rw [← whole, List.append_assoc] at onLine ⊢
          exact lastLine_of_sameLine line (lineEq.symm.trans onLine)
        have beyond : lastLine (before ++ gap ++ token.lexeme.toList) =
            lastLine (before ++ gap) ++ token.lexeme.toList :=
          lastLine_of_sameLine line (by omega)
        have reachedNext : (lastLine (before ++ gap)).length + token.lexeme.toList.length ≤
            if lineAfter line (before ++ gap ++ token.lexeme.toList) = lineAfter line place then
              (lastLine (before ++ gap ++ token.lexeme.toList)).length
            else 0 := by
          rw [if_pos (by omega), beyond, List.length_append]
        obtain ⟨places, others⟩ := induction reachedNext
        have occurs : Occurs (wordOf token) shown (lastLine (before ++ gap)).length := by
          obtain ⟨tail, rfl⟩ := front
          rw [start]
          refine ⟨by simp only [List.length_append]; omega, ?_⟩
          rw [List.append_assoc, List.drop_left, List.append_assoc]
          exact List.prefix_append _ _
        refine ⟨(lastLine (before ++ gap)).length :: places, ?_⟩
        rw [List.filter_cons_of_pos (by simpa using onLine), List.map_cons]
        refine .next ?_ occurs others
        split at reached
        next same =>
          rw [lastLine_of_sameLine line (by omega), List.length_append]
          omega
        next => omega
      · obtain ⟨places, others⟩ := induction (Nat.zero_le _)
        have none : passed = 0 := by
          rw [if_neg (by omega)] at reached
          omega
        refine ⟨places, ?_⟩
        rw [List.filter_cons_of_neg (by simpa using onLine), none]
        exact others

end Divided

theorem rtakeWhile_eq_filter {α : Type} {test : α → Bool} {list : List α}
    (ascending : list.Pairwise fun earlier later => test earlier = true → test later = true) :
    list.rtakeWhile test = list.filter test := by
  induction list using List.reverseRecOn with
  | nil => rfl
  | append_singleton list last induction =>
      obtain ⟨front, -, bounds⟩ := List.pairwise_append.1 ascending
      rw [List.filter_append]
      cases passes : test last with
      | true => rw [List.rtakeWhile_concat_pos _ _ _ passes, induction front]; simp [passes]
      | false =>
          rw [List.rtakeWhile_concat_neg _ _ _ (by simp [passes])]
          have none : list.filter test = [] := by
            refine List.filter_eq_nil_iff.2 fun earlier member holds => ?_
            rw [bounds earlier member last (List.mem_singleton_self _) holds] at passes
            cases passes
          simp [none, passes]

theorem Divided.run_before {line : Int} {place rest text : List Char} {tokens : List Token}
    {index : Nat} {token : Token}
    (divided : Divided line place rest [] text (tokens.take index))
    (lineEq : token.line = lineAfter line place) :
    (Context.run tokens index token).before =
      (tokens.take index).filter fun other => other.line = lineAfter line place := by
  obtain ⟨ascending, bounds⟩ := divided.lines_ascend
  change (tokens.take index).rtakeWhile (fun other => decide (other.line = token.line)) = _
  rw [lineEq]
  refine rtakeWhile_eq_filter (ascending.imp_of_mem fun {earlier later} _ member le same => ?_)
  have same := of_decide_eq_true same
  have upper := (bounds later member).2
  exact decide_eq_true (by omega)

theorem Legible.solid {token : Token} (legible : Legible token) :
    ∃ c rest, wordOf token = c :: rest ∧ isGapBlank c = false := by
  obtain ⟨text, lexeme, found, same⟩ := legible
  have lexemeEq : token.lexeme = String.ofList lexeme.text := congrArg (·.2.1) same
  obtain ⟨after, parts⟩ := Lexeme.scan?_prefix found
  obtain ⟨c, rest, shape⟩ := List.exists_cons_of_ne_nil (Lexeme.scan?_text_ne_nil found)
  rw [shape, List.cons_append] at parts
  subst parts
  exact ⟨c, rest, by rw [wordOf, lexemeEq, String.toList_ofList, shape],
    (startsToken_of_scan? found).solid⟩

theorem Legible.ne_nil {token : Token} (legible : Legible token) : wordOf token ≠ [] := by
  obtain ⟨c, rest, shape, -⟩ := legible.solid
  simp [shape]

end Lexer

end MiniC
