import MiniC.Proofs.OpenBrackets

/-!
# Brackets are matched both ways

The scan forward from a bracket finds the one that closes it, or fails at the first token
from which on nothing can close it.  The scan backward from a bracket finds the one that
opens it, and passes what the scan forward stops at.  So it takes the way of the scan
forward back, and the scan forward takes its way back unless it stops.
-/

namespace MiniC.Parser

/-- Why the bracket at an index is closed nowhere: at `depth`, and not before, it can be closed
no longer.  The token there is a bracket that closes another kind than the innermost open
one, and is reported itself, or it stops the scan, and the innermost open one is reported. -/
structure Mismatch (stream : TokenStream) (bracket : Bracket) (opening position depth : Nat) :
    Prop where
  closable : ∀ earlier < depth, Closable stream bracket opening earlier
  lost : ¬ Closable stream bracket opening depth
  reported : ∃ innermost outer,
    StillOpen stream bracket opening (innermost :: outer) depth ∧
      Barrier stream innermost position depth

/-- Brackets, the innermost first, that have yet to be opened before an index.  The outermost
of them is the one at `close`. -/
inductive StillClosed (stream : TokenStream) (bracket : Bracket) (close : Nat) :
    List Pending → Nat → Prop where
  | outermost {index : Nat} :
      Balanced stream index close → bracketRole (stream.kindAt close) = .closes bracket →
      StillClosed stream bracket close [⟨close, bracket⟩] index
  | inner {outer : List Pending} {place index : Nat} {nested : Bracket} :
      Balanced stream index place → bracketRole (stream.kindAt place) = .closes nested →
      StillClosed stream bracket close outer (place + 1) →
      StillClosed stream bracket close (⟨place, nested⟩ :: outer) index

/-! ## The scan backward -/

namespace StillClosed

variable {stream : TokenStream} {bracket : Bracket} {innermost : Pending}
  {pending outer : List Pending} {start index close : Nat}

theorem ne_nil (stillClosed : StillClosed stream bracket close pending index) : pending ≠ [] := by
  cases stillClosed <;> nofun

/-- The same brackets have yet to be opened before a balanced range. -/
theorem extend (stillClosed : StillClosed stream bracket close pending index)
    (more : Balanced stream start index) : StillClosed stream bracket close pending start := by
  cases stillClosed with
  | outermost balanced closes => exact .outermost (more.append balanced) closes
  | inner balanced closes around => exact .inner (more.append balanced) closes around

/-- A bracket that opens the innermost opens all if there is no other, and otherwise the
others have yet to be opened before it. -/
theorem openAt (stillClosed : StillClosed stream bracket close (innermost :: outer) (index + 1))
    (opens : bracketRole (stream.kindAt index) = .opens innermost.bracket) :
    outer = [] ∧ Bracketed stream bracket index close ∨
      StillClosed stream bracket close outer index := by
  cases stillClosed with
  | outermost balanced closes => exact .inl ⟨rfl, opens, balanced, closes⟩
  | inner balanced closes around => exact .inr (around.extend (.group opens balanced closes .nil))

end StillClosed

section Scans

variable {stream : TokenStream} {input : Input} {bracket : Bracket} {pending : List Pending}
  {start count origin opening close : Nat}

theorem lt_of_scanBackward
    (scanned : scanBackward stream origin start pending count = .ok (.ok opening)) :
    opening < start + count := by
  induction count generalizing pending with
  | zero => cases scanned
  | succ count induction =>
      cases scanBackward_step scanned with
      | closes _ rest => exact Nat.lt_succ_of_lt (induction rest)
      | opensLast _ _ found => exact Nat.lt_succ_of_le (Nat.le_of_eq found)
      | opens _ _ _ rest => exact Nat.lt_succ_of_lt (induction rest)
      | passes _ rest => exact Nat.lt_succ_of_lt (induction rest)

/-- A scan backward that passes no token that stops the scan forward finds the bracket that
opens the outermost one. -/
theorem StillClosed.scanBackward
    (stillClosed : StillClosed stream bracket close pending (start + count))
    (scanned : scanBackward stream origin start pending count = .ok (.ok opening))
    (passed : ∀ index, opening ≤ index → index < start + count →
      bracketRole (stream.kindAt index) ≠ .stops) :
    Bracketed stream bracket opening close := by
  induction count generalizing pending with
  | zero => cases scanned
  | succ count induction =>
      have onward {pending : List Pending}
          (next : StillClosed stream bracket close pending (start + count))
          (scanned : Parser.scanBackward stream origin start pending count = .ok (.ok opening)) :
          Bracketed stream bracket opening close :=
        induction next scanned fun index lower upper => passed index lower (by omega)
      have here : bracketRole (stream.kindAt (start + count)) ≠ .stops :=
        passed _ (Nat.le_of_lt_succ (lt_of_scanBackward scanned)) (Nat.lt_succ_self _)
      cases scanBackward_step scanned with
      | closes role rest => exact onward (.inner .nil role stillClosed) rest
      | opensLast role last found =>
          subst last found
          rcases stillClosed.openAt role with ⟨-, bracketed⟩ | more
          · exact bracketed
          · exact absurd rfl more.ne_nil
      | opens role nested nonempty rest =>
          subst nested
          rcases stillClosed.openAt role with ⟨last, -⟩ | more
          · exact absurd last nonempty
          · exact onward more rest
      | passes role rest =>
          exact onward (stillClosed.extend (.single (role.resolve_left here))) rest

/-- The scan backward finds the bracket that opens the one it starts from, unless it passes a
token that stops the scan forward. -/
theorem matchBackward_bracketed
    (closes : bracketRole (input.stream.kindAt close) = .closes bracket)
    (matched : matchBackward input close start = .ok (.ok opening))
    (passed : ∀ index, opening ≤ index → index ≤ close →
      bracketRole (input.stream.kindAt index) ≠ .stops) :
    Bracketed input.stream bracket opening close := by
  rcases Nat.lt_or_ge close start with beyond | ordered
  · unfold matchBackward at matched
    rw [Nat.sub_eq_zero_of_le beyond] at matched
    cases matched
  · rw [matchBackward_closes ordered closes] at matched
    have place : start + (close - start) = close := Nat.add_sub_cancel' ordered
    have stillClosed : StillClosed input.stream bracket close [⟨close, bracket⟩]
        (start + (close - start)) := by
      rw [place]
      exact .outermost .nil closes
    exact stillClosed.scanBackward matched fun index lower upper => passed index lower (by omega)

end Scans

/-- The scan forward from a bracket finds the one that closes it if there is one.  Otherwise it
fails at the first token from which on nothing can close it.  The scan backward finds the
way back from any start, and the scan forward finds the way back of the scan backward
unless there is a token that stops it. -/
theorem brackets_matched (input : Input) :
    (∀ opening bracket, bracketRole (input.stream.kindAt opening) = .opens bracket →
      (∀ closing, matchForward input opening = .ok (.ok closing) ↔
        Bracketed input.stream bracket opening closing) ∧
      ((¬ ∃ closing, Bracketed input.stream bracket opening closing) →
        ∃ position depth : Nat,
          matchForward input opening =
            .ok (.error (.failure .mismatchedDelimiter position (some depth))) ∧
          Mismatch input.stream bracket opening position depth) ∧
      ∀ closing, matchForward input opening = .ok (.ok closing) →
        (∀ index, opening ≤ index → index ≤ closing →
          bracketRole (input.stream.kindAt index) ≠ .stops) ∧
        ∀ start, start ≤ opening → matchBackward input closing start = .ok (.ok opening)) ∧
    ∀ closing bracket start opening,
      bracketRole (input.stream.kindAt closing) = .closes bracket →
      matchBackward input closing start = .ok (.ok opening) →
      (∀ index, opening ≤ index → index ≤ closing →
        bracketRole (input.stream.kindAt index) ≠ .stops) →
      matchForward input opening = .ok (.ok closing) := by
  refine ⟨fun opening bracket opens => ⟨fun closing => matchForward_eq_ok_iff opens, ?_, ?_⟩, ?_⟩
  · intro unclosed
    have stillOpen : StillOpen input.stream bracket opening [⟨opening, bracket⟩] (opening + 1) :=
      .outermost opens .nil
    obtain closed | ⟨innermost, outer, position, depth, blocked, barrier⟩ := stillOpen.ends
    · exact absurd closed unclosed
    · exact ⟨position, depth, blocked.matchForward_barrier barrier,
        fun earlier => blocked.closable, blocked.not_closable barrier,
        innermost, outer, blocked, barrier⟩
  · intro closing matched
    have bracketed := (matchForward_eq_ok_iff opens).mp matched
    exact ⟨fun index => bracketed.passed, fun start before =>
      matchBackward_eq before bracketed.opens bracketed.inner bracketed.closes⟩
  · intro closing bracket start opening closes matched passed
    exact (matchBackward_bracketed closes matched passed).matchForward

/-- Two groups that are not closed, one of them with a group inside: `( [ n ] ] ; [ ; ]`. -/
def crossedStream : TokenStream :=
  { tokens := #[
      { kind := .leftParen, lexeme := "(", line := 1 },
      { kind := .leftBracket, lexeme := "[", line := 1 },
      { kind := .identifier, lexeme := "n", line := 1 },
      { kind := .rightBracket, lexeme := "]", line := 1 },
      { kind := .rightBracket, lexeme := "]", line := 1 },
      { kind := .semicolon, lexeme := ";", line := 1 },
      { kind := .leftBracket, lexeme := "[", line := 1 },
      { kind := .semicolon, lexeme := ";", line := 1 },
      { kind := .rightBracket, lexeme := "]", line := 1 },
      { kind := .endOfInput, lexeme := "", line := 1 }]
    terminated := rfl }

/-- The group inside is found from both ends.  The round bracket is lost where another kind is
closed, and the last square one at the semicolon, which only the scan backward passes. -/
theorem brackets_matched_crossed :
    let input : Input := { stream := crossedStream, options := {} }
    (matchForward input 1 = .ok (.ok 3) ∧ matchBackward input 3 0 = .ok (.ok 1)) ∧
      Mismatch crossedStream .round 0 4 4 ∧ Mismatch crossedStream .square 6 6 7 ∧
      matchBackward input 8 0 = .ok (.ok 6) := by
  intro input
  obtain ⟨forward, backward⟩ := brackets_matched input
  have mismatched {opening position depth : Nat} {bracket : Bracket}
      (opens : bracketRole (crossedStream.kindAt opening) = .opens bracket)
      (failed : matchForward input opening =
        .ok (.error (.failure .mismatchedDelimiter position (some depth)))) :
      Mismatch crossedStream bracket opening position depth := by
    obtain ⟨matched, lost, -⟩ := forward opening bracket opens
    obtain ⟨foundPosition, foundDepth, answer, mismatch⟩ := lost <| by
      rintro ⟨closing, bracketed⟩
      rw [(matched closing).mpr bracketed] at failed
      cases failed
    rw [failed] at answer
    simp only [Diagnostic.failure, Except.ok.injEq, Except.error.injEq, Diagnostic.mk.injEq,
      Option.getD_some, Int.natCast_inj] at answer
    obtain ⟨-, rfl, rfl, -⟩ := answer
    exact mismatch
  have passed : ∀ index ≤ 3, bracketRole (crossedStream.kindAt index) ≠ .stops := by decide
  have inside := backward 3 .square 0 1 rfl rfl fun index _ upper => passed index upper
  exact ⟨⟨inside, ((forward 1 .square rfl).2.2 3 inside).2 0 (Nat.zero_le _)⟩,
    mismatched rfl rfl, mismatched rfl rfl, rfl⟩

end MiniC.Parser
