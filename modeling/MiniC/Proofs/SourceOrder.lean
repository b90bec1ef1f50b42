import MiniC.Proofs.Chronicle

/-!
# The places that the reported errors refer to

An error refers to a token, which need not be the one at which it was noticed.
The errors of the items refer to places in the order of the source: the place of
an error lies between the start of its item and where the error was noticed, and
what follows the item starts no earlier.  A brace that is missing at the end of
input is reported after the last token before it, though.  So an error that refers
to the end of input itself is reported ahead of the missing braces, which refer to
an earlier place, and this is the only way in which the order is lost.
-/

namespace MiniC.Parser

/-- Errors in the order of the places that they refer to. -/
def InSourceOrder (errors : List Diagnostic) : Prop :=
  errors.Pairwise fun earlier later => earlier.position ≤ later.position

/-- Errors in source order between two indices, and then the braces of the blocks that are
open at the end of input. -/
structure Arranged (stream : TokenStream) (start stop : Nat) (noticed : List Diagnostic)
    (braces : Nat) : Prop where
  ordered : InSourceOrder noticed
  between : ∀ error ∈ noticed, (start : Int) ≤ error.position ∧ error.position ≤ stop
  atEnd : 0 < braces → stop = stream.lastIndex ∧ 0 < stream.lastIndex

namespace Arranged

variable {stream : TokenStream} {start middle stop braces : Nat} {noticed more : List Diagnostic}

theorem append (first : Arranged stream start middle noticed 0)
    (second : Arranged stream middle stop more braces) (lower : start ≤ middle)
    (upper : middle ≤ stop) : Arranged stream start stop (noticed ++ more) braces where
  ordered := by
    refine List.pairwise_append.mpr ⟨first.ordered, second.ordered, ?_⟩
    intro early earlyMember late lateMember
    exact Int.le_trans (first.between early earlyMember).2 (second.between late lateMember).1
  between := by
    intro error member
    rcases List.mem_append.mp member with early | late
    · obtain ⟨above, below⟩ := first.between error early
      exact ⟨above, by omega⟩
    · obtain ⟨above, below⟩ := second.between error late
      exact ⟨by omega, below⟩
  atEnd := second.atEnd

theorem take (arranged : Arranged stream start stop noticed braces) (limit : Nat) :
    Arranged stream start stop (noticed.take limit) (min (limit - noticed.length) braces) where
  ordered := arranged.ordered.sublist (List.take_sublist limit noticed)
  between := fun error member => arranged.between error (List.mem_of_mem_take member)
  atEnd := fun some => arranged.atEnd (by omega)

end Arranged

/-- A brace that is missing at the end of input is reported after the token before it. -/
theorem unclosedBlock_position {stream : TokenStream} (later : 0 < stream.lastIndex) :
    (unclosedBlock stream).position = stream.lastIndex - 1 := by
  simp [unclosedBlock, Diagnostic.missing, Kind.isReportedAfter, later]

/-- Every history consists of errors in source order and of missing braces after them. -/
theorem Chronicle.arranged {stream : TokenStream} {start stop : Nat} {errors : List Diagnostic}
    (chronicle : Chronicle stream start stop errors) :
    ∃ noticed braces, errors = noticed ++ List.replicate braces (unclosedBlock stream) ∧
      Arranged stream start stop noticed braces := by
  induction chronicle with
  | quiet => exact ⟨[], 0, rfl, .nil, by simp, by simp⟩
  | @noticed start stop error position_ge position_le depth_le =>
      refine ⟨[error], 0, rfl, List.pairwise_singleton _ _, ?_, by simp⟩
      simpa using ⟨position_ge, Int.le_trans position_le depth_le⟩
  | @append start middle stop errors more first inside second firstArranged secondArranged =>
      obtain ⟨early, none, rfl, earlyArranged⟩ := firstArranged
      obtain ⟨late, braces, rfl, lateArranged⟩ := secondArranged
      have closed : none = 0 := by
        rcases Nat.eq_zero_or_pos none with closed | opened
        · exact closed
        · have atEnd := (earlyArranged.atEnd opened).1
          omega
      subst closed
      refine ⟨early ++ late, braces, by simp, ?_⟩
      exact earlyArranged.append lateArranged first.le second.le
  | unclosed opened _ innerArranged =>
      obtain ⟨noticed, braces, rfl, arranged⟩ := innerArranged
      refine ⟨noticed, braces + 1, ?_, arranged.ordered, arranged.between, ?_⟩
      · rw [List.append_assoc, List.replicate_succ']
      · exact fun _ => ⟨rfl, by omega⟩

/-- With missing braces at their end the errors are in source order exactly if none of them
refers to the end of input. -/
theorem Arranged.inSourceOrder_iff {stream : TokenStream} {start braces : Nat}
    {noticed : List Diagnostic}
    (arranged : Arranged stream start stream.lastIndex noticed braces) :
    InSourceOrder (noticed ++ List.replicate braces (unclosedBlock stream)) ↔
      braces = 0 ∨ ∀ error ∈ noticed, error.position < stream.lastIndex := by
  rcases Nat.eq_zero_or_pos braces with rfl | opened
  · simpa using arranged.ordered
  · have placed := unclosedBlock_position (arranged.atEnd opened).2
    have some : braces ≠ 0 := Nat.ne_of_gt opened
    have same : InSourceOrder (List.replicate braces (unclosedBlock stream)) :=
      List.pairwise_replicate.mpr (.inr (Int.le_refl _))
    constructor
    · intro ordered
      refine .inr fun error member => ?_
      have before := (List.pairwise_append.mp ordered).2.2 error member _
        (List.mem_replicate.mpr ⟨some, rfl⟩)
      omega
    · rintro (none | inside)
      · exact absurd none some
      · refine List.pairwise_append.mpr ⟨arranged.ordered, same, fun error member brace last => ?_⟩
        have before := inside error member
        rw [(List.mem_replicate.mp last).2]
        omega

/-- The errors that a parse reports are those of the items in source order and then the
braces that are missing at the end of input.  The whole report is in source order exactly if
no brace is missing or no error of an item refers to the end of input. -/
theorem reported_arranged {input : Input} {state after : State} {unit : CompilationUnit}
    (run : parse input state = .ok unit after) :
    ∃ noticed braces,
      after.reported = noticed ++ List.replicate braces (unclosedBlock input.stream) ∧
      InSourceOrder noticed ∧
      (∀ error ∈ noticed, 0 ≤ error.position ∧ error.position ≤ input.stream.lastIndex) ∧
      (InSourceOrder after.reported ↔
        braces = 0 ∨ ∀ error ∈ noticed, error.position < input.stream.lastIndex) := by
  rw [parse_run] at run
  cases loop : unitItems input state with
  | error fault last =>
      rw [loop] at run
      cases run
  | ok list last =>
      rw [loop] at run
      cases run
      have rounds := itemsFrom_rounds (Nat.le_refl _) loop
      have chronicle := rounds.chronicle (fun _ => unitItem_ordered) (Nat.le_refl _)
        (fun _ _ bound => blockEnd_le bound) (Nat.le_refl 0) (Nat.zero_le _)
        (orderly_empty input.stream)
      obtain ⟨noticed, braces, split, arranged⟩ := chronicle.arranged
      have cut := arranged.take input.options.maxErrors
      have report : list.recovered.take input.options.maxErrors =
          noticed.take input.options.maxErrors ++
            List.replicate (min (input.options.maxErrors - noticed.length) braces)
              (unclosedBlock input.stream) := by
        rw [split, List.take_append, List.take_replicate]
      refine ⟨_, _, report, cut.ordered, cut.between, ?_⟩
      dsimp only
      rw [report]
      exact cut.inSourceOrder_iff

/-- A function that breaks off in an assignment. -/
def brokenOffStream : TokenStream :=
  { tokens := #[
      { kind := .voidWord, lexeme := "void", line := 1 },
      { kind := .identifier, lexeme := "f", line := 1 },
      { kind := .leftParen, lexeme := "(", line := 1 },
      { kind := .rightParen, lexeme := ")", line := 1 },
      { kind := .leftBrace, lexeme := "\x7b", line := 1 },
      { kind := .identifier, lexeme := "x", line := 1 },
      { kind := .assign, lexeme := "=", line := 1 },
      { kind := .endOfInput, lexeme := "", line := 1 }]
    terminated := rfl }

/-- The places that the errors refer to that a parse reports. -/
def positions? : EStateM.Result Fault State CompilationUnit → Option (List Int)
  | .ok _ after => some (after.reported.map Diagnostic.position)
  | .error _ _ => none

/-- The value is missing at the end of input, and the brace that is missing there as well is
reported after it. -/
theorem brokenOffStream_out_of_order :
    ∃ unit after, parse { stream := brokenOffStream, options := {} } {} = .ok unit after ∧
      after.reported.map Diagnostic.position = [7, 6] ∧ ¬ InSourceOrder after.reported := by
  have positions : positions? (parse { stream := brokenOffStream, options := {} } {}) =
      some [7, 6] := by
    decide +kernel
  cases run : parse { stream := brokenOffStream, options := {} } {} with
  | error fault after =>
      rw [run] at positions
      cases positions
  | ok unit after =>
      rw [run] at positions
      refine ⟨unit, after, rfl, Option.some.inj positions, fun ordered => ?_⟩
      have mapped := List.pairwise_map.mpr ordered
      rw [Option.some.inj positions] at mapped
      revert mapped
      decide

/-- One brace is missing, after an error that refers to the end of input. -/
theorem reported_arranged_broken_off :
    ∃ unit after, parse { stream := brokenOffStream, options := {} } {} = .ok unit after ∧
      ∃ noticed braces,
        after.reported = noticed ++ List.replicate braces (unclosedBlock brokenOffStream) ∧
        InSourceOrder noticed ∧
        (∀ error ∈ noticed, 0 ≤ error.position ∧ error.position ≤ brokenOffStream.lastIndex) ∧
        (InSourceOrder after.reported ↔
          braces = 0 ∨ ∀ error ∈ noticed, error.position < brokenOffStream.lastIndex) := by
  have ended : (positions? (parse { stream := brokenOffStream, options := {} } {})).isSome := by
    decide +kernel
  cases run : parse { stream := brokenOffStream, options := {} } {} with
  | error fault after =>
      rw [run] at ended
      cases ended
  | ok unit after => exact ⟨unit, after, rfl, reported_arranged run⟩

end MiniC.Parser
