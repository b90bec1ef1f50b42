import MiniC.Proofs.Chronicle

/-!
# Errors are recorded in the order in which they were noticed

The errors of a match were noticed one after the other, and none of them behind
the end of the match.  What follows the match starts there, so its errors come
later.  So the errors of every history are in order, and with them those of the
whole stream.
-/

namespace MiniC.Parser

/-- Errors noticed one after the other, and none of them behind an index. -/
structure Ascending (stop : Nat) (errors : List Diagnostic) : Prop where
  ordered : errors.Pairwise fun earlier later => earlier.depth ≤ later.depth
  upTo : ∀ error ∈ errors, error.depth ≤ stop

namespace Ascending

variable {middle stop : Nat} {errors more : List Diagnostic}

theorem nil : Ascending stop [] :=
  ⟨.nil, by simp⟩

theorem singleton {error : Diagnostic} (upTo : error.depth ≤ stop) : Ascending stop [error] :=
  ⟨List.pairwise_singleton _ _, by simpa using upTo⟩

theorem mono (ascending : Ascending middle errors) (ordered : middle ≤ stop) :
    Ascending stop errors := by
  refine ⟨ascending.ordered, fun error member => ?_⟩
  have upTo := ascending.upTo error member
  omega

theorem append (first : Ascending middle errors) (second : Ascending stop more)
    (ordered : middle ≤ stop) (later : ∀ error ∈ more, (middle : Int) ≤ error.depth) :
    Ascending stop (errors ++ more) := by
  constructor
  · refine List.pairwise_append.mpr ⟨first.ordered, second.ordered, ?_⟩
    intro early earlyMember late lateMember
    exact Int.le_trans (first.upTo early earlyMember) (later late lateMember)
  · intro error member
    rcases List.mem_append.mp member with early | late
    · exact (first.mono ordered).upTo error early
    · exact second.upTo error late

end Ascending

namespace Chronicle

variable {stream : TokenStream} {start stop : Nat} {errors : List Diagnostic}

/-- The errors of a match are noticed from its start on. -/
theorem depth_ge (chronicle : Chronicle stream start stop errors) :
    ∀ error ∈ errors, (start : Int) ≤ error.depth := by
  induction chronicle with
  | quiet => simp
  | noticed position_ge position_le =>
      simpa using Int.le_trans position_ge position_le
  | append first _ _ firstGe secondGe =>
      intro error member
      have ordered := first.le
      rcases List.mem_append.mp member with early | late
      · exact firstGe error early
      · have later := secondGe error late
        omega
  | unclosed opened _ innerGe =>
      intro error member
      rcases List.mem_append.mp member with early | late
      · exact innerGe error early
      · rw [List.mem_singleton.mp late]
        exact Int.ofNat_le.mpr (Nat.le_of_lt opened)

theorem ascending (chronicle : Chronicle stream start stop errors) : Ascending stop errors := by
  induction chronicle with
  | quiet => exact .nil
  | noticed _ _ depth_le => exact .singleton depth_le
  | append _ _ second firstAscends secondAscends =>
      exact firstAscends.append secondAscends second.le second.depth_ge
  | unclosed _ _ innerAscends =>
      have brace : (unclosedBlock stream).depth = stream.lastIndex := rfl
      exact innerAscends.append (.singleton (Int.le_of_eq brace)) (Nat.le_refl _)
        (by simpa using Int.le_of_eq brace.symm)

end Chronicle

theorem Rounds.ascending {α : Type} {input : Input} {item : Nat → Attempt (Match α)}
    {description : String} {first limit : Nat}
    (confined : ∀ index, index ≤ input.stream.lastIndex →
      Confined input.stream index (item index) (SpansOrdered input.stream index))
    (limitInside : limit ≤ input.stream.lastIndex)
    (bounded : ∀ index, first ≤ index → index ≤ limit → blockEnd input.stream index ≤ limit)
    {index : Nat} {before after : State} {found : Match (List α)}
    (rounds : Rounds input item description limit index before found after)
    (lower : first ≤ index) (upper : index ≤ limit) (orderly : Orderly input.stream before.memo) :
    Ascending limit found.recovered ∧ ∀ error ∈ found.recovered, (index : Int) ≤ error.depth := by
  have chronicle := rounds.chronicle confined limitInside bounded lower upper orderly
  exact ⟨chronicle.ascending, chronicle.depth_ge⟩

/-- The errors that a parse reports are in the order in which they were noticed, from
whatever state it was started. -/
theorem reported_ascending {input : Input} {state after : State} {unit : CompilationUnit}
    (run : parse input state = .ok unit after) :
    after.reported.Pairwise fun earlier later => earlier.depth ≤ later.depth := by
  rw [parse_run] at run
  cases loop : unitItems input state with
  | error fault last =>
      rw [loop] at run
      cases run
  | ok list last =>
      rw [loop] at run
      cases run
      have rounds := itemsFrom_rounds (Nat.le_refl _) loop
      obtain ⟨ascending, -⟩ := rounds.ascending (fun _ => unitItem_ordered) (Nat.le_refl _)
        (fun _ _ bound => blockEnd_le bound) (Nat.le_refl 0) (Nat.zero_le _)
        (orderly_empty input.stream)
      exact ascending.ordered.sublist (List.take_sublist _ _)

/-- A function with an error in both branches of a conditional and with a block after it
whose semicolon and brace are missing, as is the brace of the function. -/
def crumblingStream : TokenStream :=
  { tokens := #[
      { kind := .intWord, lexeme := "int", line := 1 },
      { kind := .identifier, lexeme := "f", line := 1 },
      { kind := .leftParen, lexeme := "(", line := 1 },
      { kind := .rightParen, lexeme := ")", line := 1 },
      { kind := .leftBrace, lexeme := "\x7b", line := 1 },
      { kind := .ifWord, lexeme := "if", line := 1 },
      { kind := .leftParen, lexeme := "(", line := 1 },
      { kind := .identifier, lexeme := "a", line := 1 },
      { kind := .rightParen, lexeme := ")", line := 1 },
      { kind := .leftBrace, lexeme := "\x7b", line := 1 },
      { kind := .identifier, lexeme := "b", line := 1 },
      { kind := .identifier, lexeme := "c", line := 1 },
      { kind := .semicolon, lexeme := ";", line := 1 },
      { kind := .rightBrace, lexeme := "\x7d", line := 1 },
      { kind := .elseWord, lexeme := "else", line := 1 },
      { kind := .returnWord, lexeme := "return", line := 1 },
      { kind := .identifier, lexeme := "d", line := 1 },
      { kind := .leftBrace, lexeme := "\x7b", line := 1 },
      { kind := .returnWord, lexeme := "return", line := 1 },
      { kind := .identifier, lexeme := "e", line := 1 },
      { kind := .endOfInput, lexeme := "", line := 1 }]
    terminated := rfl }

/-- Where the errors were noticed that a parse reports. -/
def depths? : EStateM.Result Fault State CompilationUnit → Option (List Int)
  | .ok _ after => some (after.reported.map Diagnostic.depth)
  | .error _ _ => none

/-- Errors of three levels of nesting come in order. -/
theorem reported_ascending_crumbling :
    ∃ unit after, parse { stream := crumblingStream, options := {} } {} = .ok unit after ∧
      after.reported.map Diagnostic.depth = [11, 17, 20, 20, 20] ∧
      after.reported.Pairwise fun earlier later => earlier.depth ≤ later.depth := by
  have depths : depths? (parse { stream := crumblingStream, options := {} } {}) =
      some [11, 17, 20, 20, 20] := by
    decide +kernel
  cases run : parse { stream := crumblingStream, options := {} } {} with
  | error fault after =>
      rw [run] at depths
      cases depths
  | ok unit after =>
      rw [run] at depths
      exact ⟨unit, after, rfl, Option.some.inj depths, reported_ascending run⟩

end MiniC.Parser
