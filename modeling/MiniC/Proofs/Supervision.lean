import MiniC.Proofs.ConfinedStatement
import MiniC.Proofs.LockstepMemory
import MiniC.Proofs.LockstepStatement
import MiniC.Proofs.Overflow

/-!
# Rules stay inside the stream

A supervised run ends as the plain one does, so in no run is a rule started or
does it answer outside the stream.  The only fault there can be is an integer
constant that is too large for the number format.
-/

namespace MiniC.Parser

/-- The state in which the items of a unit are parsed. -/
def unitStart (input : Input) (state : State) : State :=
  { state with
    memo := .empty
    noted := []
    peak := 0
    errorCount := 0
    reported := []
    trace := state.trace.push (.started input.stream.size input.options.filename) }

/-- The items of a unit, parsed from scratch. -/
def unitItems (input : Input) (state : State) :
    EStateM.Result Fault State (Match (List Declaration)) :=
  items input (unitItem input) "declaration" 0 input.stream.lastIndex (unitStart input state)

/-- What is made of the items of a unit. -/
def unitResult (input : Input) :
    EStateM.Result Fault State (Match (List Declaration)) →
      EStateM.Result Fault State CompilationUnit
  | .ok list after =>
      let reported := list.recovered.take input.options.maxErrors
      .ok (.mk (covering 0 input.stream.lastIndex) list.node)
        { after with
          reported
          trace := after.trace.push (.finished list.node.length reported.length) }
  | .error fault after => .error fault after

theorem parse_run (input : Input) (state : State) :
    parse input state = unitResult input (unitItems input state) := by
  change EStateM.bind (items input (unitItem input) "declaration" 0 input.stream.lastIndex) _
    (unitStart input state) = _
  unfold EStateM.bind unitItems
  cases items input (unitItem input) "declaration" 0 input.stream.lastIndex
    (unitStart input state) <;> rfl

theorem unitItems_confined (input : Input) (state : State) :
    LoopConfined input.stream 0 input.stream.lastIndex (unitStart input state)
      (unitItems input state) :=
  itemsFrom_confined (fun _ => unitItem_confined) (Nat.le_refl _)
    (fun _ _ inside => blockEnd_le inside) (Nat.le_refl 0) (Nat.zero_le _)
    (fuel_enough input 0) _ (orderly_empty input.stream)

/-- What is reported lies inside the stream, and no fault is possible but an integer
constant that is too large. -/
def AnswersInside (stream : TokenStream) : EStateM.Result Fault State CompilationUnit → Prop
  | .ok _ after =>
      ∀ diagnostic ∈ after.reported, 0 ≤ diagnostic.position ∧
        diagnostic.position ≤ diagnostic.depth ∧ diagnostic.depth ≤ stream.lastIndex
  | .error fault _ =>
      fault = .constantTooLarge ∧ ∃ index token n, stream.get? index = some token ∧
        token.kind = .integerConstant ∧ Constant.integer? token.lexeme.toList = some n ∧
          Binary64.overflowBound ≤ n.natAbs

theorem parse_answersInside (input : Input) (state : State) :
    AnswersInside input.stream (parse input state) := by
  have loop := unitItems_confined input state
  rw [parse_run]
  cases run : unitItems input state with
  | error fault after =>
      rw [run] at loop
      obtain ⟨faultEq, index, token, found, kindEq, tooLarge⟩ := loop
      have overflow : Constant.ofInteger token.lexeme.toList = .tooLarge := by
        unfold Token.constant at tooLarge
        rw [kindEq] at tooLarge
        exact tooLarge
      obtain ⟨n, written, large⟩ := (Constant.ofInteger_eq_tooLarge _).mp overflow
      exact ⟨faultEq, index, token, n, found, kindEq, written, large⟩
  | ok list after =>
      rw [run] at loop
      obtain ⟨-, -, recorded⟩ := loop
      intro diagnostic member
      have kept : diagnostic ∈ list.recovered := List.mem_of_mem_take member
      obtain ⟨place, -, before, within⟩ := recorded diagnostic kept
      have depthLe := within.depth_le
      have bound : blockEnd input.stream place ≤ input.stream.lastIndex :=
        blockEnd_le (Nat.le_of_lt before)
      have positionGe := within.position_ge
      exact ⟨by omega, within.position_le, by omega⟩

/-- No run leaves the stream: supervision, which breaks off a run as soon as a rule is
started or answers outside the stream, is not noticed.  What is reported lies inside
the stream, and only an integer constant whose magnitude is too large for the number
format breaks off a run. -/
theorem supervision_unnoticed (stream : TokenStream) (options : ParserOptions)
    (stack : Option Nat) (state : State) :
    answer (parse { stream, options, stack, supervised := true } state) =
        answer (parse { stream, options, stack } state) ∧
      AnswersInside stream (parse { stream, options, stack } state) := by
  refine ⟨?_, parse_answersInside _ state⟩
  let pair := Pairing.sharing stream options options stack false true
    (fun first second => second = first) fun _ => True
  have uniform : pair.Uniform :=
    ⟨rfl, Passage.itself_whole stream, rfl, fun _ _ => Iff.rfl, fun _ => trivial⟩
  have empty : pair.Memos .empty .empty := Pairing.sharedMemos_empty stream false _
  rcases Pairing.parse_lockstep uniform (Pairing.sharing_expressions _ _ _ _ _ _ _ nofun)
    (.inr ⟨rfl, rfl, rfl⟩) rfl empty state (.inr ⟨rfl, rfl, rfl⟩) with lost | alike
  · have inside := parse_answersInside pair.lead state
    cases run : parse pair.lead state with
    | ok unit after =>
        rw [run] at lost
        exact nomatch lost.1
    | error fault after =>
        rw [run] at lost inside
        rcases lost with (lenient | ⟨-, rfl⟩) | gaveUp
        · exact nomatch lenient
        · exact nomatch inside.1
        · exact nomatch gaveUp.1
  · exact (alike.answer_eq uniform).symm

/-- The fault that broke off a run, if one did. -/
def fault? {α : Type} : EStateM.Result Fault State α → Option Fault
  | .ok _ _ => none
  | .error fault _ => some fault

/-- A declaration whose initial value is written as minus `16 ^ 256`. -/
def negativeStream : TokenStream :=
  { tokens := #[
      { kind := .intWord, lexeme := "int", line := 1 },
      { kind := .identifier, lexeme := "a", line := 1 },
      { kind := .assign, lexeme := "=", line := 1 },
      { kind := .integerConstant
        lexeme := String.ofList ('0' :: 'x' :: '-' :: '1' :: List.replicate 256 '0')
        line := 1 },
      { kind := .semicolon, lexeme := ";", line := 1 },
      { kind := .endOfInput, lexeme := "", line := 1 }]
    terminated := rfl }

/-- The magnitude counts, not the sign: a run is broken off although every integer
constant of the stream is negative. -/
theorem negativeStream_breaks_off :
    fault? (parse { stream := negativeStream, options := {} } {}) = some .constantTooLarge ∧
      ∀ token ∈ negativeStream.tokens, token.kind = .integerConstant →
        ∀ n ∈ Constant.integer? token.lexeme.toList, n < 0 := by
  refine ⟨by decide +kernel, ?_⟩
  intro token member integer n written
  have negative : ∀ n ∈ Constant.integer? ('0' :: 'x' :: '-' :: '1' :: List.replicate 256 '0'),
      n < 0 := by
    decide +kernel
  simp only [negativeStream, List.mem_toArray, List.mem_cons, List.not_mem_nil, or_false] at member
  rcases member with rfl | rfl | rfl | rfl | rfl | rfl
  case inr.inr.inr.inl =>
    rw [String.toList_ofList] at written
    exact negative n written
  all_goals cases integer

end MiniC.Parser
