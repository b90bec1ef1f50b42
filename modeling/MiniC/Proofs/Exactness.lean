import MiniC.Proofs.CompleteStatement
import MiniC.Proofs.ErrorFree
import MiniC.Proofs.NestingDepth

/-!
# The parser accepts exactly the grammar

A stream that is parsed without errors is derived, and a stream that is derived is
parsed without errors if nesting does not run out.  Both directions speak of the same
tree, so a derivation in which every `else` belongs to the nearest `if` is unique.
-/

namespace MiniC.Parser

variable {stream : TokenStream} {options : ParserOptions} {stack : Option Nat} {state : State}
  {tree : CompilationUnit}

/-- A parser that remembers nothing finds a derived unit. -/
theorem parse_forgetful_finds (derived : DerivesUnit stream .nearest tree)
    (deep : 4 * stream.lastIndex ≤ options.maxNesting)
    (spacious : ∀ room ∈ stack, options.maxNesting ≤ room) (idle : state.nesting = 0)
    (unfelt : state.limitFelt = false) :
    ∃ unit after, parse { stream, options, stack, caching := false } state = .ok unit after ∧
      unit.withoutSpans = tree ∧ after.reported = [] ∧ after.limitFelt = false := by
  let input : Input := { stream, options, stack, caching := false }
  have forgetful : Forgetful input := ⟨rfl, rfl⟩
  cases derived with
  | unit declarations =>
      obtain ⟨nodes, rfl, loop⟩ :=
        declarations.completes forgetful rfl deep input.fuel (fuel_ample input 0)
      have admits : Admits input 0 options.maxNesting :=
        ⟨Nat.le_of_eq (Nat.zero_add _), fun room known => by
          rw [Nat.zero_add]
          exact spacious room known⟩
      have fresh : Fresh 0 (unitStart input state) := ⟨idle, unfelt, rfl, rfl⟩
      obtain ⟨after, ran, afterFresh⟩ := loop 0 _ admits fresh
      have items : unitItems input state = .ok { node := nodes, stop := stream.lastIndex } after :=
        ran
      rw [parse_run, items]
      exact ⟨_, _, rfl, by simp [CompilationUnit.withoutSpans], by simp, afterFresh.unfelt⟩

/-- A parser that remembers finds it too, whatever earlier runs met. -/
theorem parse_finds (derived : DerivesUnit stream .nearest tree)
    (deep : 5 * stream.size ≤ options.maxNesting)
    (spacious : ∀ room ∈ stack, 5 * stream.size ≤ room) (idle : state.nesting = 0) :
    ∃ unit, answer (parse { stream, options, stack } state) = .ok (unit, []) ∧
      unit.withoutSpans = tree := by
  have sizeEq := stream.size_eq
  have enough : 4 * stream.lastIndex ≤ (sized stream options).maxNesting := by
    change 4 * stream.lastIndex ≤ 5 * stream.size
    omega
  let lowest : Input := { stream, options := sized stream options, stack, caching := false }
  let calm : State := { state with limitFelt := false }
  obtain ⟨unit, after, ran, treeEq, clean, unfelt⟩ : ∃ unit after,
      parse lowest calm = .ok unit after ∧ unit.withoutSpans = tree ∧ after.reported = [] ∧
        after.limitFelt = false :=
    parse_forgetful_finds derived enough spacious idle rfl
  have same : answer (parse { stream, options, stack } state) = answer (parse lowest calm) :=
    answer_forgetful_from deep rfl rfl rfl rfl (by rw [ran]; exact unfelt)
  refine ⟨unit, ?_, treeEq⟩
  rw [same, ran]
  simp only [answer, clean]

/-- A unit is derived in one way, if every `else` belongs to the nearest `if`. -/
theorem DerivesUnit.unique {other : CompilationUnit} (first : DerivesUnit stream .nearest tree)
    (second : DerivesUnit stream .nearest other) : other = tree := by
  have found : ∀ {derived : CompilationUnit}, DerivesUnit stream .nearest derived →
      ∃ unit, answer (parse { stream, options := sized stream {} } {}) =
        .ok (unit, []) ∧ unit.withoutSpans = derived :=
    fun derived => parse_finds derived (Nat.le_refl _) nofun rfl
  obtain ⟨unit, answered, rfl⟩ := found first
  obtain ⟨same, otherAnswered, rfl⟩ := found second
  cases answered.symm.trans otherAnswered
  rfl

theorem parse_answers (representable : Representable stream) (options : ParserOptions)
    (stack : Option Nat) (state : State) :
    ∃ unit after, parse { stream, options, stack } state = .ok unit after := by
  have confined := unitItems_confined { stream, options, stack } state
  rw [parse_run]
  cases loop : unitItems { stream, options, stack } state with
  | ok list after => exact ⟨_, _, rfl⟩
  | error fault after =>
      rw [loop] at confined
      exact (representable.not_excused confined).elim

/-- The parser accepts exactly the grammar and builds its tree.  Where no constant is too
large, a unit comes out of every parse that is started with no guarded rule active.  If no
error is recorded, then the unit, up to its spans, is the one tree of the grammar in which
every `else` belongs to the nearest `if`.  And where the nesting limit and the stack allow
five levels for each token, no error is recorded if and only if the tokens before the end
mark are derived from the grammar. -/
theorem parse_exact (representable : Representable stream) (options : ParserOptions)
    (stack : Option Nat) (idle : state.nesting = 0) :
    ∃ unit after, parse { stream, options, stack } state = .ok unit after ∧
      (after.reported = [] →
        ∀ tree, DerivesUnit stream .nearest tree ↔ tree = unit.withoutSpans) ∧
      (5 * stream.size ≤ options.maxNesting → (∀ room ∈ stack, 5 * stream.size ≤ room) →
        (after.reported = [] ↔ ∃ tree, DerivesUnit stream .any tree)) := by
  obtain ⟨unit, after, ran⟩ := parse_answers representable options stack state
  refine ⟨unit, after, ran, fun clean tree => ⟨fun derived => ?_, ?_⟩, fun deep spacious =>
    ⟨fun clean => ?_, ?_⟩⟩
  · exact (parse_derives ran clean).unique derived
  · rintro rfl
    exact parse_derives ran clean
  · exact ⟨_, (parse_derives ran clean).any⟩
  · rintro ⟨tree, derived⟩
    obtain ⟨nearest, nearestDerived⟩ := derived.nearest
    obtain ⟨other, answered, -⟩ := parse_finds nearestDerived deep spacious idle
    rw [ran] at answered
    simp only [answer, Except.ok.injEq, Prod.mk.injEq] at answered
    exact answered.2

/-- A function whose body is `if (a) if (b) c; else d;`. -/
def danglingStream : TokenStream :=
  { tokens := #[
      { kind := .intWord, lexeme := "int", line := 1 },
      { kind := .identifier, lexeme := "f", line := 1 },
      { kind := .leftParen, lexeme := "(", line := 1 },
      { kind := .rightParen, lexeme := ")", line := 1 },
      { kind := .leftBrace, lexeme := "\x7b", line := 1 },
      { kind := .ifWord, lexeme := "if", line := 1 },
      { kind := .leftParen, lexeme := "(", line := 1 },
      { kind := .identifier, lexeme := "a", line := 1 },
      { kind := .rightParen, lexeme := ")", line := 1 },
      { kind := .ifWord, lexeme := "if", line := 1 },
      { kind := .leftParen, lexeme := "(", line := 1 },
      { kind := .identifier, lexeme := "b", line := 1 },
      { kind := .rightParen, lexeme := ")", line := 1 },
      { kind := .identifier, lexeme := "c", line := 1 },
      { kind := .semicolon, lexeme := ";", line := 1 },
      { kind := .elseWord, lexeme := "else", line := 1 },
      { kind := .identifier, lexeme := "d", line := 1 },
      { kind := .semicolon, lexeme := ";", line := 1 },
      { kind := .rightBrace, lexeme := "\x7d", line := 1 },
      { kind := .endOfInput, lexeme := "", line := 1 }]
    terminated := rfl }

theorem parse_exact_dangling :
    Representable danglingStream ∧ ({} : State).nesting = 0 ∧ 5 * danglingStream.size ≤ 100 ∧
      ∃ unit after,
        parse { stream := danglingStream, options := { maxNesting := 100 }, stack := some 100 }
            {} = .ok unit after ∧
          after.reported = [] ∧
          (∃ tree, DerivesUnit danglingStream .any tree) ∧
          ∀ tree, DerivesUnit danglingStream .nearest tree ↔ tree = unit.withoutSpans := by
  have representable : Representable danglingStream := by decide +kernel
  have deep : 5 * danglingStream.size ≤ 100 := by decide +kernel
  have clean : (answer (parse
      { stream := danglingStream, options := { maxNesting := 100 }, stack := some 100 }
        {})).toOption.map Prod.snd = some [] := by
    decide +kernel
  obtain ⟨unit, after, ran, built, exact⟩ :=
    @parse_exact danglingStream {} representable { maxNesting := 100 } (some 100) rfl
  rw [ran] at clean
  have reported : after.reported = [] := by simpa [answer, Except.toOption] using clean
  have spacious : ∀ room ∈ some 100, 5 * danglingStream.size ≤ room := by
    rintro room ⟨⟩
    exact deep
  exact ⟨representable, rfl, deep, unit, after, ran, reported, (exact deep spacious).mp reported,
    built reported⟩

end MiniC.Parser
