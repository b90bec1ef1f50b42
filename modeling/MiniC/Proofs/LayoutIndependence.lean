import MiniC.Proofs.ErrorLimit
import MiniC.Proofs.Exactness
import MiniC.Proofs.StrippedRuns

/-!
# Layout matters only after an error

The lines of a source tell the parser where to go on after an error, and nothing else.
Reading up to the first error is reading the stripped stream, and a smaller error limit
only truncates what is reported.  So the first error is the same for all sources with the
same kinds and texts, and without errors the trees are.
-/

namespace MiniC.Parser

/-- The settings of a parse that gives up at its first error. -/
def upToFirstError (options : ParserOptions) : ParserOptions :=
  { options with maxErrors := 1, maxErrors_pos := Nat.one_pos }

/-- What the items of a unit have in common with those of the stripped stream, read up to
the first error: that error, and without one the declarations. -/
structure AgreesAtFirst (list core : Match (List Declaration)) : Prop where
  head : core.recovered.head? = list.recovered.head?
  clean : list.recovered = [] → core.node = moved .plain list.node

/-- The items of a unit agree with those of the stripped stream. -/
theorem unitItems_agree {stream : TokenStream} {options : ParserOptions} {stack : Option Nat}
    {state other after : State} {list : Match (List Declaration)}
    (same : other.nesting = state.nesting)
    (run : unitItems { stream, options, stack } state = .ok list after) :
    ∃ core last,
      unitItems { stream := stream.stripped, options := upToFirstError options, stack } other =
          .ok core last ∧
        AgreesAtFirst list core := by
  let trim : Trim :=
    { stream, options, stack, limit := 1, positive := Nat.one_pos, le := options.maxErrors_pos }
  have fromStart : trim.tandem.Counts (0 : Nat) 0 0 := ⟨Nat.le_refl 0, rfl⟩
  obtain ⟨narrow, between, narrowRun, corresponds⟩ :=
    trim.tandem.unitItems_sustained trim.loops fromStart run
  obtain ⟨last, strippedRun⟩ := unitItems_stripped rfl same narrowRun
  have firstError : narrow.recovered.head? = list.recovered.head? := by
    have taken : narrow.recovered.take 1 = list.recovered.take 1 := corresponds.recovered
    simpa [List.head?_take] using congrArg List.head? taken
  have unmoved : moved Shift.plain narrow.recovered = narrow.recovered :=
    List.map_id'' Diagnostic.moved_zero _
  refine ⟨moved .plain narrow, last, strippedRun, ?_, fun clean => ?_⟩
  · exact (congrArg List.head? unmoved).trans firstError
  · have few : trim.tandem.Exact (0 : Nat) list.recovered := by
      rw [clean]
      exact Nat.one_pos
    exact congrArg (moved .plain) (corresponds.node few)

theorem representable_stripped {stream : TokenStream} :
    Representable stream.stripped ↔ Representable stream := by
  have sameConstant : ∀ token : Token, token.stripped.constant = token.constant := fun _ => rfl
  simp [Representable, TokenStream.stripped, sameConstant]

/-- A unit comes out, and its declarations and the errors reported are those of its items. -/
theorem parse_items {stream : TokenStream} (representable : Representable stream)
    (options : ParserOptions) (stack : Option Nat) (state : State) :
    ∃ unit after list last, parse { stream, options, stack } state = .ok unit after ∧
      unitItems { stream, options, stack } state = .ok list last ∧
      unit = .mk (covering 0 stream.lastIndex) list.node ∧
      after.reported.head? = list.recovered.head? := by
  obtain ⟨unit, after, ran⟩ := parse_answers representable options stack state
  have whole := parse_run { stream, options, stack } state
  rw [ran] at whole
  cases loop : unitItems { stream, options, stack } state with
  | error fault last =>
      rw [loop] at whole
      cases whole
  | ok list last =>
      rw [loop] at whole
      cases whole
      refine ⟨_, _, list, last, ran, rfl, rfl, ?_⟩
      exact List.head?_take.trans (if_neg (Nat.ne_of_gt options.maxErrors_pos))

/-- Layout matters only after an error.  Streams that agree token by token on kinds and
texts are parsed with the same first error, or without errors into the same tree, up to
the lines and numbers of its tokens and whether they are well formed. -/
theorem layout_unnoticed_until_error {first second : TokenStream} {options : ParserOptions}
    {stack : Option Nat} (same : first.SameText second) (representable : Representable first)
    {state other : State} (sameNesting : other.nesting = state.nesting) :
    ∃ unit after otherUnit otherAfter,
      parse { stream := first, options, stack } state = .ok unit after ∧
      parse { stream := second, options, stack } other = .ok otherUnit otherAfter ∧
      (otherAfter.reported = [] ↔ after.reported = []) ∧
      (after.reported = [] → otherUnit.stripped = unit.stripped) ∧
      otherAfter.reported.head? = after.reported.head? := by
  have sameStripped := same.stripped_eq
  have otherRepresentable : Representable second := by
    rw [← representable_stripped, ← sameStripped, representable_stripped]
    exact representable
  obtain ⟨unit, after, list, last, ran, loop, unitEq, headEq⟩ :=
    parse_items representable options stack state
  obtain ⟨otherUnit, otherAfter, otherList, otherLast, otherRan, otherLoop, otherUnitEq,
    otherHeadEq⟩ := parse_items otherRepresentable options stack other
  obtain ⟨core, final, coreRun, agrees⟩ := unitItems_agree rfl loop
  obtain ⟨otherCore, otherFinal, otherCoreRun, otherAgrees⟩ :=
    unitItems_agree sameNesting.symm otherLoop
  rw [sameStripped, otherCoreRun] at coreRun
  cases coreRun
  have heads : otherAfter.reported.head? = after.reported.head? := by
    rw [headEq, otherHeadEq, ← agrees.head, ← otherAgrees.head]
  have sameEmpty : otherAfter.reported = [] ↔ after.reported = [] := by
    rw [← List.head?_eq_none_iff, heads, List.head?_eq_none_iff]
  refine ⟨unit, after, otherUnit, otherAfter, ran, otherRan, sameEmpty, fun clean => ?_, heads⟩
  have listClean : list.recovered = [] := by
    rw [← List.head?_eq_none_iff, ← headEq, clean]
    rfl
  have otherClean : otherList.recovered = [] := by
    rw [← List.head?_eq_none_iff, ← otherHeadEq, sameEmpty.mpr clean]
    rfl
  have sameLast : second.lastIndex = first.lastIndex := by
    rw [← TokenStream.lastIndex_stripped, ← sameStripped, TokenStream.lastIndex_stripped]
  have sameNodes : moved Shift.plain otherList.node = moved Shift.plain list.node := by
    rw [← agrees.clean listClean, ← otherAgrees.clean otherClean]
  rw [← Declaration.listMoved_eq, ← Declaration.listMoved_eq] at sameNodes
  rw [unitEq, otherUnitEq, CompilationUnit.stripped, CompilationUnit.stripped,
    CompilationUnit.moved, CompilationUnit.moved, sameLast, sameNodes]

/-- Two stray words and a declaration, all on one line. -/
def strayLine : TokenStream :=
  { tokens := #[
      { kind := .identifier, lexeme := "a", line := 1 },
      { kind := .identifier, lexeme := "b", line := 1 },
      { kind := .intWord, lexeme := "int", line := 1 },
      { kind := .identifier, lexeme := "c", line := 1 },
      { kind := .semicolon, lexeme := ";", line := 1 },
      { kind := .endOfInput, lexeme := "", line := 1 }]
    terminated := rfl }

/-- The same words and the declaration on lines of their own, numbered from one on. -/
def strayLines : TokenStream :=
  { tokens := #[
      { kind := .identifier, lexeme := "a", line := 1, number := 1 },
      { kind := .identifier, lexeme := "b", line := 2, number := 2 },
      { kind := .intWord, lexeme := "int", line := 3, number := 3 },
      { kind := .identifier, lexeme := "c", line := 3, number := 4 },
      { kind := .semicolon, lexeme := ";", line := 3, number := 5 },
      { kind := .endOfInput, lexeme := "", line := 3, number := 6 }]
    terminated := rfl }

/-- The first error is the same.  After it the second word is skipped with the rest of its
line on the one hand, and is an error of its own on the other. -/
theorem layout_unnoticed_until_error_stray :
    strayLine.SameText strayLines ∧ Representable strayLine ∧
      ∃ unit after otherUnit otherAfter,
        parse { stream := strayLine, options := {} } {} = .ok unit after ∧
        parse { stream := strayLines, options := {} } {} = .ok otherUnit otherAfter ∧
        after.reported.length = 1 ∧ otherAfter.reported.length = 2 ∧
        otherAfter.reported.head? = after.reported.head? := by
  have same : strayLine.SameText strayLines := by decide
  have representable : Representable strayLine := by decide +kernel
  have flatErrors : (answer (parse { stream := strayLine, options := {} } {})).toOption.map
      (fun found => found.2.length) = some 1 := by decide +kernel
  have brokenErrors : (answer (parse { stream := strayLines, options := {} } {})).toOption.map
      (fun found => found.2.length) = some 2 := by decide +kernel
  obtain ⟨unit, after, otherUnit, otherAfter, ran, otherRan, -, -, heads⟩ :=
    @layout_unnoticed_until_error strayLine strayLines {} none same representable {} {} rfl
  rw [ran] at flatErrors
  rw [otherRan] at brokenErrors
  exact ⟨same, representable, unit, after, otherUnit, otherAfter, ran, otherRan,
    Option.some.inj flatErrors, Option.some.inj brokenErrors, heads⟩

end MiniC.Parser
