import MiniC.Proofs.ConfinedStatement
import MiniC.Proofs.Covering

/-!
# How a sequence of items is laid out

The items that a recovery loop keeps and the ranges that it skips lie one after
the other, from the first index of the sequence to its limit.  Every range that
was skipped holds the error that was recorded for it.  So every gap between the
items holds an error, and without errors the items tile the sequence.
-/

namespace MiniC.Parser

/-- A token that one of the ranges covers. -/
def Covered (spans : List (Option Span)) (index : Nat) : Prop :=
  ∃ range, some range ∈ spans ∧ range.start ≤ index ∧ (index : Int) < range.stop

/-- The tokens between two indices that no range covers, as many as there are in a row
between the bounds of a sequence. -/
structure Gap (spans : List (Option Span)) (first limit start stop : Nat) : Prop where
  lower : first ≤ start
  nonempty : start < stop
  upper : stop ≤ limit
  uncovered : ∀ index, start ≤ index → index < stop → ¬ Covered spans index
  before : start = first ∨ Covered spans (start - 1)
  after : stop = limit ∨ Covered spans stop

/-- Ranges that lie one after the other and leave nothing out. -/
def Tiles : (first limit : Nat) → List (Option Span) → Prop
  | first, limit, [] => first = limit
  | first, limit, span :: rest =>
      ∃ stop, span = covering first stop ∧ first < stop ∧ Tiles stop limit rest

/-- Items from an index up to a limit, with the errors that were recorded between them.
The layout is cut off only under a condition. -/
inductive Laid (errors : List Diagnostic) (cut : Prop) :
    (index limit : Nat) → List (Option Span) → Prop
  | done {limit : Nat} : Laid errors cut limit limit []
  | full {index limit : Nat} (holds : cut) (ordered : index ≤ limit) :
      Laid errors cut index limit []
  | kept {index stop limit : Nat} {rest : List (Option Span)} (ahead : index < stop)
      (tail : Laid errors cut stop limit rest) :
      Laid errors cut index limit (covering index stop :: rest)
  | skipped {index resume limit : Nat} {rest : List (Option Span)} {error : Diagnostic}
      (recorded : error ∈ errors) (position : (index : Int) ≤ error.position)
      (depth : error.depth ≤ resume) (ahead : index < resume)
      (tail : Laid errors cut resume limit rest) : Laid errors cut index limit rest

namespace Laid

variable {errors : List Diagnostic} {cut : Prop} {index limit : Nat} {spans : List (Option Span)}

theorem mono {more : List Diagnostic} {weaker : Prop} (laid : Laid errors cut index limit spans)
    (subset : ∀ error ∈ errors, error ∈ more) (implies : cut → weaker) :
    Laid more weaker index limit spans := by
  induction laid with
  | done => exact .done
  | full cut ordered => exact .full (implies cut) ordered
  | kept ahead _ induction => exact .kept ahead induction
  | skipped recorded position depth ahead _ induction =>
      exact .skipped (subset _ recorded) position depth ahead induction

theorem le (laid : Laid errors cut index limit spans) : index ≤ limit := by
  induction laid with
  | done => exact Nat.le_refl _
  | full _ ordered => exact ordered
  | kept ahead _ induction => omega
  | skipped _ _ _ ahead _ induction => omega

theorem inside (laid : Laid errors cut index limit spans) :
    ∀ span ∈ spans, ∃ start stop, span = covering start stop ∧ index ≤ start ∧ start < stop ∧
      stop ≤ limit := by
  induction laid with
  | done => simp
  | full => simp
  | @kept index stop limit rest ahead tail induction =>
      intro span member
      rcases List.mem_cons.mp member with rfl | later
      · exact ⟨index, stop, rfl, Nat.le_refl _, ahead, tail.le⟩
      · obtain ⟨first, last, same, lower, ordered, upper⟩ := induction span later
        exact ⟨first, last, same, by omega, ordered, upper⟩
  | skipped _ _ _ ahead _ induction =>
      intro span member
      obtain ⟨first, last, same, lower, ordered, upper⟩ := induction span member
      exact ⟨first, last, same, by omega, ordered, upper⟩

theorem not_covered {place : Nat} (laid : Laid errors cut index limit spans)
    (earlier : place < index) : ¬ Covered spans place := by
  rintro ⟨range, member, lower, -⟩
  obtain ⟨start, stop, same, first, -, -⟩ := laid.inside (some range) member
  cases same
  simp only at lower
  omega

theorem covered_cons {stop place : Nat} (beyond : stop ≤ place) :
    Covered (covering index stop :: spans) place ↔ Covered spans place := by
  constructor
  · rintro ⟨range, member, lower, upper⟩
    rcases List.mem_cons.mp member with same | later
    · cases same
      simp only at upper
      omega
    · exact ⟨range, later, lower, upper⟩
  · rintro ⟨range, member, lower, upper⟩
    exact ⟨range, by simp [member], lower, upper⟩

/-- Every gap holds an error, unless the layout is cut off. -/
theorem error_of_gap (laid : Laid errors cut index limit spans) (uncut : ¬ cut)
    {start stop : Nat} (gap : Gap spans index limit start stop) :
    ∃ error ∈ errors, (start : Int) ≤ error.position ∧ error.depth ≤ stop := by
  induction laid generalizing start stop with
  | done =>
      have lower := gap.lower
      have nonempty := gap.nonempty
      have upper := gap.upper
      omega
  | full cut => exact absurd cut uncut
  | @kept index middle limit rest ahead tail induction =>
      -- the gap starts behind the item, so it is a gap of the rest
      have behind : middle ≤ start := by
        apply Nat.le_of_not_lt
        intro within
        apply gap.uncovered start (Nat.le_refl _) gap.nonempty
        have lower := gap.lower
        exact ⟨⟨index, middle⟩, by simp [covering], by simpa using lower, by simpa using within⟩
      have nonempty := gap.nonempty
      refine induction ⟨behind, gap.nonempty, gap.upper, ?_, ?_, ?_⟩
      · intro place lower upper covered
        exact gap.uncovered place lower upper ((covered_cons (by omega)).mpr covered)
      · rcases gap.before with first | covered
        · omega
        · by_cases adjacent : start = middle
          · exact .inl adjacent
          · exact .inr ((covered_cons (by omega)).mp covered)
      · rcases gap.after with last | covered
        · exact .inl last
        · exact .inr ((covered_cons (by omega)).mp covered)
  | @skipped index resume limit rest error recorded position depth ahead tail induction =>
      have lower := gap.lower
      by_cases earlier : start < resume
      · -- nothing is covered before the point of recovery, so the gap reaches it
        have first : start = index := by
          rcases gap.before with first | covered
          · exact first
          · exact absurd covered (tail.not_covered (by omega))
        have reaches : resume ≤ stop := by
          have bound := tail.le
          rcases gap.after with last | covered
          · omega
          · apply Nat.le_of_not_lt
            intro short
            exact tail.not_covered short covered
        exact ⟨error, recorded, by omega, by omega⟩
      · have covered : Covered rest (start - 1) := by
          rcases gap.before with first | covered
          · omega
          · exact covered
        have notFirst : start ≠ resume := by
          rintro rfl
          exact tail.not_covered (by omega) covered
        exact induction ⟨by omega, gap.nonempty, gap.upper, gap.uncovered, .inr covered,
          gap.after⟩

/-- Without errors the items tile the sequence. -/
theorem tiles (laid : Laid [] cut index limit spans) (uncut : ¬ cut) :
    Tiles index limit spans := by
  induction laid with
  | done => rfl
  | full cut => exact absurd cut uncut
  | kept ahead _ induction => exact ⟨_, rfl, ahead, induction⟩
  | skipped recorded => cases recorded

end Laid

section Loop

variable {α : Type} {input : Input} {item : Nat → Attempt (Match α)} {description : String}
  {range : α → Option Span} {first limit : Nat}

theorem itemFailure_position {index : Nat} {failure : Diagnostic} {noted : List Diagnostic}
    (within : Within input.stream index failure)
    (notedWithin : ∀ other ∈ noted, Within input.stream index other) :
    (index : Int) ≤ (itemFailure index description failure (deepestNoted noted)).position := by
  have described : ∀ diagnostic, Within input.stream index diagnostic →
      (index : Int) ≤ (describeAt index description diagnostic).position := by
    intro diagnostic known
    unfold describeAt
    split
    · exact Int.le_refl _
    · rename_i further
      rcases known.pointed with ahead | ⟨depthEq, mild⟩
      · exact ahead
      · exact absurd ⟨Int.le_of_eq depthEq, mild⟩ further
  unfold itemFailure
  apply described
  split
  · rename_i other known
    split
    · exact within
    · exact within.deepest (Within.deepestNoted notedWithin other known)
  · exact within

/-- The rounds of a loop lay out its items, and only the error limit cuts them off. -/
theorem Rounds.laid
    (confined : ∀ index, index ≤ input.stream.lastIndex →
      Confined input.stream index (item index) (SpansKept input.stream index))
    (covers : ∀ index, Yields (item index) fun found => range found.node = covering index found.stop)
    (limitInside : limit ≤ input.stream.lastIndex)
    (bounded : ∀ index, first ≤ index → index ≤ limit → blockEnd input.stream index ≤ limit)
    {index : Nat} {before after : State} {found : Match (List α)}
    (rounds : Rounds input item description limit index before found after)
    (lower : first ≤ index) (upper : index ≤ limit) (orderly : Orderly input.stream before.memo) :
    Laid found.recovered
      (input.options.maxErrors ≤
        before.reported.length + (before.errorCount + found.recovered.length))
      index limit (found.node.map range) := by
  induction rounds with
  | done done =>
      have last : _ = limit := Nat.le_antisymm upper done
      subst last
      exact .done
  | full more reached =>
      apply Laid.full _ upper
      simpa [limitReached] using reached
  | @kept index state between last found rest more below run tail induction =>
      obtain ⟨effect, spans⟩ := (confined index (by omega)).ran run orderly
      have ahead : index < found.stop := Spans.lt spans.toSpans
      have bound := bounded index lower upper
      have reached := spans.reaches.le_blockEnd
      have rest := induction (by omega) (by omega) effect.orderly
      have covered := covers index _ found between run
      simp only [keepItem, List.map_cons, covered]
      apply Laid.kept ahead
      apply rest.mono
      · intro error member
        exact List.mem_append.mpr (.inr member)
      · intro full
        have same : between.reported = state.reported := effect.reported
        simp only [same, List.length_append] at full ⊢
        omega
  | @skipped index resume state between last failure rest more below run ahead inside beyond tail
      induction =>
      obtain ⟨effect, answered⟩ := (confined index (by omega)).ran run orderly
      have recordedWithin : Within input.stream index
          (itemFailure index description failure between.superseded) :=
        itemFailure_within (by omega) answered (effect.noted_within rfl)
      have bound := bounded index lower upper
      have deep := recordedWithin.depth_le
      have shallow := recordedWithin.depth_ge
      have rest := induction (by omega) inside effect.orderly
      refine Laid.skipped (List.mem_cons_self ..)
        (itemFailure_position answered (effect.noted_within rfl))
        (by omega) ahead ?_
      apply rest.mono
      · intro error member
        exact List.mem_cons_of_mem _ member
      · intro full
        have same : between.reported = state.reported := effect.reported
        simp only [same, skipItem, List.length_cons] at full ⊢
        omega

end Loop

end MiniC.Parser
