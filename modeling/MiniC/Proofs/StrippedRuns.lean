import MiniC.Proofs.Relocation
import MiniC.Proofs.Stripped
import MiniC.Proofs.Supervision

/-!
# Runs over stripped streams

The rules look at nothing of a token but its kind and its text.  The recovery loops look
at lines too, but only to find out where to go on after an error.  When the first error is
the last one that is allowed, they do not go on, so a run over the stripped stream does
what the run over the stream itself did.
-/

namespace MiniC.Parser

namespace Passage

/-- A stream beside its stripped stream. -/
def stripping (stream : TokenStream) : Passage where
  leadStream := stream
  trailStream := stream.stripped
  shift := .plain
  last? := none
  same index _ := stream.get?_stripped index
  whole _ := ⟨rfl, stream.size_stripped⟩
  part _ known := nomatch known

theorem stripping_whole (stream : TokenStream) : ¬ (stripping stream).Partial := by
  simp [Partial, stripping]

end Passage

namespace Pairing

section Loop

variable {α : Type} {item : Nat → Attempt (Match α)} {description : String} {limit : Nat}

/-- A loop that is allowed a single error does not go on after it. -/
theorem itemsFrom_spent {input : Input} {fuel index count : Nat} {state : State}
    {noted : List Diagnostic} {trace : Array Event} (single : input.options.maxErrors = 1)
    (upper : index ≤ limit) :
    itemsFrom input item description limit (fuel + 1) index
        { state with noted, errorCount := count + 1, trace } =
      .ok { node := [], stop := limit }
        { state with
          noted
          errorCount := count + 1
          trace := if limit ≤ index then trace else trace.push (.limitReached index limit) } := by
  by_cases done : limit ≤ index
  · have atEnd : index = limit := Nat.le_antisymm upper done
    rw [itemsFrom_done done, if_pos done, atEnd]
  · rw [if_neg done]
    refine itemsFrom_limit done ?_
    unfold limitReached
    rw [single]
    simp only [decide_eq_true_eq]
    omega

end Loop

/-- A run over a stream and one over its stripped stream. -/
abbrev stripping (stream : TokenStream) (options : ParserOptions) (stack : Option Nat) : Pairing :=
  (Passage.stripping stream).reading options stack

variable {stream : TokenStream} {options : ParserOptions} {stack : Option Nat}

theorem skipItem_spent {α : Type} [Movable α] (diagnostic : Diagnostic) (limit : Nat) :
    skipItem diagnostic { node := [], stop := limit } =
      moved .plain (skipItem diagnostic ({ node := [], stop := limit } : Match (List α))) := by
  change Match.mk _ _ [diagnostic] = Match.mk _ _ [Diagnostic.moved 0 diagnostic]
  rw [Diagnostic.moved_zero]
  rfl

/-- A loop over the stream that ends is one over the stripped stream, up to its first
error. -/
theorem stripping_rounds {α : Type} [Movable α] {item otherItem : Nat → Attempt (Match α)}
    {description : String} {limit fuel index : Nat} {leadBase trailBase : Background}
    {before other after : State} {list : Match (List α)} (single : options.maxErrors = 1)
    (inside : limit ≤ stream.lastIndex) (same : trailBase.nesting = leadBase.nesting)
    (items : ∀ index,
      (stripping stream options stack).Follows (item index) (otherItem index) fun _ => True)
    (linked : (stripping stream options stack).Linked leadBase trailBase before other)
    (run : itemsFrom (stripping stream options stack).lead item description limit fuel index
      before = .ok list after) :
    ∃ last, itemsFrom (stripping stream options stack).trail otherItem description limit fuel
        index other = .ok (moved .plain list) last ∧
      (stripping stream options stack).Linked leadBase trailBase after last := by
  have inTrail : limit ≤ stream.stripped.lastIndex := by rwa [TokenStream.lastIndex_stripped]
  induction fuel generalizing index before other list with
  | zero => cases run
  | succ fuel induction =>
      have sameReached : limitReached (stripping stream options stack).trail other = _ :=
        Passage.reading_limitReached linked.ledgers
      have count : other.errorCount = before.errorCount := linked.ledgers.count
      cases itemsFrom_firstRound inside run with
      | done done => exact ⟨other, itemsFrom_done done, linked⟩
      | full more reached =>
          exact ⟨_, itemsFrom_limit (Nat.not_le_of_lt more) (sameReached.trans reached),
            Passage.reading_counting linked count⟩
      | @kept between _ found rest more below itemRun tail =>
          obtain ⟨otherBetween, otherRun, -, resumed⟩ :=
            Passage.reading_item (items index) same linked itemRun
          have sameCount : other.errorCount + (moved .plain found).recovered.length =
              before.errorCount + found.recovered.length := by
            rw [count]
            exact congrArg (before.errorCount + ·) (List.length_map _)
          obtain ⟨last, otherRest, ended⟩ :=
            induction (Passage.reading_counting resumed sameCount) tail
          refine ⟨last, ?_, ended⟩
          rw [itemsFrom_kept (Nat.not_le_of_lt more) (sameReached.trans below) otherRun]
          exact (congrArg (mapValue (keepItem (moved .plain found))) otherRest).trans
            (congrArg (EStateM.Result.ok · last) (keepItem_moved .plain found rest))
      | @skipped resume between _ failure rest more below itemRun sync tail =>
          obtain ⟨otherBetween, otherRun, superseded, resumed⟩ :=
            Passage.reading_item (items index) same linked itemRun
          -- where the two runs would go on may differ, but neither does
          obtain ⟨-, resumeLe, -⟩ := synchronize_bounds more inside sync
          obtain ⟨otherResume, otherSync, -, otherLe, -⟩ :
              ∃ resume, synchronize (stripping stream options stack).trail index
                (itemFailure index description failure between.superseded).depth.toNat
                limit = .ok resume ∧ _ := synchronize_ok more inTrail
          have chosen : itemFailure index description (moved .plain failure)
              otherBetween.superseded =
                itemFailure index description failure between.superseded := by
            rw [superseded]
            exact (itemFailure_moved .plain index description failure between.superseded).trans
              (Diagnostic.moved_zero _)
          rw [itemsFrom_skipped (Nat.not_le_of_lt more) (sameReached.trans below) otherRun chosen
            otherSync]
          cases fuel with
          | zero => cases tail
          | succ fuel =>
              rw [itemsFrom_spent single resumeLe] at tail
              rw [itemsFrom_spent single otherLe]
              cases tail
              generalize itemFailure index description failure between.superseded = diagnostic
              exact ⟨_, congrArg (EStateM.Result.ok · _) (skipItem_spent diagnostic limit),
                Passage.reading_counting resumed (congrArg (· + 1) count)⟩

/-- The loops of the two runs go through the same rounds, and end at the first error. -/
theorem stripping_loops (single : options.maxErrors = 1) :
    (stripping stream options stack).LoopsFollow := by
  intro α _ item otherItem description start limit fuel rounds _ inside _ items fuelled
  obtain rfl : rounds = fuel :=
    fuelled.resolve_right fun both => Passage.stripping_whole stream both.1
  refine ⟨fun state gaveUp => absurd gaveUp Passage.reading_keeps, ?_⟩
  intro leadBase trailBase before other allows linked
  cases run : itemsFrom (stripping stream options stack).lead item description limit rounds start
      before with
  | error fault after => exact .inl (.inl (.inl rfl))
  | ok list after =>
      have itemFollows : ∀ index, (stripping stream options stack).Follows (item index)
          (otherItem index) fun _ => True :=
        fun index => items index fun part => absurd part (Passage.stripping_whole stream)
      obtain ⟨last, otherRun, ended⟩ := stripping_rounds single inside
        (allows.elim (fun limited => nomatch limited.1) fun same => same.1) itemFollows linked run
      have answered : (stripping stream options stack).Alike leadBase trailBase (fun _ => True)
          (.ok list after) (.ok (moved .plain list) last) := ⟨rfl, fun _ => trivial, ended⟩
      rw [← otherRun] at answered
      exact .inr answered

end Pairing

theorem unitItems_stripped {stream : TokenStream} {options : ParserOptions} {stack : Option Nat}
    (single : options.maxErrors = 1) {state other after : State} {list : Match (List Declaration)}
    (same : other.nesting = state.nesting)
    (run : unitItems { stream, options, stack } state = .ok list after) :
    ∃ last, unitItems { stream := stream.stripped, options, stack } other =
      .ok (moved .plain list) last := by
  let pair := Pairing.stripping stream options stack
  have akin : pair.Akin (unitStart pair.lead state) (unitStart pair.trail other) :=
    ⟨Passage.remembered_empty _ fun _ _ _ => Memo.find?_empty _ _, rfl, rfl, rfl⟩
  have loop := Pairing.tracks_unitItems (Passage.reading_grounds (Pairing.stripping_loops single))
    (Passage.reading_matched _ _ _ _)
    (Passage.within_of_whole (Passage.stripping_whole stream)) pair.fuelled
  obtain ⟨last, trailRun, -, -⟩ :=
    loop.answered (Passage.reading_allows _ _ _ same) akin.linked run Passage.reading_keeps
  exact ⟨last, trailRun⟩

end MiniC.Parser
