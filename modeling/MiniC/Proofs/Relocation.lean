import MiniC.Proofs.LockstepMemory
import MiniC.Proofs.LockstepStatement

/-!
# Reading the same tokens in another stream

Two runs with the same settings read the same tokens in two streams.  What they remember,
note and count corresponds, so where the first run ends the second one ends too, and does
what the first one did.
-/

namespace MiniC.Parser

/-- A result that comes from a run over confined memories is confined to its start. -/
theorem Computed.settled {input : Input} {stratum : Stratum} {start : Nat} {entry : Memo.Entry}
    {first last : Memo} (computed : Computed input stratum start entry first last)
    (inside : start ≤ input.stream.lastIndex) (orderly : Orderly input.stream first) :
    Settled input.stream start entry := by
  obtain ⟨budget, before, after, rfl, alone, run, superseded, unfelt, -⟩ := computed
  obtain ⟨confined, candid⟩ := expression_settled input budget
  obtain ⟨effect, answers⟩ := (expressionBody_confined confined stratum inside).ran run orderly
  refine ⟨answers, fun failure known => ?_, fun hopeless => ?_⟩
  · exact Within.deepestNoted (effect.noted_within alone.noted) failure (superseded.trans known)
  · exact expressionBody_candid confined candid stratum inside hopeless before after _ orderly run
      unfelt

/-- What is remembered of the same tokens in two streams. -/
structure Passage.Remembered (passage : Passage) (lead trail : Memo) : Prop where
  orderly : passage.Partial → Orderly passage.leadStream lead
  recalled : ∀ stratum start, passage.Within start →
    trail.find? stratum (start + passage.offset) = moved passage.shift (lead.find? stratum start)
  begins : ∀ stratum start entry, passage.Within start → lead.find? stratum start = some entry →
    Pairing.OnMatch (fun found : Match Expr => start < found.stop ∧
      startsExpression (passage.leadStream.kindAt start) = true ∧ passage.Within found.stop)
      entry.outcome
  /-- Nothing is remembered beyond a part. -/
  beyond : ∀ stratum start, (∃ last ∈ passage.last?, last + passage.offset < start) →
    trail.find? stratum start = none

/-- Errors are counted alike, and none is reported yet. -/
structure CountsAlike (lead trail : Ledger) : Prop where
  count : trail.errorCount = lead.errorCount
  leadNone : lead.reported = []
  trailNone : trail.reported = []

namespace Passage

/-- Two runs with the same settings over the streams of a passage. -/
def reading (passage : Passage) (options : ParserOptions) (stack : Option Nat) : Pairing where
  passage
  leadOptions := options
  trailOptions := options
  leadStack := stack
  trailStack := stack
  leadCaching := true
  trailCaching := true
  lenient := true
  Memos := passage.Remembered
  Ledgers := CountsAlike
  partly part := ⟨rfl, rfl, fun _ _ memos => memos.orderly part⟩

variable {passage : Passage} {options : ParserOptions} {stack : Option Nat}

theorem remembered_empty (passage : Passage) {other : Memo}
    (forgotten : ∀ stratum start, passage.offset ≤ start → other.find? stratum start = none) :
    passage.Remembered .empty other := by
  refine ⟨fun _ => orderly_empty _, fun stratum start _ => ?_,
    fun stratum start entry _ found => ?_,
    fun stratum start beyond => ?_⟩
  · rw [forgotten stratum _ (Nat.le_add_left _ _), Memo.find?_empty]
    rfl
  · rw [Memo.find?_empty] at found
    cases found
  · obtain ⟨last, -, further⟩ := beyond
    exact forgotten stratum start (by omega)

theorem reading_remembers (passage : Passage) (options : ParserOptions) (stack : Option Nat) :
    (passage.reading options stack).Remembers where
  recalls stratum start memos ready := memos.recalled stratum start ready.within
  begins stratum start entry memos within _ found := by
    intro value matched
    obtain ⟨lt, starts, ends⟩ := memos.begins stratum start entry within found value matched
    exact ⟨lt, starts, ends⟩
  insertion {first memo firstOther other} stratum {start entry} before computed memos within
      post := by
    refine ⟨fun part => ?_, fun otherStratum place placeWithin => ?_,
      fun otherStratum place known placeWithin found => ?_, fun otherStratum place beyond => ?_⟩
    · obtain ⟨last, known⟩ := partial_iff.mp part
      have inside : start ≤ passage.leadStream.lastIndex :=
        Nat.le_trans (within last known) (passage.part last known).inside
      exact (memos.orderly part).insert (computed.settled inside (before.orderly part))
    · have same := memos.recalled otherStratum place placeWithin
      change (other.insert stratum (start + passage.offset) _).find? otherStratum
        (place + passage.offset) = _
      simp only [Memo.find?_insert, Nat.add_right_cancel_iff]
      split
      · rfl
      · exact same
    · rw [Memo.find?_insert] at found
      split at found
      · rename_i here
        obtain ⟨-, rfl⟩ := here
        cases found
        intro value matched
        have begun := post rfl value matched
        exact ⟨begun.lt, begun.starts, begun.within⟩
      · exact memos.begins otherStratum place known placeWithin found
    · obtain ⟨last, known, further⟩ := beyond
      have startLe := within last known
      change (other.insert stratum (start + passage.offset) _).find? otherStratum place = none
      rw [Memo.find?_insert, if_neg (by omega)]
      exact memos.beyond otherStratum place ⟨last, known, further⟩

/-- Where lines are kept the recovery loops go through the same rounds. -/
theorem reading_recovers (lines : ∀ token, (passage.shift.token token).line = token.line) :
    (passage.reading options stack).Recovers where
  maxErrors := rfl
  lines
  itself limited := nomatch limited
  counted ledgers := ⟨ledgers.count, by rw [ledgers.leadNone, ledgers.trailNone]⟩
  recount _ ledgers := ⟨rfl, ledgers.leadNone, ledgers.trailNone⟩
  traced _ ledgers := ⟨ledgers.count, ledgers.leadNone, ledgers.trailNone⟩

theorem reading_grounds (loops : (passage.reading options stack).LoopsFollow) :
    (passage.reading options stack).Grounds :=
  ⟨loops, fun _ => trivial, (passage.reading_remembers options stack).expressions⟩

theorem reading_matched (passage : Passage) (options : ParserOptions) (stack : Option Nat)
    (budget : Nat) : (passage.reading options stack).Matched budget budget :=
  .inr ⟨rfl, rfl, rfl⟩

theorem reading_allows (passage : Passage) (options : ParserOptions) (stack : Option Nat)
    {nesting other : Nat} (same : other = nesting) :
    (passage.reading options stack).Allows nesting other :=
  .inr ⟨same, rfl, rfl⟩

/-- The leading run is released only where it is broken off. -/
theorem reading_keeps {state : State} : ¬ (passage.reading options stack).GaveUp state :=
  fun gaveUp => nomatch gaveUp.1

theorem reading_limitReached {state other : State}
    (counts : CountsAlike state.ledger other.ledger) :
    limitReached (passage.reading options stack).trail other =
      limitReached (passage.reading options stack).lead state := by
  have count : other.errorCount = state.errorCount := counts.count
  have leadNone : state.reported = [] := counts.leadNone
  have trailNone : other.reported = [] := counts.trailNone
  unfold limitReached
  rw [count, leadNone, trailNone]
  rfl

theorem reading_counting {leadBase trailBase : Pairing.Background} {lead trail : State}
    (linked : (passage.reading options stack).Linked leadBase trailBase lead trail)
    {count otherCount : Nat} (sameCount : otherCount = count) {trace otherTrace : Array Event} :
    (passage.reading options stack).Linked leadBase trailBase
      { lead with errorCount := count, trace }
      { trail with errorCount := otherCount, trace := otherTrace } :=
  ⟨⟨⟨linked.memos, sameCount, linked.ledgers.leadNone, linked.ledgers.trailNone⟩,
    linked.leadNesting, linked.trailNesting⟩, linked.noted, linked.felt⟩

theorem reading_item {α : Type} [Movable α] {item otherItem : Attempt (Match α)}
    {P : Match α → Prop} {leadBase trailBase : Pairing.Background} {before other between : State}
    {outcome : Outcome α}
    (follows : (passage.reading options stack).Follows item otherItem P)
    (same : trailBase.nesting = leadBase.nesting)
    (linked : (passage.reading options stack).Linked leadBase trailBase before other)
    (run : item.run { before with noted := [] } = .ok outcome between) :
    ∃ last, otherItem.run { other with noted := [] } = .ok (moved passage.shift outcome) last ∧
      last.superseded = moved passage.shift between.superseded ∧
      (passage.reading options stack).Linked leadBase trailBase
        { between with noted := before.noted } { last with noted := other.noted } := by
  have allows : (passage.reading options stack).Allows
      ({ leadBase with noted := [] } : Pairing.Background).nesting
      ({ trailBase with noted := [] } : Pairing.Background).nesting :=
    reading_allows passage options stack same
  obtain ⟨last, ran, -, ended⟩ :=
    Pairing.Tracks.answered follows allows linked.watching run reading_keeps
  exact ⟨last, ran, ended.superseded, linked.resumed ended⟩

end Passage

end MiniC.Parser
