import MiniC.Proofs.Forms
import MiniC.Proofs.Shallow
import MiniC.Proofs.Tandem

/-!
# Rules in two runs with different limits

A rule is sustained when it ends alike in both runs, its errors correspond, and what the
runs remember agrees wherever the parser may still go.  Rules without blocks are sustained,
and so are guarded rules and choices of sustained rules.
-/

namespace MiniC.Parser

/-- The indices from a start on. -/
def From (start : Nat) (Shared : Nat → Prop) : Prop :=
  ∀ index, start ≤ index → Shared index

/-- After a match: what happened between its start and its end is forgotten, unless
nothing was remembered there, and nothing is read any more at the end of the stream. -/
def Since (stream : TokenStream) (still : Prop) (start stop : Nat) (Shared : Nat → Prop)
    (index : Nat) : Prop :=
  Shared index ∧ (still ∨ index ≤ start ∨
    (stop ≤ index ∧ (stop < stream.lastIndex ∨ stream.lastIndex < index)))

/-- After a failure: what happened between the start and the failure is forgotten,
unless nothing was remembered there. -/
def Until (still : Prop) (start : Nat) (depth : Int) (Shared : Nat → Prop) (index : Nat) :
    Prop :=
  Shared index ∧ (still ∨ index ≤ start ∨ depth ≤ index)

/-- What is still shared in a loop from a first index up to a limit, at an index: what
lies outside the loop, and what lies ahead. -/
def Ahead (first limit index : Nat) (Shared : Nat → Prop) (place : Nat) : Prop :=
  Shared place ∧ (place < first ∨ limit < place ∨ (index ≤ place ∧ index < limit))

section Indices

variable {stream : TokenStream} {still : Prop} {start place between stop index : Nat}
  {depth : Int} {Shared : Nat → Prop}

theorem From.later (shared : From start Shared) (ordered : start ≤ place) : From place Shared :=
  fun index further => shared index (Nat.le_trans ordered further)

theorem Since.of_earlier (ordered : start ≤ place)
    (member : Since stream still start stop Shared index) :
    Since stream still place stop Shared index := by
  refine ⟨member.1, ?_⟩
  rcases member.2 with kept | early | late
  · exact .inl kept
  · exact .inr (.inl (Nat.le_trans early ordered))
  · exact .inr (.inr late)

theorem Until.of_earlier (ordered : start ≤ place)
    (member : Until still start depth Shared index) : Until still place depth Shared index := by
  refine ⟨member.1, ?_⟩
  rcases member.2 with kept | early | late
  · exact .inl kept
  · exact .inr (.inl (Nat.le_trans early ordered))
  · exact .inr (.inr late)

/-- What two branches in a row share in the end was shared after the first of them. -/
theorem Since.through (ordered : start ≤ place) (further : place ≤ between)
    (before : between < stream.lastIndex) (later : between < stop)
    (member : Since stream still start stop Shared index) :
    Since stream still (between + 1) stop (Since stream still place between Shared) index := by
  obtain ⟨shared, kept | early | ⟨late, rest⟩⟩ := member
  · exact ⟨⟨shared, .inl kept⟩, .inl kept⟩
  · exact ⟨⟨shared, .inr (.inl (by omega))⟩, .inr (.inl (by omega))⟩
  · exact ⟨⟨shared, .inr (.inr ⟨by omega, .inl before⟩)⟩, .inr (.inr ⟨late, rest⟩)⟩

/-- What was remembered in a branch lies before a failure in the next one. -/
theorem Until.through (ordered : start ≤ place) (further : place ≤ between)
    (before : between < stream.lastIndex) (deep : (between + 1 : Nat) ≤ depth)
    (member : Until still start depth Shared index) :
    Until still (between + 1) depth (Since stream still place between Shared) index := by
  obtain ⟨shared, kept | early | late⟩ := member
  · exact ⟨⟨shared, .inl kept⟩, .inl kept⟩
  · exact ⟨⟨shared, .inr (.inl (by omega))⟩, .inr (.inl (by omega))⟩
  · exact ⟨⟨shared, .inr (.inr ⟨by omega, .inl before⟩)⟩, .inr (.inr late)⟩

/-- What is shared after a block lies outside its braces: the block ends behind the brace that
closes it, or with the stream. -/
theorem Since.outside_block
    (ends : blockEnd stream (start + 1) < stop ∨
      (blockEnd stream (start + 1) = stop ∧ stop = stream.lastIndex))
    (member : Since stream False start stop Shared index) :
    index < start + 1 ∨ blockEnd stream (start + 1) < index := by
  obtain ⟨-, impossible | early | ⟨late, further⟩⟩ := member
  · exact impossible.elim
  · exact .inl (Nat.lt_succ_of_le early)
  · right
    omega

/-- After an item matched, what lies ahead was not touched by it. -/
theorem Ahead.of_match {first limit : Nat} (lower : first ≤ start) (later : start < stop)
    (upper : stop ≤ limit) (inside : limit ≤ stream.lastIndex)
    (member : Ahead first limit stop Shared index) :
    Since stream False start stop (Ahead first limit start Shared) index := by
  obtain ⟨member, outside | beyond | ahead⟩ := member
  · exact ⟨⟨member, .inl outside⟩, .inr (.inl (by omega))⟩
  · exact ⟨⟨member, .inr (.inl beyond)⟩, .inr (.inr (by omega))⟩
  · exact ⟨⟨member, .inr (.inr (by omega))⟩, .inr (.inr (by omega))⟩

theorem Ahead.of_failure {first limit resume : Nat} (lower : first ≤ start)
    (later : start < resume) (bound : depth ≤ limit) (recovered : min depth.toNat limit ≤ resume)
    (member : Ahead first limit resume Shared index) :
    Until False start depth (Ahead first limit start Shared) index := by
  obtain ⟨member, outside | beyond | ahead⟩ := member
  · exact ⟨⟨member, .inl outside⟩, .inr (.inl (by omega))⟩
  · exact ⟨⟨member, .inr (.inl beyond)⟩, .inr (.inr (by omega))⟩
  · exact ⟨⟨member, .inr (.inr (by omega))⟩, .inr (.inr (by omega))⟩

theorem Ahead.behind {first limit : Nat} (member : Ahead first limit limit Shared index) :
    Shared index ∧ (index < first ∨ limit < index) := by
  obtain ⟨member, outside | beyond | ahead⟩ := member
  · exact ⟨member, .inl outside⟩
  · exact ⟨member, .inr beyond⟩
  · omega

end Indices

/-- The error that is recorded for an item is noticed no earlier than its failure. -/
theorem le_itemFailure_depth {index : Nat} {description : String} {failure : Diagnostic}
    {superseded : Option Diagnostic} :
    failure.depth ≤ (itemFailure index description failure superseded).depth := by
  have described : ∀ diagnostic : Diagnostic, failure.depth ≤ diagnostic.depth →
      failure.depth ≤ (describeAt index description diagnostic).depth := by
    intro diagnostic deeper
    unfold describeAt
    split
    · change failure.depth ≤ index
      omega
    · exact deeper
  unfold itemFailure
  cases superseded with
  | none => exact described failure (Int.le_refl _)
  | some other =>
      refine described _ ?_
      dsimp only
      split
      · exact Int.le_refl _
      · exact le_deepest_left failure other

namespace Tandem

/-- Nesting budgets of the two runs that go together. -/
def Matched (tandem : Tandem) (budget larger : Nat) : Prop :=
  budget ≤ larger ∧ (tandem.raised = false → larger = budget)

/-- Statements that may not nest two levels deep, in both runs alike. -/
def Shallow (tandem : Tandem) (active budget : Nat) : Prop :=
  tandem.raised = false ∧ ¬ (2 ≤ budget ∧ Admits tandem.lead active 2)

/-- Matches of the two runs that end alike, with errors that correspond. -/
structure Corresponds {α : Type} (tandem : Tandem) (mark : tandem.Mark) (found other : Match α) :
    Prop where
  stop : other.stop = found.stop
  recovered : tandem.Agree mark found.recovered other.recovered
  node : tandem.Exact mark found.recovered → other.node = found.node

/-- How a rule of the two runs matches. -/
structure Succeeded {α : Type} (tandem : Tandem) (still : Prop) (active start : Nat)
    (mark : tandem.Mark) (Shared : Nat → Prop) (found other : Match α)
    (after otherAfter : State) : Prop where
  corresponds : tandem.Corresponds mark found other
  together : tandem.Together active (tandem.Counts (tandem.after mark found.recovered))
    (Since tandem.stream still start found.stop Shared) after otherAfter

/-- How a rule of the two runs fails. -/
def Failed (tandem : Tandem) (still : Prop) (active start : Nat) (Shared : Nat → Prop)
    (failure : Diagnostic) (after otherAfter : State) : Prop :=
  tandem.Together active (fun _ _ => True) (Until still start failure.depth Shared) after
    otherAfter

/-- A rule at an index is sustained, if what is remembered is shared from there on. -/
def Sustains {α : Type} (tandem : Tandem) (still : Prop) (active start : Nat)
    (lead trail : Attempt (Match α)) : Prop :=
  ∀ mark Shared, From start Shared →
    tandem.Sustained (tandem.Together active (tandem.Counts mark) Shared) lead trail
      (tandem.Succeeded still active start mark Shared) (tandem.Failed still active start Shared)

/-- Items that the recovery loops of both runs try, from a first index up to a limit. -/
structure Sequence {α : Type} (tandem : Tandem) (active first limit : Nat) (Shared : Nat → Prop)
    (leadItem trailItem : Nat → Attempt (Match α)) : Prop where
  leadConfined : ∀ index, index ≤ tandem.stream.lastIndex →
    Confined tandem.stream index (leadItem index) (SpansKept tandem.stream index)
  trailConfined : ∀ index, index ≤ tandem.stream.lastIndex →
    Confined tandem.stream index (trailItem index) (SpansKept tandem.stream index)
  sustains : ∀ index, index ≤ tandem.stream.lastIndex →
    tandem.Sustains False active index (leadItem index) (trailItem index)
  inside : limit ≤ tandem.stream.lastIndex
  bounded : ∀ index, first ≤ index → index ≤ limit → blockEnd tandem.stream index ≤ limit
  ordered : first ≤ limit
  shared : From first Shared

/-- The recovery loop of the trailing run ends whenever that of the leading run does, with
what corresponds. -/
def LoopsSustain (tandem : Tandem) : Prop :=
  ∀ {α : Type} {leadItem trailItem : Nat → Attempt (Match α)} {active first limit : Nat}
    {Shared : Nat → Prop} (description : String) {fuel : Nat} {mark : tandem.Mark}
    {before other after : State} {found : Match (List α)},
    tandem.Sequence active first limit Shared leadItem trailItem → limit < first + fuel →
      tandem.Together active (tandem.Counts mark) (Ahead first limit first Shared) before other →
        itemsFrom tandem.lead leadItem description limit fuel first before = .ok found after →
          ∃ otherFound otherAfter,
            itemsFrom tandem.trail trailItem description limit fuel first other =
              .ok otherFound otherAfter ∧
            tandem.Corresponds mark found otherFound ∧
            tandem.Together active (tandem.Counts (tandem.after mark found.recovered))
              (Ahead first limit limit Shared) after otherAfter

/-- What statements within nesting budgets are built from, at some nesting. -/
structure Constituents (tandem : Tandem) (active budget larger : Nat) : Prop where
  matched : tandem.Matched budget larger
  loops : tandem.LoopsSustain
  statements : ∀ start, start ≤ tandem.stream.lastIndex →
    tandem.Sustains False active start (statement tandem.lead budget start)
      (statement tandem.trail larger start)

section Relations

variable {tandem : Tandem} {still : Prop} {active start : Nat} {mark : tandem.Mark}
  {Counts : Nat → Nat → Prop} {Shared : Nat → Prop} {before other : State}

theorem Corresponds.refl {α : Type} (found : Match α) : tandem.Corresponds mark found found :=
  ⟨rfl, tandem.itself _ _, fun _ => rfl⟩

theorem Corresponds.keepItem {α : Type} {found otherFound : Match α}
    {rest otherRest : Match (List α)} (corresponds : tandem.Corresponds mark found otherFound)
    (tail : tandem.Corresponds (tandem.after mark found.recovered) rest otherRest) :
    tandem.Corresponds mark (keepItem found rest) (keepItem otherFound otherRest) :=
  ⟨tail.stop, tandem.append corresponds.recovered tail.recovered, fun exact =>
    congrArg₂ List.cons (corresponds.node (tandem.exact_left exact))
      (tail.node (tandem.exact_right exact))⟩

theorem Corresponds.skipItem {α : Type} {diagnostic : Diagnostic}
    {rest otherRest : Match (List α)}
    (tail : tandem.Corresponds (tandem.after mark [diagnostic]) rest otherRest) :
    tandem.Corresponds mark (skipItem diagnostic rest) (skipItem diagnostic otherRest) :=
  ⟨tail.stop, tandem.append (tandem.itself _ _) tail.recovered,
    fun exact => tail.node (tandem.exact_right exact)⟩

theorem Succeeded.note {α : Type} {found otherFound : Match α}
    (succeeded : tandem.Succeeded still active start mark Shared found otherFound before other)
    (failure : Diagnostic) :
    tandem.Succeeded still active start mark Shared found otherFound
      { before with noted := failure :: before.noted }
      { other with noted := failure :: other.noted } :=
  ⟨succeeded.corresponds, succeeded.together.note failure⟩

theorem Failed.deeper {failure further : Diagnostic}
    (failed : tandem.Failed still active start Shared failure before other)
    (deeper : failure.depth ≤ further.depth) :
    tandem.Failed still active start Shared further before other := by
  refine failed.mono (fun index member => ⟨member.1, ?_⟩) fun _ _ => id
  rcases member.2 with kept | early | late
  · exact .inl kept
  · exact .inr (.inl early)
  · exact .inr (.inr (Int.le_trans deeper late))

theorem Together.failed {failure : Diagnostic}
    (together : tandem.Together active Counts Shared before other) :
    tandem.Failed still active start Shared failure before other :=
  together.mono (fun _ member => member.1) fun _ _ _ => trivial

end Relations

namespace Sequence

variable {α : Type} {tandem : Tandem} {active first limit index : Nat} {mark : tandem.Mark}
  {Counts : Nat → Nat → Prop} {Shared : Nat → Prop} {leadItem trailItem : Nat → Attempt (Match α)}
  {before other after : State}
  (sequence : tandem.Sequence active first limit Shared leadItem trailItem)
  (lower : first ≤ index) (more : index < limit)
  (together : tandem.Together active Counts (Ahead first limit index Shared) before other)
  (counts : tandem.Counts mark before.errorCount other.errorCount)

include sequence lower more together counts

/-- The item in a round of a loop is run with nothing noted before it. -/
theorem item {outcome : Outcome α}
    (run : (leadItem index).run { before with noted := [] } = .ok outcome after)
    (mild : tandem.raised = true → Mild outcome) :
    ∃ answer otherAfter,
      (trailItem index).run { other with noted := [] } = .ok answer otherAfter ∧
        SameShape
          (fun found otherFound after otherAfter => SpansKept tandem.stream index found ∧
            tandem.Succeeded False active index mark (Ahead first limit index Shared) found
              otherFound after otherAfter)
          (fun failure after otherAfter => Within tandem.stream index failure ∧
            tandem.Failed False active index (Ahead first limit index Shared) failure after
              otherAfter)
          outcome answer after otherAfter := by
  have inside : index ≤ tandem.stream.lastIndex := by
    have := sequence.inside
    omega
  have started : tandem.Together active (tandem.Counts mark) (Ahead first limit index Shared)
      { before with noted := [] } { other with noted := [] } :=
    { together with noted := rfl, counts := counts }
  have ahead : From index (Ahead first limit index Shared) := fun place further =>
    ⟨sequence.shared place (Nat.le_trans lower further), .inr (.inr ⟨further, more⟩)⟩
  exact ((sequence.sustains index inside mark _ ahead).confined
    (sequence.leadConfined index inside) fun _ _ together => together.orderly) _ _ started
      outcome after run mild

theorem kept {found : Match α}
    (run : (leadItem index).run { before with noted := [] } = .ok (.ok found) after) :
    ∃ otherFound otherAfter,
      (trailItem index).run { other with noted := [] } = .ok (.ok otherFound) otherAfter ∧
      (index < found.stop ∧ found.stop ≤ limit) ∧ tandem.Corresponds mark found otherFound ∧
      tandem.Together active (tandem.Counts (tandem.after mark found.recovered))
        (Ahead first limit found.stop Shared) after otherAfter := by
  obtain ⟨answer, otherAfter, otherRun, shape⟩ := sequence.item lower more together counts run
    fun _ _ impossible => nomatch impossible
  cases answer with
  | error failure => exact shape.elim
  | ok otherFound =>
      obtain ⟨spans, corresponds, ended⟩ := shape
      have later := spans.lt
      have upper : found.stop ≤ limit :=
        Nat.le_trans spans.reaches.le_blockEnd (sequence.bounded index lower (Nat.le_of_lt more))
      exact ⟨otherFound, otherAfter, otherRun, ⟨later, upper⟩, corresponds,
        ended.mono (fun _ => Ahead.of_match lower later upper sequence.inside) fun _ _ => id⟩

theorem skipped {description : String} {resume : Nat} {failure : Diagnostic}
    (run : (leadItem index).run { before with noted := [] } = .ok (.error failure) after)
    (mild : tandem.raised = true → failure.kind ≠ .nestingTooDeep)
    (sync : synchronize tandem.lead index
      (itemFailure index description failure after.superseded).depth.toNat limit = .ok resume) :
    ∃ otherAfter,
      (trailItem index).run { other with noted := [] } = .ok (.error failure) otherAfter ∧
      otherAfter.superseded = after.superseded ∧ (index < resume ∧ resume ≤ limit) ∧
      tandem.Together active (fun _ _ => True) (Ahead first limit resume Shared) after
        otherAfter := by
  obtain ⟨answer, otherAfter, otherRun, shape⟩ := sequence.item lower more together counts run
    fun raised known same => by
      cases same
      exact mild raised
  cases answer with
  | ok otherFound => exact shape.elim
  | error otherFailure =>
      obtain ⟨rfl, within, failed⟩ := shape
      have inLead : limit ≤ tandem.lead.stream.lastIndex := sequence.inside
      obtain ⟨later, upper, resumed⟩ := synchronize_bounds more inLead sync
      have deeper : otherFailure.depth ≤
          (itemFailure index description otherFailure after.superseded).depth :=
        le_itemFailure_depth
      have bound := sequence.bounded index lower (Nat.le_of_lt more)
      have depthLe : otherFailure.depth ≤ limit :=
        Int.le_trans within.depth_le (by exact_mod_cast bound)
      exact ⟨otherAfter, otherRun, congrArg deepestNoted failed.noted, ⟨later, upper⟩,
        failed.mono (fun _ => Ahead.of_failure lower later depthLe (by omega)) fun _ _ => id⟩

end Sequence

section Pairings

variable {tandem : Tandem} {budget larger start : Nat} {Ledgers : Ledger → Ledger → Prop}
  {Shared : Nat → Prop}

theorem following_matched (matched : tandem.Matched budget larger) :
    (tandem.following Ledgers).Matched budget larger := by
  cases raised : tandem.raised with
  | true => exact .inl ⟨raised, matched.1⟩
  | false => exact .inr ⟨matched.2 raised, tandem.level raised, rfl⟩

theorem following_open : (tandem.following Ledgers).Open start :=
  ⟨Passage.within_of_whole (Passage.itself_whole _), fun _ _ _ => trivial⟩

theorem following_expressions : (tandem.following Ledgers).ExpressionsFollow :=
  Pairing.sharing_expressions _ _ _ _ _ _ _ fun _ _ => trivial

theorem sharing_matched : (tandem.sharing Ledgers Shared).Matched budget budget :=
  .inr ⟨rfl, rfl, rfl⟩

theorem sharing_open (shared : From start Shared) : (tandem.sharing Ledgers Shared).Open start :=
  ⟨Passage.within_of_whole (Passage.itself_whole _), fun _ => shared⟩

theorem sharing_expressions : (tandem.sharing Ledgers Shared).ExpressionsFollow :=
  Pairing.sharing_expressions _ _ _ _ _ _ _ nofun

end Pairings

end Tandem

namespace Pairing

variable {pair : Pairing} {lead trail : Nested} {start : Nat}

/-- Statements that are neither conditional nor blocks go in lockstep in the whole stream. -/
theorem follows_simpleForm (nested : pair.NestedFollows lead trail) (isOpen : pair.Open start)
    (whole : ¬ pair.passage.Partial) :
    pair.Follows (simpleForm pair.lead lead start)
      (simpleForm pair.trail trail (start + pair.offset)) fun _ => True := by
  have refuses : ∀ word, pair.Follows
      (throw (.missing start (.kind word)) : Attempt (Match Statement))
      (throw (.missing ((start + pair.offset : Nat) : Int) (.kind word))) fun _ => True :=
    fun word => .throw (Diagnostic.missing_kind_moved _
      (pair.passage.placed fun part => absurd part whole)).symm
  refine follows_firstOf (refuses _) (.cons (refuses _) (.cons ?_ (.cons ?_ (.cons ?_
    (.cons (refuses _) (.cons ?_ (.cons ?_ .nil)))))))
  · exact follows_returnStatement nested isOpen.within fun _ => isOpen.mono fun _ =>
      ⟨Nat.le_succ _, Passage.within_of_whole whole⟩
  · exact follows_wordStatement (.inr whole) (.inr whole) (fun _ => rfl) isOpen.within
  · exact follows_wordStatement (.inr whole) (.inr whole) (fun _ => rfl) isOpen.within
  · exact follows_emptyStatement isOpen.within fun part => absurd part whole
  · exact follows_expressionStatement nested isOpen.ready

end Pairing

theorem simpleForm_frank {input : Input} {nested : Nested} {start : Nat}
    (nestedKeeps : (frank input).NestedKeeps nested) :
    (frank input).Keeps (simpleForm input nested start) := by
  have refuses : ∀ word, (frank input).KeepsWhole
      (throw (.missing start (.kind word)) : Attempt (Match Statement)) := by
    intro word before outcome after run felt
    cases run
    exact .inl felt
  apply Habit.KeepsWhole.keeps
  apply (frank input).choice (refuses _)
  simp only [List.mem_cons, List.not_mem_nil, or_false, forall_eq_or_imp, forall_eq]
  exact ⟨refuses _, Habit.returnStatement nestedKeeps, (frank input).wordStatement,
    (frank input).wordStatement, refuses _, (frank input).emptyStatement,
    Habit.expressionStatement nestedKeeps⟩

namespace Tandem

section Plain

variable {tandem : Tandem} {budget larger start active : Nat}

theorem expect_plain {kind : Kind} (inside : start ≤ tandem.stream.lastIndex) :
    tandem.Plain (fun _ => True) start (expect tandem.lead kind start)
      (expect tandem.trail kind start)
      fun next => next = start + 1 ∧ tandem.lead.kindAt start = kind where
  confined := expect_confined (.refl inside)
  frank := (frank tandem.lead).expect
  shares _ _ _ := ⟨_, Pairing.follows_expect
    (Passage.within_of_whole (Passage.itself_whole _)) fun part =>
      absurd part (Passage.itself_whole _)⟩
  follows _ := ⟨_, Pairing.follows_expect following_open.within fun part =>
    absurd part (Passage.itself_whole _)⟩

theorem specifiers_plain (inside : start ≤ tandem.stream.lastIndex) :
    tandem.Plain (fun _ => True) start (specifiers tandem.lead start)
      (specifiers tandem.trail start) (Spans tandem.stream start) where
  confined := specifiers_confined inside
  frank := (frank tandem.lead).specifiers.keeps
  shares _ _ _ := ⟨_, Pairing.follows_specifiers
    (Passage.within_of_whole (Passage.itself_whole _))⟩
  follows _ := ⟨_, Pairing.follows_specifiers following_open.within⟩

theorem condition_plain (matched : tandem.Matched budget larger)
    (inside : start ≤ tandem.stream.lastIndex) :
    tandem.Plain (From start) start (condition tandem.lead (expression tandem.lead budget) start)
      (condition tandem.trail (expression tandem.trail larger) start)
      (Spans tandem.stream start) where
  confined := condition_confined (expression_confined tandem.lead budget) inside
  frank := (Habit.condition ((frank tandem.lead).expression budget)).keeps
  shares _ _ shared := ⟨_, Pairing.follows_condition
    (sharing_expressions budget budget sharing_matched) (sharing_open shared)⟩
  follows _ := ⟨_, Pairing.follows_condition
    (following_expressions budget larger (following_matched matched)) following_open⟩

theorem declarator_plain (matched : tandem.Matched budget larger)
    (inside : start ≤ tandem.stream.lastIndex) :
    tandem.Plain (From start) start (declarator tandem.lead budget start)
      (declarator tandem.trail larger start) (Spans tandem.stream start) where
  confined := declarator_confined tandem.lead budget start inside
  frank := ((frank tandem.lead).declarator budget).keeps
  shares _ _ shared := ⟨_, Pairing.follows_declarator sharing_expressions
    sharing_matched start (sharing_open shared)⟩
  follows _ := ⟨_, Pairing.follows_declarator following_expressions
    (following_matched matched) start following_open⟩

theorem declaration_plain (matched : tandem.Matched budget larger)
    (inside : start ≤ tandem.stream.lastIndex) :
    tandem.Plain (From start) start (declaration tandem.lead budget start)
      (declaration tandem.trail larger start)
      fun found => Spans tandem.stream start found ∧ found.recovered = [] where
  confined := declaration_confined budget inside
  frank := ((frank tandem.lead).declaration budget).keeps
  shares _ _ shared := ⟨_, Pairing.follows_declaration sharing_expressions
    sharing_matched (sharing_open shared)⟩
  follows _ := ⟨_, Pairing.follows_declaration following_expressions
    (following_matched matched) following_open⟩

/-- Where no expression starts, an expression statement is refused in both runs. -/
theorem expressionStatement_plain (matched : tandem.Matched budget larger)
    (inside : start ≤ tandem.stream.lastIndex)
    (hopeless : startsExpression (tandem.stream.kindAt start) = false) :
    tandem.Plain (fun Shared => Shared start) start
      (expressionStatement tandem.lead (expression tandem.lead budget) start)
      (expressionStatement tandem.trail (expression tandem.trail larger) start)
      fun _ => False where
  confined := by
    apply (expressionStatement_confined (expression_confined tandem.lead budget) inside).mono
    intro found ends
    have starts : startsExpression (tandem.stream.kindAt start) = true := ends.2
    rw [hopeless] at starts
    cases starts
  frank := (Habit.expressionStatement ((frank tandem.lead).expression budget)).keeps
  shares Ledgers Shared shared := by
    have ready : (tandem.sharing Ledgers Shared).Ready start := by
      refine ⟨Passage.within_of_whole (Passage.itself_whole _), fun _ => ⟨shared, ?_⟩⟩
      intro starts
      have starts : startsExpression (tandem.stream.kindAt start) = true := starts
      rw [hopeless] at starts
      cases starts
    exact ⟨_, Pairing.follows_expressionStatement
      (sharing_expressions budget budget sharing_matched) ready⟩
  follows _ := ⟨_, Pairing.follows_expressionStatement
    (following_expressions budget larger (following_matched matched)) following_open.ready⟩

theorem simpleForm_plain (matched : tandem.Matched budget larger)
    (inside : start ≤ tandem.stream.lastIndex)
    (notIf : tandem.lead.kindAt start ≠ .ifWord) (notWhile : tandem.lead.kindAt start ≠ .whileWord)
    (notOpen : tandem.lead.kindAt start ≠ .leftBrace) :
    tandem.Plain (From start) start (simpleForm tandem.lead (expression tandem.lead budget) start)
      (simpleForm tandem.trail (expression tandem.trail larger) start)
      (SpansKept tandem.stream start) where
  confined := by
    have confined := anyForm_confined (expression_confined tandem.lead budget)
      (statement_confined tandem.lead budget) (fun _ => declaration_confined budget) inside
    rwa [anyForm_simple rfl notIf notWhile notOpen] at confined
  frank := simpleForm_frank ((frank tandem.lead).expression budget)
  shares _ _ shared := ⟨_, Pairing.follows_simpleForm
    (sharing_expressions budget budget sharing_matched) (sharing_open shared)
    (Passage.itself_whole _)⟩
  follows _ := ⟨_, Pairing.follows_simpleForm
    (following_expressions budget larger (following_matched matched)) following_open
    (Passage.itself_whole _)⟩

variable {α : Type} [Movable α] {Opened : (Nat → Prop) → Prop} {place : Nat}
  {Counts : Nat → Nat → Prop} {Shared : Nat → Prop} {still : Prop}

theorem Plain.wrap {β : Type} [Movable β] {lead trail : Attempt (Match α)}
    {Ends : Match α → Prop} (plain : tandem.Plain Opened start lead trail Ends)
    (build : Match α → Match β)
    (builds : ∀ found, build (moved .still found) = moved .still (build found)) :
    tandem.Plain Opened start (lead >>= fun found => pure (build found))
      (trail >>= fun found => pure (build found)) fun _ => True where
  confined := plain.confined.bind fun _ _ => .pure trivial
  frank := plain.frank.bind fun _ => .pure
  shares Ledgers Shared opened :=
    have ⟨_, follows⟩ := plain.shares Ledgers Shared opened
    ⟨fun _ => True, follows.bind fun found _ => .pure (builds found) fun _ => trivial⟩
  follows Ledgers :=
    have ⟨_, follows⟩ := plain.follows Ledgers
    ⟨fun _ => True, follows.bind fun found _ => .pure (builds found) fun _ => trivial⟩

theorem Plain.step {lead trail : Attempt α} {Ends : α → Prop}
    (plain : tandem.Plain Opened place lead trail Ends) (opened : Opened Shared) :
    tandem.Sustained (tandem.Together active Counts Shared) lead trail
      (fun value other after otherAfter => other = value ∧ Ends value ∧
        tandem.Together active Counts Shared after otherAfter)
      (tandem.Failed still active start Shared) :=
  (plain.sustained opened).conseq (fun _ _ together => together) (fun _ _ _ _ post => post)
    fun _ _ _ post => post.2.failed

theorem Plain.rule {lead trail : Attempt (Match α)} {Ends : Match α → Prop}
    (plain : tandem.Plain (From start) start lead trail Ends) :
    tandem.Sustains still active start lead trail := by
  intro mark Shared shared
  refine (plain.step shared).conseq (fun _ _ together => together) ?_ fun _ _ _ failed => failed
  rintro found other after otherAfter ⟨rfl, -, together⟩
  exact ⟨.refl _, together.mono (fun _ member => member.1) fun _ _ => tandem.later _⟩

end Plain

section Rules

variable {α : Type} {tandem : Tandem} {still : Prop} {active start : Nat}
  {lead trail : Attempt (Match α)}

theorem Sustains.weaken (sustains : tandem.Sustains still active start lead trail) :
    tandem.Sustains False active start lead trail := by
  intro mark Shared shared
  refine (sustains mark Shared shared).conseq (fun _ _ together => together) ?_ ?_
  · intro found other after otherAfter succeeded
    refine ⟨succeeded.corresponds, succeeded.together.mono ?_ fun _ _ => id⟩
    exact fun index member => ⟨member.1, .inr (member.2.resolve_left id)⟩
  · intro failure after otherAfter failed
    refine failed.mono (fun index member => ?_) fun _ _ => id
    exact ⟨member.1, .inr (member.2.resolve_left id)⟩

/-- A rule that remembers nothing loses no agreement. -/
theorem Sustains.of_idle (sustains : tandem.Sustains False active start lead trail)
    (idle : still → Idle active lead ∧ Idle active trail) :
    tandem.Sustains still active start lead trail := by
  intro mark Shared shared before other together outcome after run mild
  obtain ⟨answer, otherAfter, otherRun, shape⟩ :=
    sustains mark Shared shared before other together outcome after run mild
  refine ⟨answer, otherAfter, otherRun, ?_⟩
  have wider : ∀ {Counts : Nat → Nat → Prop} {Kept : Nat → Prop} (Wider : Nat → Prop),
      (∀ index, Wider index → Shared index ∧ (still ∨ Kept index)) →
      tandem.Together active Counts (fun index => Shared index ∧ (False ∨ Kept index))
          after otherAfter →
        tandem.Together active Counts Wider after otherAfter := by
    intro Counts Kept Wider members ended
    by_cases holds : still
    · have leadIdle := ((idle holds).1 before together.nesting).1
      have trailIdle := ((idle holds).2 other together.otherNesting).1
      rw [run] at leadIdle
      rw [otherRun] at trailIdle
      have leadMemo : after.memo = before.memo := leadIdle
      have trailMemo : otherAfter.memo = other.memo := trailIdle
      refine { ended with agree := fun stratum index member => ?_ }
      rw [leadMemo, trailMemo]
      exact together.agree stratum index (members index member).1
    · refine ended.mono (fun index member => ?_) fun _ _ => id
      obtain ⟨kept, rest⟩ := members index member
      exact ⟨kept, .inr (rest.resolve_left holds)⟩
  cases outcome with
  | ok found =>
      cases answer with
      | error failure => exact shape
      | ok otherFound =>
          have succeeded : tandem.Succeeded False active start mark Shared found otherFound _ _ :=
            shape
          exact ⟨succeeded.corresponds, wider _ (fun _ member => member) succeeded.together⟩
  | error failure =>
      cases answer with
      | ok otherFound => exact shape
      | error otherFailure =>
          have failed : tandem.Failed False active start Shared failure _ _ := shape.2
          exact ⟨shape.1, wider _ (fun _ member => member) failed⟩

/-- Too deep nesting is answered alike, unless the trailing run may nest deeper. -/
theorem Sustains.tooDeep {levels : Nat}
    (settled : tandem.raised = false → trail = Parser.tooDeep start levels) :
    tandem.Sustains still active start (Parser.tooDeep start levels) trail := by
  intro mark Shared shared before other together outcome after run mild
  cases run
  have level : tandem.raised = false :=
    Bool.eq_false_iff.mpr fun raised => mild raised _ rfl rfl
  have failed : tandem.Failed still active start Shared (nestingFailure start levels) before
    other := together.failed
  rw [settled level]
  exact ⟨_, _, rfl, rfl, { failed with }⟩

/-- A guarded rule is entered and left in both runs, or refused in both of them. -/
theorem Sustains.guarded (sustains : tandem.Sustains still (active + 1) start lead trail) :
    tandem.Sustains still active start (guarded tandem.lead start lead)
      (guarded tandem.trail start trail) := by
  intro mark Shared shared before other together outcome after run mild
  cases guarded_ok run with
  | @refused levels refuses =>
      have level : tandem.raised = false :=
        Bool.eq_false_iff.mpr fun raised => mild raised _ rfl rfl
      have sameMax : tandem.trail.options.maxNesting = tandem.lead.options.maxNesting :=
        tandem.level level
      have otherRefuses : refusal? tandem.trail other.nesting = some levels := by
        rw [together.otherNesting, ← together.nesting, ← refuses]
        unfold refusal?
        rw [sameMax]
        rfl
      refine ⟨_, _, guarded_refused otherRefuses, rfl, ?_⟩
      have failed : tandem.Failed still active start Shared (nestingFailure start levels) before
        other := together.failed
      exact { failed with }
  | admitted admits ran =>
      obtain ⟨below, room⟩ := refusal?_eq_none.mp admits
      have otherAdmits : refusal? tandem.trail other.nesting = none := by
        rw [together.otherNesting, ← together.nesting]
        exact refusal?_eq_none.mpr ⟨Nat.lt_of_lt_of_le below tandem.higher, room⟩
      obtain ⟨answer, otherAfter, otherRan, shape⟩ :=
        sustains mark Shared shared _ _ together.entered _ _ ran mild
      refine ⟨answer, otherAfter.left, ?_, ?_⟩
      · rw [guarded_admitted otherAdmits, deeper_ok otherRan]
      · cases outcome with
        | ok found =>
            cases answer with
            | error failure => exact shape
            | ok otherFound =>
                have succeeded : tandem.Succeeded still (active + 1) start mark Shared found
                  otherFound _ _ := shape
                exact ⟨succeeded.corresponds, succeeded.together.left⟩
        | error failure =>
            cases answer with
            | ok otherFound => exact shape
            | error otherFailure => exact ⟨shape.1, Together.left shape.2⟩

theorem Sustains.or_else [Movable α] {leadFirst trailFirst : Attempt (Match α)}
    {Ends : Match α → Prop}
    (plain : tandem.Plain (From start) start leadFirst trailFirst Ends)
    (sustains : tandem.Sustains still active start lead trail) :
    tandem.Sustains still active start (firstOf leadFirst [lead]) (firstOf trailFirst [trail]) := by
  intro mark Shared shared
  have first : tandem.Sustained (tandem.Together active (tandem.Counts mark) Shared) leadFirst
      trailFirst (tandem.Succeeded still active start mark Shared)
      fun _ => tandem.Together active (tandem.Counts mark) Shared := by
    refine (plain.sustained shared).conseq (fun _ _ together => together) ?_ fun _ _ _ => And.right
    rintro found other after otherAfter ⟨rfl, -, together⟩
    exact ⟨.refl _, together.mono (fun _ member => member.1) fun _ _ => tandem.later _⟩
  refine first.firstOf (fun _ _ _ _ _ => Together.failed) fun failure _ => ?_
  refine (sustains mark Shared shared).search
    (fun _ _ _ _ succeeded => succeeded.note failure) (fun _ _ _ _ _ => id) fun other _ => ?_
  exact .throw fun _ _ failed => failed.deeper (le_deepest_right failure other)

end Rules

end Tandem

end MiniC.Parser
