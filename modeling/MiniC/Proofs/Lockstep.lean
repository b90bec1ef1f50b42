import Mathlib.Data.List.Defs
import MiniC.Proofs.Confinement
import MiniC.Proofs.Inversion
import MiniC.Proofs.Passage

/-!
# Two runs in lockstep

The same rules can be run in two settings: supervised or not, with or without
remembered results, below a larger or a smaller nesting limit, over one stream or over
another one in which its tokens stand again.  The trailing run tracks the leading one
when it answers the same from linked states, carried over to its stream, and leaves
linked states behind.

What releases the trailing run from its obligation is left to the pairing.  A supervised
leading run that is broken off at the end of the stream asks nothing.  In a limited
pairing a leading run that met the nesting limit asks nothing either, and in a lenient
one no leading run does that was broken off.
-/

namespace MiniC.Parser

/-- The part of a state that expressions leave alone. -/
structure Ledger where
  errorCount : Nat
  reported : List Diagnostic
  trace : Array Event

/-- What a state has counted, reported and traced. -/
def State.ledger (state : State) : Ledger :=
  { errorCount := state.errorCount, reported := state.reported, trace := state.trace }

/-- The state after a run, whether it was broken off or not. -/
def finalState {α : Type} : EStateM.Result Fault State α → State
  | .ok _ after => after
  | .error _ after => after

theorem finalState_deeper {α : Type} (compute : Engine α) (state : State) :
    finalState (deeper compute state) = (finalState (compute state.entered)).left := by
  unfold deeper
  cases compute state.entered <;> rfl

/-- Two settings, and how their states are linked. -/
structure Pairing where
  /-- How the tokens of the leading stream stand in the trailing one. -/
  passage : Passage
  leadOptions : ParserOptions
  trailOptions : ParserOptions
  leadStack : Option Nat
  trailStack : Option Nat
  leadCaching : Bool
  trailCaching : Bool
  /-- Whether the leading run is supervised. -/
  supervised : Bool := false
  /-- Whether nothing is asked after the nesting limit was met. -/
  limited : Bool := false
  /-- Whether nothing is asked after the leading run was broken off. -/
  lenient : Bool := false
  /-- How what is remembered is linked. -/
  Memos : Memo → Memo → Prop
  /-- How what is counted, reported and traced is linked. -/
  Ledgers : Ledger → Ledger → Prop
  /-- The indices at which expressions may be started. -/
  Shared : Nat → Prop := fun _ => True
  /-- Only a run that ends tells that it did not leave a part of the stream. -/
  partly : passage.Partial → limited = false ∧ lenient = true ∧
    ∀ lead trail, Memos lead trail → Orderly passage.leadStream lead

namespace Pairing

/-- The setting of the leading run. -/
def lead (pair : Pairing) : Input :=
  { stream := pair.passage.leadStream, options := pair.leadOptions,
    caching := pair.leadCaching, supervised := pair.supervised, stack := pair.leadStack }

/-- The setting of the trailing run. -/
def trail (pair : Pairing) : Input :=
  { stream := pair.passage.trailStream, options := pair.trailOptions,
    caching := pair.trailCaching, stack := pair.trailStack }

/-- How things are carried over from the leading to the trailing run. -/
abbrev shift (pair : Pairing) : Shift :=
  pair.passage.shift

/-- How much further on the tokens stand in the trailing stream. -/
abbrev offset (pair : Pairing) : Nat :=
  pair.passage.offset

/-- The leading run met the nesting limit, and that releases the trailing one. -/
def GaveUp (pair : Pairing) (state : State) : Prop :=
  pair.limited = true ∧ state.limitFelt = true

/-- A fault of the leading run after which nothing is asked. -/
def Spares (pair : Pairing) (fault : Fault) : Prop :=
  pair.lenient = true ∨ pair.supervised = true ∧ fault = .pastEnd

/-- A result of the leading run after which nothing is asked. -/
def Lost {α : Type} (pair : Pairing) : EStateM.Result Fault State α → Prop
  | .ok _ after => pair.GaveUp after
  | .error fault after => pair.Spares fault ∨ pair.GaveUp after

theorem lost_iff {α : Type} {pair : Pairing} {result : EStateM.Result Fault State α}
    (limited : pair.limited = true) (strict : pair.lenient = false)
    (unsupervised : pair.supervised = false) :
    pair.Lost result ↔ (finalState result).limitFelt = true := by
  cases result <;> simp [Lost, Spares, GaveUp, finalState, limited, strict, unsupervised]

theorem not_lost {α : Type} {pair : Pairing} {result : EStateM.Result Fault State α}
    (unlimited : pair.limited = false) (strict : pair.lenient = false)
    (unsupervised : pair.supervised = false) : ¬ pair.Lost result := by
  cases result <;> simp [Lost, Spares, GaveUp, unlimited, strict, unsupervised]

/-- What both runs remember, count, report and trace corresponds. -/
structure Akin (pair : Pairing) (lead trail : State) : Prop where
  memos : pair.Memos lead.memo trail.memo
  ledgers : pair.Ledgers lead.ledger trail.ledger

/-- What is put back after a rule: the failures that were noted before it and how many
guarded rules were active, and besides whether the nesting limit had been met. -/
structure Background where
  noted : List Diagnostic := []
  felt : Bool := false
  nesting : Nat := 0

/-- The background that a state makes for what comes next. -/
def Background.of (state : State) : Background :=
  ⟨state.noted, state.limitFelt, state.nesting⟩

/-- Both runs are refused guarded rules alike, below the same nesting limit and with the
same stack. -/
structure SameRoom (pair : Pairing) : Prop where
  maxNesting : pair.trailOptions.maxNesting = pair.leadOptions.maxNesting
  stack : pair.trailStack = pair.leadStack

/-- From nestings of the two runs on, the trailing one has no less room for guarded rules
than the leading one. -/
structure Roomier (pair : Pairing) (leadNesting trailNesting : Nat) : Prop where
  lower : trailNesting ≤ leadNesting
  limit : pair.leadOptions.maxNesting + trailNesting ≤
    pair.trailOptions.maxNesting + leadNesting
  stack : pair.trailStack = none ∨ pair.trailStack = pair.leadStack

/-- Nestings of the two runs that go together. -/
def Allows (pair : Pairing) (leadNesting trailNesting : Nat) : Prop :=
  (pair.limited = true ∧ pair.Roomier leadNesting trailNesting) ∨
    (trailNesting = leadNesting ∧ pair.SameRoom)

/-- States that correspond, both back at the nesting of their backgrounds. -/
structure Returned (pair : Pairing) (leadBase trailBase : Background)
    (lead trail : State) : Prop extends pair.Akin lead trail where
  leadNesting : lead.nesting = leadBase.nesting
  trailNesting : trail.nesting = trailBase.nesting

/-- States of the two runs that correspond, with the same noted and the same limit met
since two backgrounds. -/
structure Linked (pair : Pairing) (leadBase trailBase : Background)
    (lead trail : State) : Prop extends pair.Returned leadBase trailBase lead trail where
  noted : ∃ added, lead.noted = added ++ leadBase.noted ∧
    trail.noted = moved pair.shift added ++ trailBase.noted
  felt : ∃ met, lead.limitFelt = (leadBase.felt || met) ∧
    trail.limitFelt = (trailBase.felt || met)

/-- The same answer on both sides, with states that correspond.  A run that is broken
off need not put back what was noted. -/
def Alike {α : Type} [Movable α] (pair : Pairing) (leadBase trailBase : Background)
    (Post : α → Prop) :
    EStateM.Result Fault State α → EStateM.Result Fault State α → Prop
  | .ok value after, .ok other otherAfter =>
      other = moved pair.shift value ∧ (pair.limited = false → Post value) ∧
        pair.Linked leadBase trailBase after otherAfter
  | .error fault after, .error other otherAfter =>
      other = fault ∧ pair.Returned leadBase trailBase after otherAfter
  | _, _ => False

/-- The trailing computation tracks the leading one.  What is known of the value is
not needed, and not shown, in a limited pairing. -/
structure Tracks {α : Type} [Movable α] (pair : Pairing) (lead trail : Engine α)
    (Post : α → Prop) : Prop where
  givesUp : ∀ state, pair.GaveUp state → pair.Lost (lead state)
  alike : ∀ leadBase trailBase before other, pair.Allows leadBase.nesting trailBase.nesting →
    pair.Linked leadBase trailBase before other →
      pair.Lost (lead before) ∨ pair.Alike leadBase trailBase Post (lead before) (trail other)

/-- What is known of the match in an outcome, if there is one. -/
def OnMatch {α : Type} (Post : α → Prop) (outcome : Except Diagnostic α) : Prop :=
  ∀ value, outcome = .ok value → Post value

/-- The trailing step of a rule tracks the leading one. -/
def Follows {α : Type} [Movable α] (pair : Pairing) (lead trail : Attempt α)
    (Post : α → Prop) : Prop :=
  pair.Tracks lead.run trail.run (OnMatch Post)

/-- An expression may be started at an index, and wherever it goes from there. -/
structure Ready (pair : Pairing) (start : Nat) : Prop where
  within : pair.passage.Within start
  shared : pair.limited = false →
    pair.Shared start ∧
      (startsExpression (pair.passage.leadStream.kindAt start) = true →
        ∀ later, start < later → pair.Shared later)

/-- Expressions may be started from an index on. -/
structure Open (pair : Pairing) (start : Nat) : Prop where
  within : pair.passage.Within start
  shared : pair.limited = false → ∀ later, start ≤ later → pair.Shared later

/-- A match of an expression takes a token, one that expressions start with. -/
structure Begins {α : Type} (pair : Pairing) (start : Nat) (found : Match α) : Prop where
  lt : start < found.stop
  starts : startsExpression (pair.passage.leadStream.kindAt start) = true
  within : pair.passage.Within found.stop

section Readiness

variable {α : Type} {pair : Pairing} {start later : Nat}

/-- In a limited pairing the whole stream stands again. -/
theorem within_of (within : pair.limited = false → pair.passage.Within start) :
    pair.passage.Within start := by
  by_cases part : pair.passage.Partial
  · exact within (pair.partly part).1
  · exact Passage.within_of_whole part

theorem endsPart_of_startsExpression {kind : Kind} (starts : startsExpression kind = true) :
    endsPart kind = false := by
  cases kind <;> first | rfl | cases starts

theorem Open.ready (isOpen : pair.Open start) : pair.Ready start :=
  ⟨isOpen.within, fun unlimited =>
    ⟨isOpen.shared unlimited start (Nat.le_refl _),
      fun _ later further => isOpen.shared unlimited later (Nat.le_of_lt further)⟩⟩

theorem Open.mono (isOpen : pair.Open start)
    (ordered : pair.limited = false → start ≤ later ∧ pair.passage.Within later) :
    pair.Open later :=
  ⟨within_of fun unlimited => (ordered unlimited).2, fun unlimited index further =>
    isOpen.shared unlimited index (Nat.le_trans (ordered unlimited).1 further)⟩

theorem Open.after {kind : Kind} (isOpen : pair.Open start)
    (found : pair.passage.leadStream.kindAt start = kind) (inner : endsPart kind = false) :
    pair.Open (start + 1) :=
  isOpen.mono fun _ => ⟨Nat.le_succ _, isOpen.within.after found inner⟩

theorem Ready.next (ready : pair.Ready start)
    (starts : startsExpression (pair.passage.leadStream.kindAt start) = true) :
    pair.Open (start + 1) :=
  ⟨ready.within.next (endsPart_of_startsExpression starts),
    fun unlimited index further => (ready.shared unlimited).2 starts index further⟩

theorem Ready.after {found : Match α} (ready : pair.Ready start)
    (begun : pair.limited = false → pair.Begins start found) : pair.Open found.stop :=
  ⟨within_of fun unlimited => (begun unlimited).within, fun unlimited index further =>
    (ready.shared unlimited).2 (begun unlimited).starts index
      (Nat.lt_of_lt_of_le (begun unlimited).lt further)⟩

end Readiness

theorem Akin.linked {pair : Pairing} {lead trail : State} (akin : pair.Akin lead trail) :
    pair.Linked (.of lead) (.of trail) lead trail :=
  ⟨⟨akin, rfl, rfl⟩, ⟨[], rfl, rfl⟩, false, by simp [Background.of], by simp [Background.of]⟩

section Linked

variable {pair : Pairing} {leadBase trailBase : Background} {lead trail before other : State}

theorem Linked.superseded {leadFelt trailFelt : Bool} {leadNesting trailNesting : Nat}
    (linked : pair.Linked ⟨[], leadFelt, leadNesting⟩ ⟨[], trailFelt, trailNesting⟩ lead trail) :
    trail.superseded = moved pair.shift lead.superseded := by
  obtain ⟨added, leadEq, trailEq⟩ := linked.noted
  unfold State.superseded
  rw [leadEq, trailEq, List.append_nil, List.append_nil, deepestNoted_moved]

theorem Linked.sameFelt (linked : pair.Linked leadBase trailBase lead trail)
    (same : trailBase.felt = leadBase.felt) : trail.limitFelt = lead.limitFelt := by
  obtain ⟨met, leadEq, trailEq⟩ := linked.felt
  rw [leadEq, trailEq, same]

theorem Linked.alone (linked : pair.Linked leadBase trailBase before other) :
    pair.Linked { nesting := leadBase.nesting } { nesting := trailBase.nesting }
      { before with noted := [], limitFelt := false }
      { other with noted := [], limitFelt := false } :=
  ⟨⟨⟨linked.memos, linked.ledgers⟩, linked.leadNesting, linked.trailNesting⟩, ⟨[], rfl, rfl⟩,
    false, rfl, rfl⟩

/-- What was known before a computation was run on its own is put back after it, and what
it noted is added. -/
theorem Linked.restored (known : List Diagnostic)
    (linked : pair.Linked leadBase trailBase before other)
    (ended : pair.Linked { nesting := leadBase.nesting } { nesting := trailBase.nesting }
      lead trail) :
    pair.Linked leadBase trailBase
      { lead with
        noted := known ++ before.noted, limitFelt := before.limitFelt || lead.limitFelt }
      { trail with
        noted := moved pair.shift known ++ other.noted
        limitFelt := other.limitFelt || trail.limitFelt } := by
  obtain ⟨added, leadEq, trailEq⟩ := linked.noted
  obtain ⟨met, leadMet, trailMet⟩ := linked.felt
  refine ⟨⟨⟨ended.memos, ended.ledgers⟩, ended.leadNesting, ended.trailNesting⟩,
    ⟨known ++ added, ?_, ?_⟩, met || lead.limitFelt, ?_, ?_⟩
  · simp [leadEq]
  · simp [trailEq, moved_append]
  · simp [leadMet, Bool.or_assoc]
  · simp [trailMet, ended.sameFelt rfl, Bool.or_assoc]

end Linked

section Alike

variable {α : Type} [Movable α] {pair : Pairing} {leadBase trailBase : Background}
  {P : α → Prop} {value : α} {fault : Fault} {after last : State}
  {lead trail : EStateM.Result Fault State α}

theorem Alike.answered (alike : pair.Alike leadBase trailBase P (.ok value after) trail) :
    ∃ last, trail = .ok (moved pair.shift value) last ∧ (pair.limited = false → P value) ∧
      pair.Linked leadBase trailBase after last := by
  cases trail with
  | error fault last => exact alike.elim
  | ok other last =>
      obtain ⟨rfl, post, linked⟩ := alike
      exact ⟨last, rfl, post, linked⟩

theorem Alike.led {other : α} (alike : pair.Alike leadBase trailBase P lead (.ok other last)) :
    ∃ value after, lead = .ok value after ∧ other = moved pair.shift value ∧
      pair.Linked leadBase trailBase after last := by
  cases lead with
  | error fault after => exact alike.elim
  | ok value after =>
      obtain ⟨same, -, linked⟩ := alike
      exact ⟨value, after, rfl, same, linked⟩

theorem Alike.broken (alike : pair.Alike leadBase trailBase P (.error fault after) trail) :
    ∃ last, trail = .error fault last ∧ pair.Returned leadBase trailBase after last := by
  cases trail with
  | error other last =>
      obtain ⟨rfl, returned⟩ := alike
      exact ⟨last, rfl, returned⟩
  | ok value last => exact alike.elim

end Alike

/-- An answer of the leading computation, unless nothing is asked after it, is one of the
trailing computation. -/
theorem Tracks.answered {α : Type} [Movable α] {pair : Pairing} {lead trail : Engine α}
    {P : α → Prop} {leadBase trailBase : Background} {before other after : State} {value : α}
    (tracks : pair.Tracks lead trail P)
    (allows : pair.Allows leadBase.nesting trailBase.nesting)
    (linked : pair.Linked leadBase trailBase before other) (run : lead before = .ok value after)
    (goesOn : ¬ pair.GaveUp after) :
    ∃ last, trail other = .ok (moved pair.shift value) last ∧
      (pair.limited = false → P value) ∧ pair.Linked leadBase trailBase after last := by
  have ran := tracks.alike leadBase trailBase before other allows linked
  rw [run] at ran
  exact (ran.resolve_left goesOn).answered

section Still

variable {α : Type} [Movable α] {pair : Pairing} {leadBase trailBase : Background}
  {P : α → Prop} {value : α} {after last : State} {lead trail : EStateM.Result Fault State α}

/-- Where nothing is moved, the trailing run answers the same. -/
theorem Alike.same (alike : pair.Alike leadBase trailBase P (.ok value after) trail)
    (still : pair.shift = .still) :
    ∃ last, trail = .ok value last ∧ (pair.limited = false → P value) ∧
      pair.Linked leadBase trailBase after last := by
  obtain ⟨last, rfl, known⟩ := alike.answered
  rw [still, Movable.moved_still]
  exact ⟨last, rfl, known⟩

/-- Where nothing is moved, the leading run had answered the same. -/
theorem Alike.ledSame (alike : pair.Alike leadBase trailBase P lead (.ok value last))
    (still : pair.shift = .still) :
    ∃ after, lead = .ok value after ∧ pair.Linked leadBase trailBase after last := by
  obtain ⟨other, after, rfl, same, linked⟩ := alike.led
  rw [still, Movable.moved_still] at same
  exact ⟨after, same ▸ rfl, linked⟩

theorem Tracks.same {before other : State} {compute recompute : Engine α}
    (tracks : pair.Tracks compute recompute P) (still : pair.shift = .still)
    (allows : pair.Allows leadBase.nesting trailBase.nesting)
    (linked : pair.Linked leadBase trailBase before other)
    (run : compute before = .ok value after) (goesOn : ¬ pair.GaveUp after) :
    ∃ last, recompute other = .ok value last ∧ (pair.limited = false → P value) ∧
      pair.Linked leadBase trailBase after last := by
  have ran := tracks.alike leadBase trailBase before other allows linked
  rw [run] at ran
  exact (ran.resolve_left goesOn).same still

theorem Linked.sameNoted {before other : State}
    (linked : pair.Linked leadBase trailBase before other) (still : pair.shift = .still) :
    ∃ added, before.noted = added ++ leadBase.noted ∧ other.noted = added ++ trailBase.noted := by
  obtain ⟨added, leadEq, trailEq⟩ := linked.noted
  rw [still, Movable.moved_still] at trailEq
  exact ⟨added, leadEq, trailEq⟩

end Still

namespace Tracks

variable {α β : Type} [Movable α] [Movable β] {pair : Pairing} {lead trail : Engine α}
  {leadNext trailNext : α → Engine β} {P : α → Prop} {Q : β → Prop}

theorem pure {value other : α} (same : other = moved pair.shift value)
    (post : pair.limited = false → P value) :
    pair.Tracks (pure value) (pure other) P :=
  ⟨fun _ gaveUp => gaveUp, fun _ _ _ _ _ linked => .inr ⟨same, post, linked⟩⟩

theorem abort {fault : Fault} : pair.Tracks (abort fault : Engine α) (abort fault) P :=
  ⟨fun _ gaveUp => .inr gaveUp, fun _ _ _ _ _ linked => .inr ⟨rfl, linked.toReturned⟩⟩

/-- A leading run that breaks off with a fault that is spared asks nothing. -/
theorem spare {fault : Fault} (spares : pair.Spares fault) :
    pair.Tracks (Parser.abort fault) trail P :=
  ⟨fun _ _ => .inl spares, fun _ _ _ _ _ _ => .inl (.inl spares)⟩

theorem bind (first : pair.Tracks lead trail P)
    (second : ∀ value, (pair.limited = false → P value) →
      pair.Tracks (leadNext value) (trailNext (moved pair.shift value)) Q) :
    pair.Tracks (lead >>= leadNext) (trail >>= trailNext) Q := by
  -- once the leading run gave up it stays so, whatever value comes next
  have lostNext : ∀ state, pair.Lost (lead state) → pair.Lost ((lead >>= leadNext) state) := by
    intro state lost
    change pair.Lost (EStateM.bind lead leadNext state)
    unfold EStateM.bind
    cases run : lead state with
    | error fault after =>
        rw [run] at lost
        exact lost
    | ok value after =>
        rw [run] at lost
        exact (second value fun unlimited => by simp [lost.1] at unlimited).givesUp after lost
  refine ⟨fun state gaveUp => lostNext state (first.givesUp state gaveUp), ?_⟩
  intro leadBase trailBase before other allows linked
  rcases first.alike leadBase trailBase before other allows linked with lost | alike
  · exact .inl (lostNext before lost)
  · change pair.Lost (EStateM.bind lead leadNext before) ∨
      pair.Alike leadBase trailBase Q (EStateM.bind lead leadNext before)
        (EStateM.bind trail trailNext other)
    unfold EStateM.bind
    cases leadRun : lead before with
    | error fault after =>
        rw [leadRun] at alike
        obtain ⟨otherAfter, trailRun, returned⟩ := alike.broken
        rw [trailRun]
        exact .inr ⟨rfl, returned⟩
    | ok value after =>
        rw [leadRun] at alike
        obtain ⟨otherAfter, trailRun, post, nextLinked⟩ := alike.answered
        rw [trailRun]
        exact (second value post).alike leadBase trailBase after otherAfter allows nextLinked

/-- More may be known of the values of the leading run on its own. -/
theorem strengthen {stronger : α → Prop} (tracks : pair.Tracks lead trail P)
    (implies : pair.limited = false → ∀ before other value after, pair.Akin before other →
      lead before = .ok value after → P value → stronger value) :
    pair.Tracks lead trail stronger := by
  refine ⟨tracks.givesUp, ?_⟩
  intro leadBase trailBase before other allows linked
  refine (tracks.alike leadBase trailBase before other allows linked).imp_right fun alike => ?_
  cases leadRun : lead before with
  | error fault after =>
      rw [leadRun] at alike
      obtain ⟨last, trailRun, returned⟩ := alike.broken
      rw [trailRun]
      exact ⟨rfl, returned⟩
  | ok value after =>
      rw [leadRun] at alike
      obtain ⟨last, trailRun, post, nextLinked⟩ := alike.answered
      rw [trailRun]
      exact ⟨rfl, fun unlimited =>
        implies unlimited before other value after linked.toAkin leadRun (post unlimited),
        nextLinked⟩

theorem mono {weaker : α → Prop} (tracks : pair.Tracks lead trail P)
    (implies : pair.limited = false → ∀ value, P value → weaker value) :
    pair.Tracks lead trail weaker :=
  tracks.strengthen fun unlimited _ _ value _ _ _ => implies unlimited value

theorem ite {test otherTest : Prop} [Decidable test] [Decidable otherTest]
    {leadOther trailOther : Engine α} (same : otherTest ↔ test)
    (yes : test → pair.Tracks lead trail P) (no : ¬ test → pair.Tracks leadOther trailOther P) :
    pair.Tracks (if test then lead else leadOther) (if otherTest then trail else trailOther)
      P := by
  by_cases holds : test
  · rw [if_pos holds, if_pos (same.mpr holds)]
    exact yes holds
  · rw [if_neg holds, if_neg fun other => holds (same.mp other)]
    exact no holds

theorem note {failure : Diagnostic} :
    pair.Tracks (note failure) (note (moved pair.shift failure)) fun _ => True := by
  refine ⟨fun _ gaveUp => gaveUp, ?_⟩
  intro leadBase trailBase before other _ linked
  obtain ⟨added, leadEq, trailEq⟩ := linked.noted
  refine .inr ⟨rfl, fun _ => trivial, ⟨⟨linked.memos, linked.ledgers⟩, linked.leadNesting,
    linked.trailNesting⟩, ⟨failure :: added, ?_, ?_⟩, linked.felt⟩
  · exact congrArg (failure :: ·) leadEq
  · exact congrArg (moved pair.shift failure :: ·) trailEq

theorem noteAny {failure : Option Diagnostic} :
    pair.Tracks (noteAny failure) (noteAny (moved pair.shift failure)) fun _ => True := by
  cases failure with
  | none => exact pure rfl fun _ => trivial
  | some known => exact note

/-- The trailing run does not see what the leading one meets. -/
theorem meet {failures : List Diagnostic} :
    pair.Tracks (Parser.meet failures) (Pure.pure ()) fun _ => True :=
  ⟨fun _ gaveUp => gaveUp, fun _ _ _ _ _ linked =>
    .inr ⟨rfl, fun _ => trivial, ⟨⟨linked.memos, linked.ledgers⟩, linked.leadNesting,
      linked.trailNesting⟩, linked.noted, linked.felt⟩⟩

end Tracks

namespace Follows

variable {α β : Type} [Movable α] [Movable β] {pair : Pairing} {lead trail : Attempt α}
  {leadNext trailNext : α → Attempt β} {P : α → Prop} {Q : β → Prop}

theorem pure {value other : α} (same : other = moved pair.shift value)
    (post : pair.limited = false → P value) :
    pair.Follows (pure value) (pure other) P := by
  refine Tracks.pure (congrArg Except.ok same) fun unlimited found equal => ?_
  cases equal
  exact post unlimited

theorem throw {failure other : Diagnostic} (same : other = moved pair.shift failure) :
    pair.Follows (throw failure : Attempt α) (throw other) P :=
  Tracks.pure (congrArg Except.error same) fun _ _ impossible => nomatch impossible

theorem lift {lead trail : Engine α} (tracks : pair.Tracks lead trail P) :
    pair.Follows (liftM lead : Attempt α) (liftM trail) P := by
  change pair.Tracks (lead >>= fun value => Pure.pure (.ok value))
    (trail >>= fun value => Pure.pure (.ok value)) (OnMatch P)
  exact Tracks.bind tracks fun value post => pure rfl post

theorem abort {fault : Fault} :
    pair.Follows (liftM (Parser.abort fault : Engine α) : Attempt α)
      (liftM (Parser.abort fault : Engine α)) P :=
  lift Tracks.abort

theorem stalled {other : Nat} (trail : Nat → Attempt α) (fuelled : pair.passage.Fuelled 0 other)
    (stalls : trail 0 = liftM (Parser.abort .stalled : Engine α)) :
    pair.Follows (liftM (Parser.abort .stalled : Engine α)) (trail other) P := by
  rcases fuelled with rfl | ⟨part, -⟩
  · rw [stalls]
    exact abort
  · exact Tracks.spare (.inl (pair.partly part).2.1)

theorem bind (first : pair.Follows lead trail P)
    (second : ∀ value, (pair.limited = false → P value) →
      pair.Follows (leadNext value) (trailNext (moved pair.shift value)) Q) :
    pair.Follows (lead >>= leadNext) (trail >>= trailNext) Q := by
  change pair.Tracks (lead.run >>= ExceptT.bindCont leadNext)
    (trail.run >>= ExceptT.bindCont trailNext) (OnMatch Q)
  refine Tracks.bind first fun outcome post => ?_
  cases outcome with
  | ok value => exact second value fun unlimited => post unlimited value rfl
  | error failure => exact throw rfl

theorem mono {weaker : α → Prop} (follows : pair.Follows lead trail P)
    (implies : pair.limited = false → ∀ value, P value → weaker value) :
    pair.Follows lead trail weaker :=
  Tracks.mono follows fun unlimited _ post value same =>
    implies unlimited value (post value same)

/-- What is known of the leading run on its own, where a part of its stream stands again. -/
theorem confined {start : Nat} {Ends : α → Prop} (follows : pair.Follows lead trail P)
    (confined : pair.passage.Partial →
      Confined pair.passage.leadStream start lead Ends) :
    pair.Follows lead trail fun value => P value ∧ (pair.passage.Partial → Ends value) := by
  refine Tracks.strengthen follows fun _ before other outcome after akin run post => ?_
  rintro value rfl
  refine ⟨post value rfl, fun part => ?_⟩
  exact ((confined part).ran run ((pair.partly part).2.2 _ _ akin.memos)).2

theorem ite {test otherTest : Prop} [Decidable test] [Decidable otherTest]
    {leadOther trailOther : Attempt α} (same : otherTest ↔ test)
    (yes : test → pair.Follows lead trail P)
    (no : ¬ test → pair.Follows leadOther trailOther P) :
    pair.Follows (if test then lead else leadOther) (if otherTest then trail else trailOther)
      P := by
  by_cases holds : test
  · rw [if_pos holds, if_pos (same.mpr holds)]
    exact yes holds
  · rw [if_neg holds, if_neg fun other => holds (same.mp other)]
    exact no holds

theorem describe {describe otherDescribe : Diagnostic → Diagnostic}
    (follows : pair.Follows lead trail P)
    (same : ∀ failure, otherDescribe (moved pair.shift failure) =
      moved pair.shift (describe failure)) :
    pair.Follows (tryCatch lead fun failure => MonadExcept.throw (describe failure))
      (tryCatch trail fun failure => MonadExcept.throw (otherDescribe failure)) P := by
  refine Tracks.bind follows fun outcome post => ?_
  cases outcome with
  | ok value => exact pure rfl fun unlimited => post unlimited value rfl
  | error failure => exact throw (same failure)

end Follows

section Primitives

variable {α : Type} [Movable α] {pair : Pairing} {start : Nat}

/-- A supervised run that breaks off asks nothing, and otherwise the supervisor is
not noticed. -/
theorem follows_supervise {lead trail : Attempt (Match α)} {P : Match α → Prop} {other : Nat}
    (follows : pair.Follows lead trail P) :
    pair.Follows (supervise pair.lead start lead) (supervise pair.trail other trail) P := by
  change pair.Follows (supervise pair.lead start lead) trail P
  unfold supervise
  split
  · rename_i supervised
    have spares : pair.Spares .pastEnd := .inr ⟨supervised, rfl⟩
    change pair.Tracks
      (if pair.lead.stream.lastIndex < start then abort .pastEnd
        else lead.run >>= fun outcome =>
          if Outcome.Inside pair.lead.stream start outcome then
            meet (failure? outcome).toList >>= fun _ => pure outcome
          else abort .pastEnd) trail.run (OnMatch P)
    split
    · exact Tracks.spare spares
    · have plain : trail.run = trail.run >>= fun outcome => pure () >>= fun _ => pure outcome := by
        simp
      rw [plain]
      refine Tracks.bind follows fun outcome post => ?_
      split
      · exact Tracks.bind Tracks.meet fun _ _ => Tracks.pure rfl post
      · exact Tracks.spare spares
  · exact follows

theorem follows_tokenAt (within : pair.passage.Within start) :
    pair.Follows (liftM (tokenAt pair.lead start) : Attempt Token)
      (liftM (tokenAt pair.trail (start + pair.offset)))
      fun token => pair.passage.leadStream.get? start = some token := by
  refine Follows.lift ?_
  have same : pair.trail.stream.get? (start + pair.offset) =
      (pair.lead.stream.get? start).map pair.shift.token := pair.passage.same start within
  unfold tokenAt
  rw [same]
  cases found : pair.lead.stream.get? start with
  | none => exact .abort
  | some token => exact .pure rfl fun _ => found

theorem kindAt_trail (within : pair.passage.Within start) :
    pair.trail.kindAt (start + pair.offset) = pair.lead.kindAt start :=
  Passage.kindAt_moved within

/-- At the very start of a part a closing token that is missing is reported in another way
than further on. -/
theorem follows_expect {kind : Kind} (within : pair.passage.Within start)
    (placed : pair.passage.Partial → 0 < start ∨ kind.isReportedAfter = false) :
    pair.Follows (expect pair.lead kind start) (expect pair.trail kind (start + pair.offset))
      fun next => next = start + 1 ∧ pair.passage.leadStream.kindAt start = kind := by
  refine Follows.ite (by rw [kindAt_trail within])
    (fun kindEq => .pure (Passage.next_moved _ _) fun _ => ⟨rfl, kindEq⟩) fun _ => .throw ?_
  exact (Diagnostic.missing_kind_moved _ (pair.passage.placed placed)).symm

/-- A step after a token, with that token known also in a limited pairing. -/
theorem follows_expect_bind {β : Type} [Movable β] {kind : Kind}
    {leadNext trailNext : Nat → Attempt β} {Q : β → Prop} (within : pair.passage.Within start)
    (placed : pair.passage.Partial → 0 < start ∨ kind.isReportedAfter = false)
    (next : pair.passage.leadStream.kindAt start = kind →
      pair.Follows (leadNext (start + 1)) (trailNext (start + 1 + pair.offset)) Q) :
    pair.Follows (expect pair.lead kind start >>= leadNext)
      (expect pair.trail kind (start + pair.offset) >>= trailNext) Q := by
  have sameKind := kindAt_trail within
  by_cases found : pair.lead.kindAt start = kind
  · have leads : expect pair.lead kind start = pure (start + 1) := if_pos found
    have trails :
        expect pair.trail kind (start + pair.offset) = pure (start + 1 + pair.offset) := by
      rw [← Passage.next_moved]
      exact if_pos (sameKind.trans found)
    rw [leads, trails, pure_bind, pure_bind]
    exact next found
  · have leads : expect pair.lead kind start = throw (.missing start (.kind kind)) := if_neg found
    have trails : expect pair.trail kind (start + pair.offset) =
        throw (.missing ((start + pair.offset : Nat) : Int) (.kind kind)) :=
      if_neg fun otherFound => found (sameKind.symm.trans otherFound)
    rw [leads, trails]
    exact Follows.throw (Diagnostic.missing_kind_moved _ (pair.passage.placed placed)).symm

theorem tracks_continueWith {best : Diagnostic} {P : Match α → Prop}
    {leads trails : List (Attempt (Match α))}
    (follows : List.Forall₂ (fun lead trail => pair.Follows lead trail P) leads trails) :
    pair.Tracks (Choice.continueWith note best (leads.map ExceptT.run))
      (Choice.continueWith note (moved pair.shift best) (trails.map ExceptT.run))
      (OnMatch P) := by
  induction follows generalizing best with
  | nil => exact Follows.throw rfl
  | cons first rest induction =>
      refine Tracks.bind first fun outcome post => ?_
      cases outcome with
      | ok found => exact Tracks.bind Tracks.note fun _ _ => Tracks.pure rfl post
      | error failure =>
          refine Tracks.ite Iff.rfl (fun _ => Follows.throw rfl) fun _ => ?_
          rw [Diagnostic.deepest_moved]
          exact induction

theorem follows_firstOf {lead trail : Attempt (Match α)} {P : Match α → Prop}
    {leads trails : List (Attempt (Match α))} (first : pair.Follows lead trail P)
    (others : List.Forall₂ (fun lead trail => pair.Follows lead trail P) leads trails) :
    pair.Follows (firstOf lead leads) (firstOf trail trails) P := by
  refine Tracks.bind first fun outcome post => ?_
  cases outcome with
  | ok found => exact Tracks.pure rfl post
  | error failure =>
      exact Tracks.ite Iff.rfl (fun _ => Follows.throw rfl) fun _ => tracks_continueWith others

end Primitives

/-! ## Guarded rules -/

section Guarded

variable {α : Type} [Movable α] {pair : Pairing} {start levels leadNesting trailNesting : Nat}

/-- Too deep nesting is answered alike, or it ends the lockstep. -/
theorem follows_tooDeep {trail : Attempt α} {P : α → Prop}
    (settled : pair.limited = true ∨ trail = tooDeep (start + pair.offset) levels) :
    pair.Follows (tooDeep start levels) trail P := by
  rcases settled with limited | rfl
  · exact ⟨fun _ _ => ⟨limited, rfl⟩, fun _ _ _ _ _ _ => .inl ⟨limited, rfl⟩⟩
  · refine ⟨fun _ gaveUp => ⟨gaveUp.1, rfl⟩, fun _ _ before other _ linked => .inr ?_⟩
    exact ⟨rfl, fun _ _ impossible => (nomatch impossible), ⟨⟨linked.memos, linked.ledgers⟩,
      linked.leadNesting, linked.trailNesting⟩, linked.noted, true, by simp, by simp⟩

theorem Allows.succ (allows : pair.Allows leadNesting trailNesting) :
    pair.Allows (leadNesting + 1) (trailNesting + 1) := by
  rcases allows with ⟨limited, room⟩ | ⟨same, room⟩
  · have lower := room.lower
    have limit := room.limit
    exact .inl ⟨limited, by omega, by omega, room.stack⟩
  · exact .inr ⟨congrArg (· + 1) same, room⟩

/-- Where the leading run is refused a rule, so is the trailing one, or it is released. -/
theorem Allows.refused (allows : pair.Allows leadNesting trailNesting)
    (unlimited : pair.limited = false) :
    refusal? pair.trail trailNesting = refusal? pair.lead leadNesting := by
  rcases allows with ⟨limited, -⟩ | ⟨rfl, room⟩
  · exact nomatch unlimited.symm.trans limited
  · have sameMax : pair.trail.options.maxNesting = pair.lead.options.maxNesting :=
      room.maxNesting
    have sameStack : pair.trail.stack = pair.lead.stack := room.stack
    unfold refusal?
    rw [sameMax, sameStack]

theorem Allows.admitted (allows : pair.Allows leadNesting trailNesting)
    (admits : refusal? pair.lead leadNesting = none) :
    refusal? pair.trail trailNesting = none := by
  rw [refusal?_eq_none] at admits ⊢
  obtain ⟨below, inStack⟩ := admits
  have below : leadNesting < pair.leadOptions.maxNesting := below
  change trailNesting < pair.trailOptions.maxNesting ∧ ∀ room ∈ pair.trailStack, trailNesting < room
  rcases allows with ⟨-, room⟩ | ⟨rfl, room⟩
  · have limit := room.limit
    have lower := room.lower
    refine ⟨by omega, fun levels known => ?_⟩
    rcases room.stack with none | same
    · rw [none] at known
      cases known
    · rw [same] at known
      exact Nat.lt_of_le_of_lt lower (inStack levels known)
  · rw [room.maxNesting, room.stack]
    exact ⟨below, inStack⟩

/-- A guarded rule is entered and left in both runs, or refused in both of them. -/
theorem follows_guarded {lead trail : Attempt (Match α)} {P : Match α → Prop}
    (follows : pair.Follows lead trail P) :
    pair.Follows (guarded pair.lead start lead)
      (guarded pair.trail (start + pair.offset) trail) P := by
  refine ⟨fun state gaveUp => ?_, fun leadBase trailBase before other allows linked => ?_⟩
  · cases refusal : refusal? pair.lead state.nesting with
    | some levels =>
        rw [guarded_refused refusal]
        exact ⟨gaveUp.1, rfl⟩
    | none =>
        have lost := follows.givesUp state.entered gaveUp
        rw [guarded_admitted refusal]
        unfold deeper
        cases run : lead.run state.entered <;> rw [run] at lost <;> exact lost
  · cases refusal : refusal? pair.lead before.nesting with
    | some levels =>
        rw [guarded_refused refusal]
        cases limited : pair.limited with
        | true => exact .inl ⟨limited, rfl⟩
        | false =>
            have otherRefusal : refusal? pair.trail other.nesting = some levels := by
              rw [linked.trailNesting, allows.refused limited, ← linked.leadNesting, refusal]
            rw [guarded_refused otherRefusal]
            exact .inr ⟨rfl, fun _ _ impossible => (nomatch impossible),
              ⟨⟨linked.memos, linked.ledgers⟩, linked.leadNesting, linked.trailNesting⟩,
              linked.noted, true, by simp, by simp⟩
    | none =>
        have otherRefusal : refusal? pair.trail other.nesting = none := by
          rw [linked.leadNesting] at refusal
          rw [linked.trailNesting]
          exact allows.admitted refusal
        have entered : pair.Linked { leadBase with nesting := leadBase.nesting + 1 }
            { trailBase with nesting := trailBase.nesting + 1 } before.entered other.entered :=
          ⟨⟨⟨linked.memos, linked.ledgers⟩, congrArg (· + 1) linked.leadNesting,
            congrArg (· + 1) linked.trailNesting⟩, linked.noted, linked.felt⟩
        rw [guarded_admitted refusal, guarded_admitted otherRefusal]
        have ran := follows.alike _ _ _ _ allows.succ entered
        cases leadRun : lead.run before.entered with
        | error fault after =>
            rw [leadRun] at ran
            rw [deeper_fault leadRun]
            refine ran.imp id fun alike => ?_
            obtain ⟨last, trailRun, returned⟩ := alike.broken
            rw [deeper_fault trailRun]
            exact ⟨rfl, ⟨returned.memos, returned.ledgers⟩,
              congrArg (· - 1) returned.leadNesting, congrArg (· - 1) returned.trailNesting⟩
        | ok outcome after =>
            rw [leadRun] at ran
            rw [deeper_ok leadRun]
            refine ran.imp id fun alike => ?_
            obtain ⟨last, trailRun, post, ended⟩ := alike.answered
            rw [deeper_ok trailRun]
            exact ⟨rfl, post, ⟨⟨ended.memos, ended.ledgers⟩,
              congrArg (· - 1) ended.leadNesting, congrArg (· - 1) ended.trailNesting⟩,
              ended.noted, ended.felt⟩

end Guarded

end Pairing

end MiniC.Parser
