import MiniC.Proofs.LockstepDeclarator

/-!
# Remembered results in lockstep

Three pairings of runs that treat remembered results differently.  When both
runs recall the same results, expressions go in lockstep.  So they do when
neither recalls anything, and then a larger nesting limit makes no difference to a run
that does not meet its own.  So a run that recalls results tracks a run that does not, if
all it recalls was computed without meeting the limit.
-/

namespace MiniC.Parser

/-- A state in which a computation is run on its own. -/
structure State.Alone (state : State) : Prop where
  noted : state.noted = []
  unfelt : state.limitFelt = false

/-- An entry comes from a run of the rule of its stratum on its own, which met no nesting
limit.  The run starts with one memory and leaves another one behind. -/
def Computed (input : Input) (stratum : Stratum) (start : Nat) (entry : Memo.Entry)
    (first last : Memo) : Prop :=
  ∃ (budget : Nat) (before after : State),
    before.memo = first ∧ before.Alone ∧
      (expressionBody input (expression input budget) stratum start).run before =
        .ok entry.outcome after ∧
      after.superseded = entry.superseded ∧ after.limitFelt = false ∧ after.memo = last

/-- What the guarded rule of a stratum answers without meeting a nesting limit. -/
theorem computed_of_guarded {input : Input} {budget start : Nat} {stratum : Stratum}
    {before after : State} {outcome : Outcome Expr}
    (run : (guarded input start
      (expressionBody input (expression input budget) stratum start)).run
        { before with noted := [], limitFelt := false } = .ok outcome after)
    (unfelt : after.limitFelt = false) :
    Computed input stratum start ⟨outcome, after.superseded⟩ before.memo after.memo := by
  cases guarded_ok run with
  | refused => cases unfelt
  | @admitted _ between admits ran =>
      exact ⟨budget, ({ before with noted := [], limitFelt := false } : State).entered, between,
        rfl, ⟨rfl, rfl⟩, ran, rfl, unfelt, rfl⟩

namespace Pairing

/-- Both runs recall the same results and remember alike. -/
structure Remembers (pair : Pairing) : Prop where
  recalls : ∀ {memo other} stratum {start}, pair.Memos memo other → pair.Ready start →
    recalled? pair.trail other stratum (start + pair.offset) =
      moved pair.shift (recalled? pair.lead memo stratum start)
  begins : ∀ {memo other} stratum {start entry}, pair.Memos memo other →
    pair.passage.Within start → pair.limited = false →
      recalled? pair.lead memo stratum start = some entry →
        OnMatch (pair.Begins start) entry.outcome
  insertion : ∀ {first memo firstOther other} stratum {start entry},
    pair.Memos first firstOther → Computed pair.lead stratum start entry first memo →
      pair.Memos memo other → pair.passage.Within start →
        (pair.limited = false → OnMatch (pair.Begins start) entry.outcome) →
          pair.Memos (memo.insert stratum start entry)
            (other.insert stratum (start + pair.offset) (moved pair.shift entry))

section Shared

variable {pair : Pairing} {start : Nat}

theorem tracks_replay {entry : Memo.Entry} {P : Match Expr → Prop}
    (post : pair.limited = false → OnMatch P entry.outcome) :
    pair.Tracks (replay pair.lead entry) (replay pair.trail (moved pair.shift entry))
      (OnMatch P) := by
  refine Tracks.bind Tracks.noteAny fun _ _ => ?_
  change pair.Tracks
    (if pair.supervised = true then
      meet entry.superseded.toList >>= fun _ => Pure.pure entry.outcome
    else Pure.pure entry.outcome)
    (Pure.pure () >>= fun _ => Pure.pure (moved pair.shift entry.outcome)) _
  split
  · exact Tracks.bind Tracks.meet fun _ _ => .pure rfl post
  · exact .pure rfl post

theorem follows_remembered (remembers : pair.Remembers) {stratum : Stratum}
    {lead trail : Attempt (Match Expr)} (ready : pair.Ready start)
    (computed : ∀ {before after : State} {outcome : Outcome Expr},
      lead.run { before with noted := [], limitFelt := false } = .ok outcome after →
        after.limitFelt = false →
          Computed pair.lead stratum start ⟨outcome, after.superseded⟩ before.memo after.memo)
    (follows : pair.Follows lead trail (pair.Begins start)) :
    pair.Follows (remembered pair.lead stratum start lead)
      (remembered pair.trail stratum (start + pair.offset) trail) (pair.Begins start) := by
  have anew : pair.Tracks (anew stratum start lead) (anew stratum (start + pair.offset) trail)
      (OnMatch (pair.Begins start)) :=
    tracks_anew follows fun _ _ _ _ _ memos run unfelt ended post =>
      remembers.insertion stratum memos (computed run unfelt) ended ready.within post
  refine ⟨?_, ?_⟩
  · intro state gaveUp
    have unasked : ∀ {p : Prop}, pair.limited = false → p := by
      intro p unlimited
      rw [gaveUp.1] at unlimited
      cases unlimited
    rw [remembered_run]
    cases recalled? pair.lead state.memo stratum start with
    | some entry => exact (tracks_replay (P := fun _ => True) unasked).givesUp state gaveUp
    | none => exact anew.givesUp state gaveUp
  · intro leadBase trailBase before other allows linked
    rw [remembered_run, remembered_run, remembers.recalls stratum linked.memos ready]
    cases found : recalled? pair.lead before.memo stratum start with
    | some entry =>
        exact (tracks_replay fun unlimited => remembers.begins stratum linked.memos ready.within
          unlimited found).alike _ _ before other allows linked
    | none => exact anew.alike leadBase trailBase before other allows linked

/-- Expressions are in lockstep where results are recalled and remembered alike. -/
theorem Remembers.expressions (remembers : pair.Remembers) : pair.ExpressionsFollow := by
  intro budget other matched
  induction budget generalizing other with
  | zero =>
      intro stratum start ready
      have nothing : ∀ {before after : State} {outcome : Outcome Expr},
          (guarded pair.lead start
              (tooDeep start pair.lead.options.maxNesting : Attempt (Match Expr))).run
              { before with noted := [], limitFelt := false } = .ok outcome after →
            after.limitFelt = false →
              Computed pair.lead stratum start ⟨outcome, after.superseded⟩ before.memo
                after.memo := by
        intro before after outcome run unfelt
        obtain ⟨failure, last, ran, -, -, felt⟩ := exhausted_run pair.lead start _ _
        cases ran.symm.trans run
        cases felt.symm.trans unfelt
      cases other with
      | zero =>
          exact follows_supervise
            (follows_remembered remembers ready nothing (follows_guarded matched.exhausted))
      | succ other =>
          exact follows_supervise
            (follows_remembered remembers ready nothing (follows_guarded matched.released))
  | succ budget induction =>
      intro stratum start ready
      obtain ⟨smaller, rfl, below⟩ := matched.succ
      exact follows_supervise (follows_remembered remembers ready computed_of_guarded
        (follows_guarded (follows_expressionBody (induction smaller below) stratum ready)))

end Shared

/-- What is remembered is the same at the shared indices, and matches begin with tokens
that expressions start with, unless that is not asked for. -/
structure SharedMemos (stream : TokenStream) (limited : Bool) (Shared : Nat → Prop)
    (memo other : Memo) : Prop where
  agree : ∀ stratum start, Shared start → other.find? stratum start = memo.find? stratum start
  begins : limited = false → ∀ stratum start entry, memo.find? stratum start = some entry →
    OnMatch (fun found : Match Expr =>
      start < found.stop ∧ startsExpression (stream.kindAt start) = true) entry.outcome

theorem sharedMemos_empty (stream : TokenStream) (limited : Bool) (Shared : Nat → Prop) :
    SharedMemos stream limited Shared .empty .empty :=
  ⟨fun _ _ _ => rfl, fun _ _ _ _ found => by simp at found⟩

/-- Both runs use the results remembered at the shared indices. -/
def sharing (stream : TokenStream) (leadOptions trailOptions : ParserOptions)
    (stack : Option Nat) (limited supervised : Bool) (Ledgers : Ledger → Ledger → Prop)
    (Shared : Nat → Prop) : Pairing :=
  { passage := .itself stream, leadOptions, trailOptions, leadStack := stack,
    trailStack := stack, leadCaching := true, trailCaching := true, supervised, limited,
    Memos := SharedMemos stream limited Shared, Ledgers, Shared,
    partly := fun part => absurd part (Passage.itself_whole stream) }

/-- In a limited pairing no index may be left out. -/
theorem sharing_expressions (stream : TokenStream) (leadOptions trailOptions : ParserOptions)
    (stack : Option Nat) (limited supervised : Bool) (Ledgers : Ledger → Ledger → Prop)
    {Shared : Nat → Prop} (everywhere : limited = true → ∀ index, Shared index) :
    (sharing stream leadOptions trailOptions stack limited supervised Ledgers
      Shared).ExpressionsFollow := by
  refine Remembers.expressions ⟨?_, ?_, ?_⟩
  · intro memo other stratum start memos ready
    have shared : Shared start := by
      cases limited with
      | false => exact (ready.shared rfl).1
      | true => exact everywhere rfl start
    have same : other.find? stratum start = memo.find? stratum start :=
      memos.agree stratum start shared
    refine Eq.trans ?_ (Movable.moved_still _).symm
    change recalled? _ other stratum start = _
    unfold recalled?
    rw [same]
    rfl
  · intro memo other stratum start entry memos _ unlimited found value matched
    obtain ⟨ahead, starts⟩ := memos.begins unlimited stratum start entry found value matched
    exact ⟨ahead, starts, Passage.within_of_whole (Passage.itself_whole stream)⟩
  · intro first memo firstOther other stratum start entry _ _ memos _ post
    have still : moved (Passage.itself stream).shift entry = entry := Movable.moved_still entry
    change SharedMemos stream limited Shared _ (other.insert stratum start (moved _ entry))
    rw [show moved (sharing stream leadOptions trailOptions stack limited supervised Ledgers
      Shared).shift entry = entry from still]
    refine ⟨?_, ?_⟩
    · intro otherStratum place shared
      rw [Memo.find?_insert, Memo.find?_insert, memos.agree otherStratum place shared]
    · intro unlimited otherStratum place known found
      rw [Memo.find?_insert] at found
      split at found
      · rename_i same
        obtain ⟨-, rfl⟩ := same
        cases found
        exact fun value matched =>
          ⟨(post unlimited value matched).lt, (post unlimited value matched).starts⟩
      · exact memos.begins unlimited otherStratum place known found

/-- Neither run recalls anything, and nothing is asked after the nesting limit. -/
def forgetful (stream : TokenStream) (leadOptions trailOptions : ParserOptions)
    (leadStack trailStack : Option Nat) (Ledgers : Ledger → Ledger → Prop) : Pairing :=
  { passage := .itself stream, leadOptions, trailOptions, leadStack, trailStack,
    leadCaching := false, trailCaching := false, limited := true, Memos := fun _ _ => True,
    Ledgers, partly := fun part => absurd part (Passage.itself_whole stream) }

theorem forgetful_expressions (stream : TokenStream) (leadOptions trailOptions : ParserOptions)
    (leadStack trailStack : Option Nat) (Ledgers : Ledger → Ledger → Prop) :
    (forgetful stream leadOptions trailOptions leadStack trailStack
      Ledgers).ExpressionsFollow := by
  refine Remembers.expressions ⟨?_, ?_, ?_⟩
  · intro memo other stratum start _ _
    rfl
  · intro memo other stratum start entry _ _ unlimited
    cases unlimited
  · intros
    trivial

end Pairing

/-- An entry holds what the rule of its stratum answers, below some nesting limit, to a
run that recalls nothing and does not meet that limit. -/
def Genuine (stream : TokenStream) (stratum : Stratum) (start : Nat) (entry : Memo.Entry) :
    Prop :=
  ∃ (options : ParserOptions) (stack : Option Nat) (first last : Memo),
    Computed { stream, options, stack, caching := false } stratum start entry first last

/-- Everything remembered is genuine. -/
def Faithful (stream : TokenStream) (memo : Memo) : Prop :=
  ∀ stratum start entry, memo.find? stratum start = some entry →
    Genuine stream stratum start entry

theorem faithful_empty (stream : TokenStream) : Faithful stream .empty := by
  intro stratum start entry found
  rw [Memo.find?_empty] at found
  cases found

theorem Faithful.insert {stream : TokenStream} {memo : Memo} (faithful : Faithful stream memo)
    {stratum : Stratum} {start : Nat} {entry : Memo.Entry}
    (genuine : Genuine stream stratum start entry) :
    Faithful stream (memo.insert stratum start entry) := by
  intro other place known found
  rw [Memo.find?_insert] at found
  split at found
  · rename_i same
    obtain ⟨rfl, rfl⟩ := same
    cases found
    exact genuine
  · exact faithful other place known found

/-- Options with a nesting limit of no less than so many levels. -/
def roomier (options : ParserOptions) (levels : Nat) : ParserOptions :=
  { options with
    maxNesting := max options.maxNesting levels
    maxNesting_pos := Nat.lt_of_lt_of_le options.maxNesting_pos (Nat.le_max_left _ _) }

theorem le_roomier (options : ParserOptions) (levels : Nat) :
    options.maxNesting ≤ (roomier options levels).maxNesting :=
  Nat.le_max_left _ _

theorem levels_le_roomier (options : ParserOptions) (levels : Nat) :
    levels ≤ (roomier options levels).maxNesting :=
  Nat.le_max_right _ _

namespace Pairing

/-- A run that recalls nothing leads one with more room, in which no guarded rule is
active before. -/
theorem forgetful_alike {stream : TokenStream} {stratum : Stratum} {start budget larger : Nat}
    {options roomy : ParserOptions} {stack : Option Nat} {state other : State}
    (Ledgers : Ledger → Ledger → Prop) (below : budget ≤ larger)
    (wider : options.maxNesting ≤ roomy.maxNesting) (alone : state.Alone) (otherAlone : other.Alone)
    (free : other.nesting = 0) (ledgers : Ledgers state.ledger other.ledger) :
    let pair := forgetful stream options roomy stack none Ledgers
    let lead : Input := { stream, options, stack, caching := false }
    let trail : Input := { stream, options := roomy, caching := false }
    let result := (expressionBody lead (expression lead budget) stratum start).run state
    (finalState result).limitFelt = true ∨
      pair.Alike { nesting := state.nesting } {} (OnMatch (pair.Begins start)) result
        ((expressionBody trail (expression trail larger) stratum start).run other) := by
  intro pair lead trail result
  have nested := forgetful_expressions stream options roomy stack none Ledgers budget larger
    (.inl ⟨rfl, below⟩)
  have ready : pair.Ready start := ⟨Passage.within_of_whole (Passage.itself_whole stream), nofun⟩
  have body := follows_expressionBody nested stratum ready
  have linked : pair.Linked { nesting := state.nesting } {} state other :=
    ⟨⟨⟨trivial, ledgers⟩, rfl, free⟩, ⟨[], alone.noted, otherAlone.noted⟩, false, alone.unfelt,
      otherAlone.unfelt⟩
  have allows : pair.Allows state.nesting 0 :=
    .inl ⟨rfl, Nat.zero_le _, Nat.le_trans wider (Nat.le_add_right _ _), .inl rfl⟩
  exact (body.alike _ _ _ _ allows linked).imp_left (lost_iff rfl rfl rfl).mp

end Pairing

section Agreement

variable {stream : TokenStream} {stratum : Stratum} {start : Nat} {entry : Memo.Entry}

/-- What a run of a rule leaves that answers as an entry says. -/
structure Memo.Entry.Answered (entry : Memo.Entry) (before after : State) : Prop where
  superseded : after.superseded = entry.superseded
  unfelt : after.limitFelt = false
  ledger : after.ledger = before.ledger
  nesting : after.nesting = before.nesting

/-- A run that recalls nothing answers what a genuine entry holds, with whatever room, or
it meets the nesting limit. -/
theorem Genuine.agrees (genuine : Genuine stream stratum start entry) (options : ParserOptions)
    (stack : Option Nat) (budget : Nat) {state : State} (alone : state.Alone) :
    let input : Input := { stream, options, stack, caching := false }
    let result := (expressionBody input (expression input budget) stratum start).run state
    (finalState result).limitFelt = true ∨
      ∃ after, result = .ok entry.outcome after ∧ entry.Answered state after := by
  intro input result
  obtain ⟨known, otherStack, -, -, other, before, after, -, beforeAlone, run, superseded, unfelt,
    -⟩ := genuine
  -- both runs lead a third one, which has room for either of them
  let free : State := { state with nesting := 0 }
  have freeAlone : free.Alone := ⟨alone.noted, alone.unfelt⟩
  have recorded := (Pairing.forgetful_alike (fun _ _ => True) (Nat.le_max_left other budget)
    (le_roomier known options.maxNesting) beforeAlone freeAlone rfl trivial).resolve_left
      (by rw [run]; exact ne_true_of_eq_false unfelt)
  rw [run] at recorded
  obtain ⟨between, thirdRun, -, recordedLinked⟩ := recorded.same rfl
  refine (Pairing.forgetful_alike (fun lead _ => lead = state.ledger)
    (Nat.le_max_right other budget) (levels_le_roomier known options.maxNesting) alone freeAlone rfl
    rfl).imp_right fun ours => ?_
  rw [thirdRun] at ours
  obtain ⟨last, leadRun, linked⟩ := ours.ledSame rfl
  refine ⟨last, leadRun, ?_, ?_, linked.ledgers, linked.leadNesting⟩
  · calc last.superseded = moved .still last.superseded := (Movable.moved_still _).symm
      _ = between.superseded := linked.superseded.symm
      _ = moved .still after.superseded := recordedLinked.superseded
      _ = after.superseded := Movable.moved_still _
      _ = entry.superseded := superseded
  · exact (linked.sameFelt rfl).symm.trans ((recordedLinked.sameFelt rfl).trans unfelt)

theorem Genuine.agrees_guarded (genuine : Genuine stream stratum start entry)
    (options : ParserOptions) (stack : Option Nat) (budget : Nat) {state : State}
    (alone : state.Alone) :
    let input : Input := { stream, options, stack, caching := false }
    let result := (guarded input start
      (expressionBody input (expression input budget) stratum start)).run state
    (finalState result).limitFelt = true ∨
      ∃ after, result = .ok entry.outcome after ∧ entry.Answered state after := by
  intro input result
  cases refusal : refusal? input state.nesting with
  | some levels =>
      left
      rw [show result = _ from guarded_refused refusal]
      rfl
  | none =>
      have admitted : result = _ := guarded_admitted refusal
      rw [admitted]
      have entered : state.entered.Alone := ⟨alone.noted, alone.unfelt⟩
      rcases genuine.agrees options stack budget entered with felt | ⟨after, run, answered⟩
      · left
        rw [finalState_deeper]
        exact felt
      · right
        rw [deeper_ok run]
        exact ⟨_, rfl, answered.superseded, answered.unfelt, answered.ledger,
          congrArg (· - 1) answered.nesting⟩

end Agreement

namespace Pairing

/-- The leading run recalls nothing, and the trailing run recalls genuine results. -/
def recalling (stream : TokenStream) (options trailOptions : ParserOptions)
    (stack trailStack : Option Nat) (caching : Bool) (Ledgers : Ledger → Ledger → Prop) :
    Pairing :=
  { passage := .itself stream, leadOptions := options, trailOptions, leadStack := stack,
    trailStack, leadCaching := false, trailCaching := caching, limited := true,
    Memos := fun _ memo => Faithful stream memo, Ledgers,
    partly := fun part => absurd part (Passage.itself_whole stream) }

section Recalling

variable {stream : TokenStream} {options trailOptions : ParserOptions}
  {stack trailStack : Option Nat} {caching : Bool} {Ledgers : Ledger → Ledger → Prop}
  {stratum : Stratum} {start : Nat}

/-- What met the limit when it was computed on its own has met it. -/
theorem felt_anew {compute : Attempt (Match Expr)} {state : State}
    (felt : (finalState (compute.run { state with noted := [], limitFelt := false })).limitFelt =
      true) :
    (finalState (anew stratum start compute state)).limitFelt = true := by
  cases run : compute.run { state with noted := [], limitFelt := false } with
  | ok outcome after =>
      rw [run] at felt
      rw [anew_ok run]
      simp only [finalState] at felt ⊢
      simp [felt]
  | error fault after =>
      rw [run] at felt
      rw [anew_fault run]
      simp only [finalState] at felt ⊢
      simp [felt]

theorem alike_recalled {entry : Memo.Entry} {P : Outcome Expr → Prop}
    {leadBase trailBase : Background} {before other : State}
    (genuine : Genuine stream stratum start entry) (budget : Nat) :
    let pair := recalling stream options trailOptions stack trailStack caching Ledgers
    let computed := anew stratum start
      (guarded pair.lead start
        (expressionBody pair.lead (expression pair.lead budget) stratum start))
    pair.Linked leadBase trailBase before other →
      pair.Lost (computed before) ∨
        pair.Alike leadBase trailBase P (computed before) (replay pair.trail entry other) := by
  intro pair computed linked
  have alone : ({ before with noted := [], limitFelt := false } : State).Alone := ⟨rfl, rfl⟩
  rcases genuine.agrees_guarded options stack budget alone with felt | ⟨after, run, answered⟩
  · exact .inl ((lost_iff rfl rfl rfl).mpr (felt_anew felt))
  · right
    obtain ⟨added, leadEq, trailEq⟩ := linked.noted
    obtain ⟨met, leadMet, trailMet⟩ := linked.felt
    have computedRun : computed before = _ := anew_ok run
    rw [answered.superseded, answered.unfelt] at computedRun
    rw [computedRun, replay_run]
    have nesting : after.nesting = before.nesting := answered.nesting
    have ledger : after.ledger = before.ledger := answered.ledger
    refine ⟨(Movable.moved_still _).symm, fun unlimited => (nomatch unlimited),
      ⟨⟨linked.memos, ?_⟩, nesting.trans linked.leadNesting, linked.trailNesting⟩,
      ⟨entry.superseded.toList ++ added, ?_, ?_⟩, met, ?_, trailMet⟩
    · have kept : Ledgers after.ledger other.ledger := ledger ▸ linked.ledgers
      exact kept
    · simp [leadEq]
    · rw [show moved pair.shift (entry.superseded.toList ++ added) = _ from Movable.moved_still _]
      have still : moved Shift.still added = added := Movable.moved_still added
      rw [show moved pair.shift added = added from still] at trailEq
      simp [trailEq]
    · simp [leadMet]

theorem follows_recalling {trail : Attempt (Match Expr)} {P : Match Expr → Prop} (budget : Nat) :
    let pair := recalling stream options trailOptions stack trailStack caching Ledgers
    let compute := guarded pair.lead start
      (expressionBody pair.lead (expression pair.lead budget) stratum start)
    pair.Follows compute trail P →
      pair.Follows (remembered pair.lead stratum start compute)
        (remembered pair.trail stratum start trail) P := by
  intro pair compute follows
  have forgets : ∀ memo, recalled? pair.lead memo stratum start = none := fun _ => rfl
  have anew : pair.Tracks (anew stratum start compute) (anew stratum start trail) (OnMatch P) := by
    refine tracks_anew follows fun before after last other outcome _ run unfelt faithful _ => ?_
    rw [show moved pair.shift (⟨outcome, after.superseded⟩ : Memo.Entry) = _ from
      Movable.moved_still _]
    exact Faithful.insert faithful ⟨options, stack, _, _, computed_of_guarded run unfelt⟩
  refine ⟨fun state gaveUp => ?_, fun leadBase trailBase before other allows linked => ?_⟩
  · rw [remembered_run, forgets]
    exact anew.givesUp state gaveUp
  · rw [remembered_run, remembered_run, forgets]
    cases found : recalled? pair.trail other.memo stratum start with
    | none => exact anew.alike _ _ _ _ allows linked
    | some entry =>
        have known : other.memo.find? stratum start = some entry := by
          unfold recalled? at found
          split at found
          · exact found
          · cases found
        exact alike_recalled (linked.memos stratum start entry known) budget linked

theorem follows_exhausted {trail : Attempt (Match Expr)} {P : Match Expr → Prop}
    {levels : Nat} :
    let pair := recalling stream options trailOptions stack trailStack caching Ledgers
    let compute := guarded pair.lead start (tooDeep start levels)
    pair.Follows (remembered pair.lead stratum start compute) trail P := by
  intro pair compute
  have lost : ∀ state, pair.Lost ((remembered pair.lead stratum start compute).run state) := by
    intro state
    have forgets : recalled? pair.lead state.memo stratum start = none := rfl
    obtain ⟨failure, after, ran, -, -, felt⟩ := exhausted_run pair.lead start levels
      { state with noted := [], limitFelt := false }
    rw [remembered_run, forgets]
    refine (lost_iff rfl rfl rfl).mpr (felt_anew ?_)
    rwa [ran]
  exact ⟨fun state _ => lost state, fun _ _ before _ _ _ => .inl (lost before)⟩

/-- A run that recalls genuine results tracks a run that recalls nothing. -/
theorem recalling_expressions (stream : TokenStream) (options trailOptions : ParserOptions)
    (stack trailStack : Option Nat) (caching : Bool) (Ledgers : Ledger → Ledger → Prop) :
    (recalling stream options trailOptions stack trailStack caching
      Ledgers).ExpressionsFollow := by
  intro budget other matched
  induction budget generalizing other with
  | zero =>
      intro stratum start ready
      cases other with
      | zero => exact follows_supervise follows_exhausted
      | succ other => exact follows_supervise follows_exhausted
  | succ budget induction =>
      intro stratum start ready
      obtain ⟨smaller, rfl, below⟩ := matched.succ
      exact follows_supervise (follows_recalling budget
        (follows_guarded (follows_expressionBody (induction smaller below) stratum ready)))

end Recalling

end Pairing

end MiniC.Parser
