import MiniC.Parser.Unit
import MiniC.Proofs.ConfinedStatement
import MiniC.Proofs.LockstepDeclarator

/-!
# Recovery loops in lockstep

Where both runs count the same errors, have the same error limit and see the same lines,
the recovery loops go through the same rounds.  Only the trace tells where the tokens
stand.
-/

namespace MiniC.Parser

/-- The errors that were counted and reported, and the trace, refer to tokens only in the
events of the trace. -/
instance : Movable Event where
  moved shift
    | .limitReached start stop => .limitReached (start + shift.offset) (stop + shift.offset)
    | .recovered kind position start stop =>
        .recovered kind (position + shift.offset) (start + shift.offset) (stop + shift.offset)
    | event => event
  moved_still event := by cases event <;> simp

theorem keepItem_moved {α : Type} [Movable α] (shift : Shift) (found : Match α)
    (rest : Match (List α)) :
    keepItem (moved shift found) (moved shift rest) = moved shift (keepItem found rest) := by
  change Match.mk _ _ _ = Match.mk _ _ (moved shift (found.recovered ++ rest.recovered))
  rw [moved_append]
  rfl

namespace Passage

variable {passage : Passage} {count index start failedAt limit : Nat}

theorem synchronizeFrom_moved (lines : ∀ token, (passage.shift.token token).line = token.line)
    (positive : 0 < index) (within : passage.Within (index + count)) :
    synchronizeFrom passage.trailStream count (index + passage.offset) =
      moved passage.shift (synchronizeFrom passage.leadStream count index) := by
  induction count generalizing index with
  | zero => rfl
  | succ count induction =>
      have place : index + passage.offset - 1 = index - 1 + passage.offset := by omega
      unfold synchronizeFrom
      rw [place, passage.same (index - 1) (within.mono (by omega)),
        passage.same index (within.mono (by omega)), next_moved]
      cases passage.leadStream.get? (index - 1) with
      | none => rfl
      | some previous =>
          simp only [Option.map_some, passage.kind]
          split
          · rfl
          · cases passage.leadStream.get? index with
            | none => rfl
            | some token =>
                simp only [Option.map_some, lines]
                split
                · rfl
                · exact induction (Nat.succ_pos index) (by rwa [Nat.succ_add_eq_add_succ])

end Passage

namespace Pairing

/-- The recovery loops of both runs decide alike: they count the same errors, have the same
error limit and see the same lines. -/
structure Recovers (pair : Pairing) : Prop where
  maxErrors : pair.trailOptions.maxErrors = pair.leadOptions.maxErrors
  lines : ∀ token, (pair.shift.token token).line = token.line
  itself : pair.limited = true → ∀ ledger, pair.Ledgers ledger ledger
  counted : ∀ {first second}, pair.Ledgers first second →
    second.errorCount = first.errorCount ∧ second.reported.length = first.reported.length
  recount : ∀ {first second} count, pair.Ledgers first second →
    pair.Ledgers { first with errorCount := count } { second with errorCount := count }
  traced : ∀ {first second} event, pair.Ledgers first second →
    pair.Ledgers { first with trace := first.trace.push event }
      { second with trace := second.trace.push (moved pair.shift event) }

section Steps

variable {α β : Type} [Movable α] [Movable β] {pair : Pairing}

theorem synchronize_moved (recovers : pair.Recovers) {start failedAt limit : Nat}
    (within : pair.passage.Within limit) :
    synchronize pair.trail (start + pair.offset) (failedAt + pair.offset)
        (limit + pair.offset) =
      moved pair.shift (synchronize pair.lead start failedAt limit) := by
  have first : max (failedAt + pair.offset) (start + pair.offset + 1) =
      max failedAt (start + 1) + pair.offset := by omega
  unfold synchronize
  simp only [first, Nat.add_le_add_iff_right, Nat.add_sub_add_right]
  split
  · rfl
  · exact Passage.synchronizeFrom_moved recovers.lines (by omega) (within.mono (by omega))

/-- Reading the state: what follows depends on no more than what was counted, reported and
traced. -/
theorem Tracks.read (recovers : pair.Recovers) {leadNext trailNext : State → Engine β}
    {Q : β → Prop}
    (next : ∀ state other, pair.Ledgers state.ledger other.ledger →
      pair.Tracks (leadNext state) (trailNext other) Q) :
    pair.Tracks (get >>= leadNext) (get >>= trailNext) Q := by
  refine ⟨fun state gaveUp => ?_, fun leadBase trailBase before other allows linked => ?_⟩
  · exact (next state state (recovers.itself gaveUp.1 _)).givesUp state gaveUp
  · exact (next before other linked.ledgers).alike leadBase trailBase before other allows linked

/-- A change of the state that concerns the ledger only. -/
structure Writes (change : State → State) : Prop where
  memo : ∀ state, (change state).memo = state.memo
  noted : ∀ state, (change state).noted = state.noted
  felt : ∀ state, (change state).limitFelt = state.limitFelt
  nesting : ∀ state, (change state).nesting = state.nesting

theorem Tracks.write {leadChange trailChange : State → State} (leadWrites : Writes leadChange)
    (trailWrites : Writes trailChange)
    (alike : ∀ state other, pair.Ledgers state.ledger other.ledger →
      pair.Ledgers (leadChange state).ledger (trailChange other).ledger) :
    pair.Tracks (modify leadChange) (modify trailChange) fun _ => True := by
  refine ⟨fun state gaveUp => ⟨gaveUp.1, (leadWrites.felt state).trans gaveUp.2⟩,
    fun leadBase trailBase before other _ linked => .inr ⟨rfl, fun _ => trivial, ?_⟩⟩
  refine ⟨⟨⟨?_, alike _ _ linked.ledgers⟩, ?_, ?_⟩, ?_, ?_⟩
  · rw [leadWrites.memo, trailWrites.memo]
    exact linked.memos
  · exact (leadWrites.nesting before).trans linked.leadNesting
  · exact (trailWrites.nesting other).trans linked.trailNesting
  · rw [leadWrites.noted, trailWrites.noted]
    exact linked.noted
  · rw [leadWrites.felt, trailWrites.felt]
    exact linked.felt

theorem tracks_record (recovers : pair.Recovers) (event : Event) :
    pair.Tracks (record event) (record (moved pair.shift event)) fun _ => True :=
  Tracks.write ⟨fun _ => rfl, fun _ => rfl, fun _ => rfl, fun _ => rfl⟩
    ⟨fun _ => rfl, fun _ => rfl, fun _ => rfl, fun _ => rfl⟩
    fun _ _ ledgers => recovers.traced event ledgers

theorem tracks_count (recovers : pair.Recovers) (count : Nat) :
    pair.Tracks (modify fun state => { state with errorCount := count })
      (modify fun state => { state with errorCount := count }) fun _ => True :=
  Tracks.write ⟨fun _ => rfl, fun _ => rfl, fun _ => rfl, fun _ => rfl⟩
    ⟨fun _ => rfl, fun _ => rfl, fun _ => rfl, fun _ => rfl⟩
    fun _ _ ledgers => recovers.recount count ledgers

theorem Linked.watching {leadBase trailBase : Background} {before other : State}
    (linked : pair.Linked leadBase trailBase before other) :
    pair.Linked { leadBase with noted := [] } { trailBase with noted := [] }
      { before with noted := [] } { other with noted := [] } :=
  ⟨⟨⟨linked.memos, linked.ledgers⟩, linked.leadNesting, linked.trailNesting⟩, ⟨[], rfl, rfl⟩,
    linked.felt⟩

theorem Linked.resumed {leadBase trailBase : Background} {before other after last : State}
    (linked : pair.Linked leadBase trailBase before other)
    (ended : pair.Linked { leadBase with noted := [] } { trailBase with noted := [] } after last) :
    pair.Linked leadBase trailBase { after with noted := before.noted }
      { last with noted := other.noted } :=
  ⟨⟨⟨ended.memos, ended.ledgers⟩, ended.leadNesting, ended.trailNesting⟩, linked.noted,
    ended.felt⟩

theorem tracks_watched {lead trail : Attempt (Match α)} {P : Match α → Prop}
    (follows : pair.Follows lead trail P) :
    pair.Tracks (watched lead) (watched trail) fun result => OnMatch P result.1 := by
  refine ⟨fun state gaveUp => ?_, fun leadBase trailBase before other allows linked => ?_⟩
  · have run := follows.givesUp { state with noted := [] } gaveUp
    cases result : lead.run { state with noted := [] } with
    | error fault after =>
        rw [result] at run
        rw [watched_fault result]
        exact run
    | ok outcome after =>
        rw [result] at run
        rw [watched_ok result]
        exact run
  · have run := follows.alike { leadBase with noted := [] } { trailBase with noted := [] } _ _
      allows linked.watching
    cases leadRun : lead.run { before with noted := [] } with
    | error fault after =>
        rw [leadRun] at run
        rw [watched_fault leadRun]
        refine run.imp id fun alike => ?_
        obtain ⟨last, trailRun, returned⟩ := alike.broken
        rw [watched_fault trailRun]
        exact ⟨rfl, ⟨returned.memos, returned.ledgers⟩, returned.leadNesting,
          returned.trailNesting⟩
    | ok outcome after =>
        rw [leadRun] at run
        rw [watched_ok leadRun]
        refine run.imp id fun alike => ?_
        obtain ⟨last, trailRun, post, ended⟩ := alike.answered
        rw [watched_ok trailRun, ended.superseded]
        exact ⟨rfl, post, linked.resumed ended⟩

/-- What is known of an item that stands inside a stream: a match takes a token, and the
failure that is recorded was noticed in the stream. -/
def Heeds (index : Nat) (description : String) : Outcome α × Option Diagnostic → Prop
  | (.ok found, _) => index < found.stop
  | (.error failure, superseded) =>
      0 ≤ (itemFailure index description failure superseded).depth

theorem tracks_item {lead trail : Attempt (Match α)} {P : Match α → Prop} {index : Nat}
    (description : String) (follows : pair.Follows lead trail P)
    (confined : pair.passage.Partial → index ≤ pair.lead.stream.lastIndex ∧
      Confined pair.lead.stream index lead (SpansKept pair.lead.stream index)) :
    pair.Tracks (watched lead) (watched trail)
      fun result => pair.passage.Partial → Heeds index description result := by
  refine (tracks_watched follows).strengthen fun _ before other result after akin run _ part => ?_
  obtain ⟨inside, confined⟩ := confined part
  have orderly : Orderly pair.lead.stream before.memo := (pair.partly part).2.2 _ _ akin.memos
  cases ran : lead.run { before with noted := [] } with
  | error fault between =>
      rw [watched_fault ran] at run
      cases run
  | ok outcome between =>
      rw [watched_ok ran] at run
      cases run
      obtain ⟨effect, answers⟩ := confined.ran ran orderly
      cases outcome with
      | ok found =>
          have spans : SpansKept pair.lead.stream index found := answers
          exact spans.lt
      | error failure =>
          have recorded : Parser.Within pair.lead.stream index
              (itemFailure index description failure between.superseded) :=
            itemFailure_within inside answers (effect.noted_within rfl)
          exact Int.le_trans (Int.natCast_nonneg index) recorded.depth_ge

end Steps

/-- The recovery loops of the two runs, up to a limit in the passage.  In a part of a stream
the items go in lockstep before that limit. -/
def LoopsFollow (pair : Pairing) : Prop :=
  ∀ {α : Type} [Movable α] {item otherItem : Nat → Attempt (Match α)} {description : String}
    {start limit fuel other : Nat},
    pair.passage.Within limit → limit ≤ pair.lead.stream.lastIndex →
    (∀ index, index ≤ pair.lead.stream.lastIndex →
      Confined pair.lead.stream index (item index) (SpansKept pair.lead.stream index)) →
    (∀ index, (pair.passage.Partial → start ≤ index ∧ index < limit) →
      pair.Follows (item index) (otherItem (index + pair.offset)) fun _ => True) →
    pair.passage.Fuelled fuel other →
    pair.Tracks (itemsFrom pair.lead item description limit fuel start)
      (itemsFrom pair.trail otherItem description (limit + pair.offset) other
        (start + pair.offset)) fun _ => True

section Loop

variable {pair : Pairing}

/-- The depth of a failure that was noticed in the stream, moved along. -/
theorem toNat_depth_moved {failure : Diagnostic}
    (deep : pair.passage.Partial → 0 ≤ failure.depth) :
    (moved pair.shift failure).depth.toNat = failure.depth.toNat + pair.offset := by
  rw [Diagnostic.depth_moved]
  change (failure.depth + (pair.passage.offset : Int)).toNat = _ + pair.passage.offset
  by_cases part : pair.passage.Partial
  · have := deep part
    omega
  · rw [Passage.unmoved part]
    simp

theorem limitReached_moved (recovers : pair.Recovers) {state other : State}
    (ledgers : pair.Ledgers state.ledger other.ledger) :
    limitReached pair.trail other = limitReached pair.lead state := by
  obtain ⟨count, reported⟩ := recovers.counted ledgers
  have count : other.errorCount = state.errorCount := count
  have reported : other.reported.length = state.reported.length := reported
  have maxErrors : pair.trail.options.maxErrors = pair.lead.options.maxErrors :=
    recovers.maxErrors
  unfold limitReached
  rw [maxErrors, count, reported]

theorem Recovers.loops (recovers : pair.Recovers) : pair.LoopsFollow := by
  intro α _ item otherItem description start limit fuel other within inside confined items fuelled
  suffices rounds : ∀ index, (pair.passage.Partial → start ≤ index) →
      pair.Tracks (itemsFrom pair.lead item description limit fuel index)
        (itemsFrom pair.trail otherItem description (limit + pair.offset) other
          (index + pair.offset)) fun _ => True from
    rounds start fun _ => Nat.le_refl _
  induction fuel generalizing other with
  | zero =>
      intro index _
      rcases fuelled with rfl | ⟨part, -⟩
      · exact .abort
      · exact .spare (.inl (pair.partly part).2.1)
  | succ fuel induction =>
      intro index lower
      obtain ⟨smaller, rfl, further⟩ := fuelled.succ
      unfold itemsFrom
      refine Tracks.ite (Nat.add_le_add_iff_right) (fun _ => .pure rfl fun _ => trivial)
        fun more => Tracks.read recovers fun state other ledgers => ?_
      have count : other.errorCount = state.errorCount := (recovers.counted ledgers).1
      rw [limitReached_moved recovers ledgers, count]
      refine Tracks.ite Iff.rfl (fun _ => ?_) fun _ => ?_
      · exact Tracks.bind (tracks_record recovers (.limitReached index limit))
          fun _ _ => .pure rfl fun _ => trivial
      · have known : pair.passage.Partial → start ≤ index ∧ index < limit :=
          fun part => ⟨lower part, Nat.lt_of_not_le more⟩
        have indexInside : index ≤ pair.lead.stream.lastIndex := by omega
        refine Tracks.bind (tracks_item description (items index known)
          fun _ => ⟨indexInside, confined index indexInside⟩) fun result heeds => ?_
        obtain ⟨outcome, superseded⟩ := result
        cases outcome with
        | ok found =>
            have later : pair.passage.Partial → start ≤ found.stop := fun part =>
              Nat.le_trans (lower part) (Nat.le_of_lt (heeds (pair.partly part).1 part))
            dsimp only [moved]
            rw [List.length_map]
            refine Tracks.bind (tracks_count recovers _) fun _ _ => ?_
            refine Tracks.bind (induction further found.stop later) fun rest _ =>
              .pure ?_ fun _ => trivial
            exact keepItem_moved pair.shift found rest
        | error failure =>
            dsimp only [moved]
            refine Tracks.bind (tracks_count recovers _) fun _ _ => ?_
            have deep : pair.passage.Partial →
                0 ≤ (itemFailure index description failure superseded).depth :=
              fun part => heeds (pair.partly part).1 part
            have sameFailure : itemFailure (index + pair.offset) description
                (Diagnostic.moved pair.shift.offset failure)
                (superseded.map (Diagnostic.moved pair.shift.offset)) =
              moved pair.shift (itemFailure index description failure superseded) :=
              itemFailure_moved pair.shift index description failure superseded
            rw [sameFailure, toNat_depth_moved deep, synchronize_moved recovers within]
            generalize itemFailure index description failure superseded = recorded
            cases sync : synchronize pair.lead index recorded.depth.toNat limit with
            | error fault => exact .abort
            | ok resume =>
                have later : pair.passage.Partial → start ≤ resume := by
                  intro part
                  have ahead :=
                    (synchronize_bounds (Nat.lt_of_not_le more) inside sync).1
                  exact Nat.le_trans (lower part) (Nat.le_of_lt ahead)
                refine Tracks.bind (tracks_record recovers
                  (.recovered recorded.kind recorded.position index resume)) fun _ _ => ?_
                exact Tracks.bind (induction further resume later) fun rest _ =>
                  .pure rfl fun _ => trivial

end Loop

end Pairing

end MiniC.Parser
