import MiniC.Diagnostic.Choice

/-!
# The search of an ordered choice

A choice calls its alternatives one after the other until one succeeds or nests too
deep.  The failures before it are folded into one: the earliest of the deepest failures,
with what later failures at the same place expected besides.  The fold is neither
commutative nor associative, so its closed form is carried from a list of failures to
the list with one more.
-/

namespace MiniC

namespace Diagnostic

/-- Whether a later failure adds what it expected: as deep as the winner, missing a token
at the same place, both without a message of their own. -/
structure Companion (winner later : Diagnostic) : Prop where
  depth : later.depth = winner.depth
  winnerMissing : winner.kind = .expectedToken
  winnerSilent : winner.ownMessage? = none
  laterMissing : later.kind = .expectedToken
  laterSilent : later.ownMessage? = none
  position : later.position = winner.position
  placement : later.placement = winner.placement

theorem companion_iff {winner later : Diagnostic} :
    winner.Companion later ↔ later.depth = winner.depth ∧ winner.joins later := by
  constructor
  · rintro ⟨depth, winnerMissing, winnerSilent, laterMissing, laterSilent, position, placement⟩
    simp [joins, *]
  · rintro ⟨depth, joined⟩
    simp only [joins, Bool.and_eq_true, decide_eq_true_eq, Option.isNone_iff_eq_none] at joined
    obtain ⟨⟨⟨⟨⟨winnerMissing, laterMissing⟩, position⟩, placement⟩, winnerSilent⟩,
      laterSilent⟩ := joined
    exact ⟨depth, winnerMissing, winnerSilent, laterMissing, laterSilent, position.symm,
      placement.symm⟩

instance (winner : Diagnostic) : DecidablePred winner.Companion :=
  fun _ => decidable_of_iff _ companion_iff.symm

/-- Entries with those of a later list that are not yet among them. -/
def gather (known later : List String) : List String :=
  known ++ later.filter fun item => item ∉ known

/-- What the winner expected, followed by what its companions expected besides. -/
def gathered (winner : Diagnostic) (after : List Diagnostic) : List String :=
  (after.filter fun later => winner.Companion later).foldl
    (fun known later => gather known later.expected) winner.expected

/-- The fold of failures, if there are any. -/
def digest : List Diagnostic → Option Diagnostic
  | [] => none
  | first :: others => some (others.foldl deepest first)

theorem digest_append {known : List Diagnostic} {best : Diagnostic}
    (folded : digest known = some best) (failure : Diagnostic) :
    digest (known ++ [failure]) = some (best.deepest failure) := by
  cases known with
  | nil => cases folded
  | cons first others =>
      cases folded
      simp [digest]

/-- The fold of `before ++ winner :: after`: the winner is the earliest of the deepest
failures and gives all but the entries, which its companions add to. -/
structure Condenses (before : List Diagnostic) (winner : Diagnostic) (after : List Diagnostic)
    (best : Diagnostic) : Prop where
  shallower : ∀ failure ∈ before, failure.depth < winner.depth
  notDeeper : ∀ failure ∈ after, failure.depth ≤ winner.depth
  depth : best.depth = winner.depth
  kind : best.kind = winner.kind
  position : best.position = winner.position
  placement : best.placement = winner.placement
  ownMessage : best.ownMessage? = winner.ownMessage?
  expected : best.expected = winner.gathered after

theorem nodup_gather {known later : List String} (knownOnce : known.Nodup)
    (laterOnce : later.Nodup) : (gather known later).Nodup := by
  apply List.nodup_append.mpr
  refine ⟨knownOnce, laterOnce.filter _, ?_⟩
  rintro item itemKnown _ itemAdded rfl
  simp only [List.mem_filter, decide_eq_true_eq] at itemAdded
  exact itemAdded.2 itemKnown

theorem nodup_gathered {winner : Diagnostic} {after : List Diagnostic}
    (winnerOnce : winner.expected.Nodup)
    (afterOnce : ∀ failure ∈ after, failure.expected.Nodup) :
    (winner.gathered after).Nodup := by
  apply List.foldlRecOn (motive := List.Nodup) _ _ winnerOnce
  intro known knownOnce later member
  exact nodup_gather knownOnce (afterOnce later (List.mem_filter.mp member).1)

section Step

variable {before after : List Diagnostic} {winner best failure : Diagnostic}

/-- Joining adds entries and changes nothing else, an empty message counting as none. -/
theorem merge_keeps (first second : Diagnostic) :
    (first.merge second).depth = first.depth ∧ (first.merge second).kind = first.kind ∧
      (first.merge second).position = first.position ∧
      (first.merge second).placement = first.placement ∧
      (first.merge second).ownMessage? = first.ownMessage? := by
  unfold merge merge?
  split
  · next joined =>
      split
      · simp
      · have silent : first.ownMessage? = none := by simp_all [joins]
        exact ⟨rfl, rfl, rfl, rfl, silent.symm⟩
  · simp

theorem expected_merge (first second : Diagnostic) :
    (first.merge second).expected =
      if first.joins second then gather first.expected second.expected else first.expected := by
  unfold merge merge? gather
  split
  · split
    · next nothing => simpa using nothing
    · next added => simp
  · simp

theorem Condenses.replaced (condensed : Condenses before winner after best)
    (deeper : winner.depth < failure.depth) :
    Condenses (before ++ winner :: after) failure [] (best.deepest failure) := by
  have taken : best.deepest failure = failure := by
    rw [deepest, if_pos (condensed.depth ▸ deeper)]
  rw [taken]
  refine ⟨?_, by simp, rfl, rfl, rfl, rfl, rfl, rfl⟩
  intro other member
  rcases List.mem_append.mp member with earlier | later
  · exact Int.lt_trans (condensed.shallower other earlier) deeper
  · rcases List.mem_cons.mp later with rfl | later
    · exact deeper
    · exact Int.lt_of_le_of_lt (condensed.notDeeper other later) deeper

theorem gathered_append (winner : Diagnostic) (after : List Diagnostic) (failure : Diagnostic) :
    winner.gathered (after ++ [failure]) =
      if winner.Companion failure then gather (winner.gathered after) failure.expected
      else winner.gathered after := by
  unfold gathered
  split <;> simp [*]

theorem Condenses.extended (condensed : Condenses before winner after best)
    (notDeeper : failure.depth ≤ winner.depth) :
    Condenses before winner (after ++ [failure]) (best.deepest failure) := by
  have all : ∀ other ∈ after ++ [failure], other.depth ≤ winner.depth := by
    intro other member
    rcases List.mem_append.mp member with earlier | last
    · exact condensed.notDeeper other earlier
    · exact List.mem_singleton.mp last ▸ notDeeper
  have sameDepth := condensed.depth
  rw [deepest, if_neg (by omega)]
  split
  · next shallower =>
      have apart : ¬winner.Companion failure := fun companion => by
        have := companion.depth
        omega
      exact { condensed with
        notDeeper := all
        expected := by rw [gathered_append, if_neg apart, condensed.expected] }
  · next notShallower =>
      obtain ⟨depth, kind, position, placement, ownMessage⟩ := merge_keeps best failure
      have joined : best.joins failure ↔ winner.Companion failure := by
        rw [companion_iff]
        simp only [joins, condensed.kind, condensed.position, condensed.placement,
          condensed.ownMessage]
        exact ⟨fun holds => ⟨by omega, holds⟩, fun holds => holds.2⟩
      exact {
        shallower := condensed.shallower
        notDeeper := all
        depth := depth.trans condensed.depth
        kind := kind.trans condensed.kind
        position := position.trans condensed.position
        placement := placement.trans condensed.placement
        ownMessage := ownMessage.trans condensed.ownMessage
        expected := by simp only [expected_merge, gathered_append, joined, condensed.expected] }

end Step

theorem Condenses.foldl {before after : List Diagnostic} {winner best : Diagnostic}
    (condensed : Condenses before winner after best) (others : List Diagnostic) :
    ∃ before' winner' after', before ++ winner :: after ++ others = before' ++ winner' :: after' ∧
      Condenses before' winner' after' (others.foldl deepest best) := by
  induction others generalizing before winner after best with
  | nil => exact ⟨before, winner, after, by simp, condensed⟩
  | cons failure others induction =>
      by_cases deeper : winner.depth < failure.depth
      · obtain ⟨before', winner', after', split, result⟩ := induction (condensed.replaced deeper)
        exact ⟨before', winner', after', by simpa using split, result⟩
      · obtain ⟨before', winner', after', split, result⟩ :=
          induction (condensed.extended (Int.not_lt.mp deeper))
        exact ⟨before', winner', after', by simpa using split, result⟩

/-- The fold of failures is the earliest of the deepest with its companions' entries. -/
theorem foldl_deepest_condenses (first : Diagnostic) (others : List Diagnostic) :
    ∃ before winner after, first :: others = before ++ winner :: after ∧
      Condenses before winner after (others.foldl deepest first) := by
  have alone : Condenses [] first [] first := by
    refine ⟨?_, ?_, rfl, rfl, rfl, rfl, rfl, rfl⟩ <;> simp
  simpa using alone.foldl others

end Diagnostic

namespace Choice

variable {ε σ α : Type}

/-- Computations run one after the other, each from the state that the one before left. -/
inductive Calls : List (EStateM ε σ α) → σ → List α → σ → Prop where
  | nil (state : σ) : Calls [] state [] state
  | cons {first : EStateM ε σ α} {others : List (EStateM ε σ α)} {state between after : σ}
      {outcome : α} {outcomes : List α} :
      first state = .ok outcome between →
      Calls others between outcomes after →
      Calls (first :: others) state (outcome :: outcomes) after

/-- How a search ends once the alternatives before `untried` have failed, `earlier` being
the fold of their failures.  Of the alternatives left at most one more is called. -/
inductive Concludes (note : Diagnostic → EStateM ε σ Unit) (earlier : Option Diagnostic) :
    List (EStateM ε σ (Except Diagnostic α)) → σ →
      EStateM.Result ε σ (Except Diagnostic α) → Prop where
  /-- None is left, and the fold of all failures is the answer. -/
  | exhausted {best : Diagnostic} {state : σ} :
      earlier = some best →
      Concludes note earlier [] state (.ok (.error best) state)
  /-- The very first alternative succeeds, and nothing is noted. -/
  | found {alternative : EStateM ε σ (Except Diagnostic α)} {untried state after}
      {result : α} :
      alternative state = .ok (.ok result) after →
      earlier = none →
      Concludes note earlier (alternative :: untried) state (.ok (.ok result) after)
  /-- A later alternative succeeds, and the fold of the failures before it is noted. -/
  | superseding {alternative : EStateM ε σ (Except Diagnostic α)} {untried state after}
      {result : α} {best : Diagnostic} :
      alternative state = .ok (.ok result) after →
      earlier = some best →
      Concludes note earlier (alternative :: untried) state
        ((note best).map (fun _ => .ok result) after)
  /-- An alternative nests too deep, and nothing is noted. -/
  | tooDeep {alternative : EStateM ε σ (Except Diagnostic α)} {untried state after}
      {failure : Diagnostic} :
      alternative state = .ok (.error failure) after →
      failure.kind = .nestingTooDeep →
      Concludes note earlier (alternative :: untried) state (.ok (.error failure) after)
  /-- An alternative breaks off. -/
  | broken {alternative : EStateM ε σ (Except Diagnostic α)} {untried state after} {fault : ε} :
      alternative state = .error fault after →
      Concludes note earlier (alternative :: untried) state (.error fault after)

/-- A search after some failures: it goes through alternatives that fail mildly, up to
the one that decides it. -/
def Searches (note : Diagnostic → EStateM ε σ Unit) (known : List Diagnostic)
    (alternatives : List (EStateM ε σ (Except Diagnostic α))) (state : σ)
    (result : EStateM.Result ε σ (Except Diagnostic α)) : Prop :=
  ∃ tried untried failures between,
    alternatives = tried ++ untried ∧
    Calls tried state (failures.map .error) between ∧
    (∀ failure ∈ failures, failure.kind ≠ .nestingTooDeep) ∧
    Concludes note (Diagnostic.digest (known ++ failures)) untried between result

section Search

variable {note : Diagnostic → EStateM ε σ Unit} {known : List Diagnostic}
  {alternative : EStateM ε σ (Except Diagnostic α)}
  {alternatives : List (EStateM ε σ (Except Diagnostic α))} {state between : σ}
  {result : EStateM.Result ε σ (Except Diagnostic α)}

theorem Concludes.searches
    (concluded : Concludes note (Diagnostic.digest known) alternatives state result) :
    Searches note known alternatives state result :=
  ⟨[], alternatives, [], state, rfl, .nil state, by simp, by simpa using concluded⟩

/-- An alternative that fails mildly is passed over, and its failure joins the known ones. -/
theorem Searches.past {failure : Diagnostic}
    (ran : alternative state = .ok (.error failure) between)
    (mild : failure.kind ≠ .nestingTooDeep)
    (searched : Searches note (known ++ [failure]) alternatives between result) :
    Searches note known (alternative :: alternatives) state result := by
  obtain ⟨tried, untried, failures, last, rfl, calls, allMild, concluded⟩ := searched
  refine ⟨alternative :: tried, untried, failure :: failures, last, rfl, .cons ran calls, ?_,
    by simpa using concluded⟩
  exact List.forall_mem_cons.mpr ⟨mild, allMild⟩

theorem continueWith_searches (note : Diagnostic → EStateM ε σ Unit) {best : Diagnostic}
    (folded : Diagnostic.digest known = some best)
    (alternatives : List (EStateM ε σ (Except Diagnostic α))) (state : σ) :
    Searches note known alternatives state (continueWith note best alternatives state) := by
  induction alternatives generalizing known best state with
  | nil => exact (Concludes.exhausted folded).searches
  | cons alternative rest induction =>
      change Searches _ _ _ _ (EStateM.bind alternative _ state)
      unfold EStateM.bind
      cases ran : alternative state with
      | error fault after => exact (Concludes.broken ran).searches
      | ok outcome after =>
          cases outcome with
          | ok found => exact (Concludes.superseding ran folded).searches
          | error failure =>
              by_cases deep : failure.kind = .nestingTooDeep
              · simp only [if_pos deep]
                exact (Concludes.tooDeep ran deep).searches
              · simp only [if_neg deep]
                exact .past ran deep (induction (Diagnostic.digest_append folded failure) after)

theorem firstOf_searches (note : Diagnostic → EStateM ε σ Unit)
    (first : EStateM ε σ (Except Diagnostic α))
    (others : List (EStateM ε σ (Except Diagnostic α))) (state : σ) :
    Searches note [] (first :: others) state (firstOf note first others state) := by
  change Searches _ _ _ _ (EStateM.bind first _ state)
  unfold EStateM.bind
  cases ran : first state with
  | error fault after => exact (Concludes.broken ran).searches
  | ok outcome after =>
      cases outcome with
      | ok found => exact (Concludes.found ran rfl).searches
      | error failure =>
          by_cases deep : failure.kind = .nestingTooDeep
          · simp only [if_pos deep]
            exact (Concludes.tooDeep ran deep).searches
          · simp only [if_neg deep]
            exact .past ran deep (continueWith_searches note rfl others after)

end Search

/-- A choice calls its alternatives up to the first that succeeds or nests too deep.  A
success after failures notes their fold once, and without a success the fold of all
failures is the answer.  The fold is the earliest of the deepest failures with what its
companions expected besides, each entry once if every failure has each once. -/
theorem firstOf_by_deepest_failure (note : Diagnostic → EStateM ε σ Unit)
    (first : EStateM ε σ (Except Diagnostic α))
    (others : List (EStateM ε σ (Except Diagnostic α))) (state : σ) :
    Searches note [] (first :: others) state (firstOf note first others state) ∧
      ∀ (failure : Diagnostic) (failures : List Diagnostic),
        (∃ before winner after, failure :: failures = before ++ winner :: after ∧
          Diagnostic.Condenses before winner after (failures.foldl .deepest failure)) ∧
        ((∀ one ∈ failure :: failures, one.expected.Nodup) →
          (failures.foldl .deepest failure).expected.Nodup) := by
  refine ⟨firstOf_searches note first others state, fun failure failures => ?_⟩
  obtain ⟨before, winner, after, split, condensed⟩ := Diagnostic.foldl_deepest_condenses failure failures
  refine ⟨⟨before, winner, after, split, condensed⟩, fun once => ?_⟩
  rw [condensed.expected]
  apply Diagnostic.nodup_gathered
  · exact once winner (split ▸ by simp)
  · intro later member
    exact once later (split ▸ by simp [member])

/-- Of four alternatives three are called, and the two failures are noted as one. -/
theorem firstOf_by_deepest_failure_logged :
    let note : Diagnostic → EStateM Unit (List String) Unit :=
      fun failure log => .ok () (log ++ failure.expected)
    let operand := Diagnostic.missing 3 (.construct "operand")
    let type := Diagnostic.missing 3 (.construct "type") [.construct "operand"]
    let first : EStateM Unit (List String) (Except Diagnostic Nat) :=
      fun log => .ok (.error operand) (log ++ ["first"])
    let second : EStateM Unit (List String) (Except Diagnostic Nat) :=
      fun log => .ok (.error type) (log ++ ["second"])
    let third : EStateM Unit (List String) (Except Diagnostic Nat) :=
      fun log => .ok (.ok 7) (log ++ ["third"])
    firstOf note first [second, third, first] [] =
        .ok (.ok 7) ["first", "second", "third", "operand", "type"] ∧
      Searches note [] [first, second, third, first] []
        (.ok (.ok 7) ["first", "second", "third", "operand", "type"]) ∧
      (operand.deepest type).expected.Nodup := by
  intro note operand type first second third
  have applied := firstOf_by_deepest_failure note first [second, third, first] []
  exact ⟨rfl, applied.1, (applied.2 operand [type]).2 (by decide)⟩

end Choice

end MiniC
