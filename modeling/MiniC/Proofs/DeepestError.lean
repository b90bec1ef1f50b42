import MiniC.Proofs.BlockRecovery
import MiniC.Proofs.Forms
import MiniC.Proofs.Habit

/-!
# The deepest error of an item

A supervised run keeps every failure that a rule answers with.  While an item is
tried, whatever is met is no deeper than a failure that was noted or than the
failure that ends the item, and a block that was closed is no deeper than where it
ends.  So the error that is recorded for the item is as deep as the deepest failure
met on the way.
-/

namespace MiniC.Parser

/-- What was met between two states is no deeper than what was noted or than one of
the bounds `above`.  What was noted, and each of the depths `seen`, was met. -/
def Tallied (above seen : List Int) (before after : State) : Prop :=
  ∃ met noted, after.met = met ++ before.met ∧ after.noted = noted ++ before.noted ∧
    (∀ failure ∈ met, (∃ other ∈ noted, failure.depth ≤ other.depth) ∨
      ∃ bound ∈ above, failure.depth ≤ bound) ∧
    (∀ failure ∈ noted, ∃ other ∈ met, failure.depth ≤ other.depth) ∧
    ∀ depth ∈ seen, ∃ other ∈ met, depth ≤ other.depth

namespace Tallied

variable {above seen more further : List Int} {before between after : State}

theorem rest (state : State) : Tallied [] [] state state :=
  ⟨[], [], rfl, rfl, by simp, by simp, by simp⟩

theorem mono (tallied : Tallied above seen before after)
    (raised : ∀ bound ∈ above, ∃ other ∈ more, bound ≤ other)
    (lowered : ∀ depth ∈ further, ∃ other ∈ seen, depth ≤ other) :
    Tallied more further before after := by
  obtain ⟨met, noted, metEq, notedEq, upper, attained, reached⟩ := tallied
  refine ⟨met, noted, metEq, notedEq, ?_, attained, ?_⟩
  · intro failure member
    rcases upper failure member with known | ⟨bound, inAbove, le⟩
    · exact .inl known
    · obtain ⟨other, inMore, ge⟩ := raised bound inAbove
      exact .inr ⟨other, inMore, Int.le_trans le ge⟩
  · intro depth member
    obtain ⟨other, inSeen, le⟩ := lowered depth member
    obtain ⟨failure, inMet, ge⟩ := reached other inSeen
    exact ⟨failure, inMet, Int.le_trans le ge⟩

theorem unseen (tallied : Tallied above seen before after) : Tallied above [] before after :=
  tallied.mono (fun bound member => ⟨bound, member, Int.le_refl _⟩) (by simp)

theorem trans (first : Tallied above seen before between)
    (second : Tallied more further between after) :
    Tallied (above ++ more) (seen ++ further) before after := by
  obtain ⟨early, noted, metEq, notedEq, upper, attained, reached⟩ := first
  obtain ⟨late, lateNoted, lateEq, lateNotedEq, lateUpper, lateAttained, lateReached⟩ := second
  refine ⟨late ++ early, lateNoted ++ noted, by simp [lateEq, metEq],
    by simp [lateNotedEq, notedEq], ?_, ?_, ?_⟩
  · simp only [List.mem_append]
    rintro failure (there | here)
    · rcases lateUpper failure there with ⟨other, known, le⟩ | ⟨bound, known, le⟩
      · exact .inl ⟨other, .inl known, le⟩
      · exact .inr ⟨bound, .inr known, le⟩
    · rcases upper failure here with ⟨other, known, le⟩ | ⟨bound, known, le⟩
      · exact .inl ⟨other, .inr known, le⟩
      · exact .inr ⟨bound, .inl known, le⟩
  · simp only [List.mem_append]
    rintro failure (there | here)
    · obtain ⟨other, known, le⟩ := lateAttained failure there
      exact ⟨other, .inl known, le⟩
    · obtain ⟨other, known, le⟩ := attained failure here
      exact ⟨other, .inr known, le⟩
  · simp only [List.mem_append]
    rintro depth (here | there)
    · obtain ⟨other, known, le⟩ := reached depth here
      exact ⟨other, .inr known, le⟩
    · obtain ⟨other, known, le⟩ := lateReached depth there
      exact ⟨other, .inl known, le⟩

/-- Steps of which the first ends before the second fails or ends. -/
theorem within {first second : Int} (early : Tallied [first] seen before between)
    (late : Tallied [second] further between after) (ordered : first ≤ second) :
    Tallied [second] further before after := by
  apply (early.trans late).mono
  · simpa using ordered
  · intro depth member
    exact ⟨depth, List.mem_append.mpr (.inr member), Int.le_refl _⟩

theorem meet {failure : Diagnostic} (tallied : Tallied [failure.depth] seen before after) :
    Tallied [failure.depth] [failure.depth] before
      { after with met := failure :: after.met } := by
  obtain ⟨met, noted, metEq, notedEq, upper, attained, -⟩ := tallied
  refine ⟨failure :: met, noted, by simp [metEq], notedEq, ?_, ?_, ?_⟩
  · intro other member
    rcases List.mem_cons.mp member with rfl | earlier
    · exact .inr ⟨_, List.mem_singleton_self _, Int.le_refl _⟩
    · exact upper other earlier
  · intro other member
    obtain ⟨known, inMet, le⟩ := attained other member
    exact ⟨known, List.mem_cons_of_mem _ inMet, le⟩
  · intro depth member
    exact ⟨failure, List.mem_cons_self .., Int.le_of_eq (List.mem_singleton.mp member)⟩

/-- A failure that was met is noted, and then it bounds nothing any more. -/
theorem note {failure : Diagnostic}
    (tallied : Tallied (failure.depth :: above) (failure.depth :: seen) before after) :
    Tallied above [] before { after with noted := failure :: after.noted } := by
  obtain ⟨met, noted, metEq, notedEq, upper, attained, reached⟩ := tallied
  refine ⟨met, failure :: noted, metEq, by simp [notedEq], ?_, ?_, by simp⟩
  · intro other member
    rcases upper other member with ⟨known, inNoted, le⟩ | ⟨bound, inAbove, le⟩
    · exact .inl ⟨known, List.mem_cons_of_mem _ inNoted, le⟩
    · rcases List.mem_cons.mp inAbove with rfl | higher
      · exact .inl ⟨failure, List.mem_cons_self .., le⟩
      · exact .inr ⟨bound, higher, le⟩
  · intro other member
    rcases List.mem_cons.mp member with rfl | earlier
    · exact reached _ (List.mem_cons_self ..)
    · exact attained other earlier

end Tallied

/-- The deepest of failures is as deep as each of them and is one of them in depth. -/
theorem deepestNoted_greatest {noted : List Diagnostic} {deepest : Diagnostic}
    (found : deepestNoted noted = some deepest) :
    (∀ failure ∈ noted, failure.depth ≤ deepest.depth) ∧
      ∃ failure ∈ noted, deepest.depth = failure.depth := by
  induction noted generalizing deepest with
  | nil => cases found
  | cons latest earlier induction =>
      rw [deepestNoted] at found
      cases known : deepestNoted earlier with
      | none =>
          have empty : earlier = [] := by
            cases earlier with
            | nil => rfl
            | cons other others => simp [deepestNoted] at known
          simp only [known, Option.some.injEq] at found
          subst empty found
          simp
      | some deeper =>
          obtain ⟨upper, failure, member, same⟩ := induction known
          simp only [known, Option.some.injEq] at found
          subst found
          rw [depth_deepest]
          constructor
          · intro other isKnown
            rcases List.mem_cons.mp isKnown with rfl | before
            · exact Int.le_max_right _ _
            · exact Int.le_trans (upper other before) (Int.le_max_left _ _)
          · rcases Int.le_total deeper.depth latest.depth with le | le
            · exact ⟨latest, List.mem_cons_self .., Int.max_eq_right le⟩
            · exact ⟨failure, List.mem_cons_of_mem _ member, (Int.max_eq_left le).trans same⟩

theorem deepestNoted_eq_none {noted : List Diagnostic} :
    deepestNoted noted = none ↔ noted = [] := by
  cases noted <;> simp [deepestNoted]

/-- What a computation noted on its own is noted by its deepest failure. -/
theorem Tallied.isolated {above seen : List Int} {before between after : State}
    (tallied : Tallied above seen before between) (nothing : before.noted = [])
    {state : State} (sameMet : before.met = state.met) (afterMet : after.met = between.met)
    (afterNoted : after.noted = between.superseded.toList ++ state.noted) :
    Tallied above seen state after := by
  obtain ⟨met, noted, metEq, notedEq, upper, attained, reached⟩ := tallied
  have allNoted : between.noted = noted := by simpa [nothing] using notedEq
  refine ⟨met, between.superseded.toList, by rw [afterMet, metEq, sameMet], afterNoted, ?_, ?_,
    reached⟩
  · intro failure member
    rcases upper failure member with ⟨other, inNoted, le⟩ | bounded
    · cases found : between.superseded with
      | none =>
          have none : between.noted = [] := deepestNoted_eq_none.mp found
          rw [← allNoted, none] at inNoted
          cases inNoted
      | some deepest =>
          have greatest := (deepestNoted_greatest found).1 other (allNoted ▸ inNoted)
          exact .inl ⟨deepest, by simp, Int.le_trans le greatest⟩
    · exact .inr bounded
  · intro failure member
    obtain ⟨other, inNoted, same⟩ := (deepestNoted_greatest (Option.mem_toList.mp member)).2
    obtain ⟨known, inMet, le⟩ := attained other (allNoted ▸ inNoted)
    exact ⟨known, inMet, by omega⟩

/-- The depths of a failure, if there is one. -/
def depths (failure : Option Diagnostic) : List Int :=
  (failure.map Diagnostic.depth).toList

/-- A failure that does not come from the nesting limit, or none. -/
def Harmless (failure : Option Diagnostic) : Prop :=
  ∀ known, failure = some known → known.kind ≠ .nestingTooDeep

theorem meeting_supervised {input : Input} (supervised : input.supervised = true)
    (failures : List Diagnostic) (state : State) :
    state.meeting input failures = { state with met := failures ++ state.met } := by
  simp [State.meeting, supervised]

theorem Harmless.none : Harmless none :=
  fun _ same => by cases same

theorem Harmless.some {failure : Diagnostic} (mild : failure.kind ≠ .nestingTooDeep) :
    Harmless (some failure) :=
  fun _ same => by cases same; exact mild

theorem Tallied.alone (failure : Option Diagnostic) (state : State) :
    Tallied (depths failure) [] state state :=
  (Tallied.rest state).mono (by simp) (by simp)

theorem Tallied.deeper {first second : Diagnostic} {before between after : State}
    (early : Tallied (depths (some first)) (depths (some first)) before between)
    (late : Tallied (depths (some second)) (depths (some second)) between after) :
    Tallied (depths (some (first.deepest second))) (depths (some (first.deepest second)))
      before after := by
  apply (early.trans late).mono
  · intro bound member
    have known : bound = first.depth ∨ bound = second.depth := by simpa [depths] using member
    refine ⟨_, List.mem_singleton_self _, ?_⟩
    rw [depth_deepest]
    omega
  · simp [depths, depth_deepest]
    omega

theorem Tallied.supervised {input : Input} (supervised : input.supervised = true)
    {failure : Option Diagnostic} {before after : State}
    (tallied : Tallied (depths failure) [] before after) :
    Tallied (depths failure) (depths failure) before (after.meeting input failure.toList) := by
  rw [meeting_supervised supervised]
  cases failure with
  | none => exact tallied
  | some failure => exact tallied.meet

theorem Tallied.recalled {input : Input} (supervised : input.supervised = true)
    (failure superseded : Option Diagnostic) (before : State) :
    Tallied (depths failure) [] before
      (State.meeting input superseded.toList
        { before with noted := superseded.toList ++ before.noted }) := by
  rw [meeting_supervised supervised]
  cases superseded with
  | none => exact .alone failure before
  | some noted =>
      refine ⟨[noted], [noted], rfl, rfl, ?_, ?_, by simp⟩
      · exact fun other member => .inl ⟨other, member, Int.le_refl _⟩
      · exact fun other member => ⟨other, member, Int.le_refl _⟩

/-- Rules without blocks tally what they meet, unless the nesting limit ends them. -/
def tallying {input : Input} (supervised : input.supervised = true) : Habit input where
  Step before failure after := Harmless failure → Tallied (depths failure) [] before after
  Whole before failure after :=
    Harmless failure → Tallied (depths failure) (depths failure) before after
  rest state _ := .rest state
  step_of_whole whole harmless := (whole harmless).unseen
  fail {failure} state _ _ := .alone (some failure) state
  tooDeep _ deep harmless := absurd deep (harmless _ rfl)
  step_trans first second harmless := (first .none).trans (second harmless)
  beaten mild first second _ := ((first (.some mild)).trans (second .none)).note
  deepest firstMild secondMild first second _ :=
    (first (.some firstMild)).deeper (second (.some secondMild))
  dropped _ deep _ _ harmless := absurd deep (harmless _ rfl)
  guarded step harmless := step harmless
  supervised step harmless := (step harmless).supervised supervised
  recalled {before _ _ entry} _ _ :=
    .recalled supervised (failure? entry.outcome) entry.superseded before
  isolated _ step harmless := (step harmless).isolated rfl rfl rfl rfl

/-- What a step from an index tells about its tally.  A match bounds what was met by where
it ends, a failure by its depth, unless it comes from the nesting limit. -/
def Weighs {α : Type} (start : Nat) (reach : α → Nat) (seen : Diagnostic → List Int)
    (before after : State) : Except Diagnostic α → Prop
  | .ok value => start ≤ reach value ∧ Tallied [(reach value : Int)] [] before after
  | .error failure =>
      (start : Int) ≤ failure.depth ∧
        (failure.kind ≠ .nestingTooDeep →
          Tallied [failure.depth] (seen failure) before after)

/-- A step of a rule that tallies what it meets. -/
def Tallies {α : Type} (input : Input) (start : Nat) (attempt : Attempt α)
    (reach : α → Nat) : Prop :=
  ∀ before outcome after, Orderly input.stream before.memo →
    attempt.run before = .ok outcome after →
      Weighs start reach (fun _ => []) before after outcome

/-- A whole rule that tallies what it meets, its failure included. -/
def TalliesWhole {α : Type} (input : Input) (start : Nat) (rule : Attempt (Match α)) : Prop :=
  ∀ before outcome after, Orderly input.stream before.memo →
    rule.run before = .ok outcome after →
      Weighs start Match.stop (fun failure => [failure.depth]) before after outcome

section Tallies

variable {α β : Type} {input : Input} {start anchor : Nat}

theorem TalliesWhole.tallies {rule : Attempt (Match α)} (whole : TalliesWhole input start rule) :
    Tallies input start rule Match.stop := by
  intro before outcome after orderly run
  have weighed := whole before outcome after orderly run
  cases outcome with
  | ok found => exact weighed
  | error failure => exact ⟨weighed.1, fun mild => (weighed.2 mild).unseen⟩

theorem Tallies.of_keeps {attempt : Attempt α} {reach : α → Nat} {Ends : α → Prop}
    (supervised : input.supervised = true) (keeps : (tallying supervised).Keeps attempt)
    (confined : Confined input.stream start attempt Ends)
    (ahead : ∀ value, Ends value → start ≤ reach value) :
    Tallies input start attempt reach := by
  intro before outcome after orderly run
  obtain ⟨-, answers⟩ := confined.ran run orderly
  have tallied := keeps before outcome after run
  cases outcome with
  | ok value =>
    exact ⟨ahead value answers, (tallied nofun).mono (by simp [depths, failure?]) (by simp)⟩
  | error failure =>
      refine ⟨Within.depth_ge answers, fun mild => tallied ?_⟩
      rintro known ⟨⟩
      exact mild

theorem TalliesWhole.of_keeps {rule : Attempt (Match α)} {Ends : Match α → Prop}
    (supervised : input.supervised = true) (keeps : (tallying supervised).KeepsWhole rule)
    (confined : Confined input.stream start rule Ends)
    (ahead : ∀ found, Ends found → start ≤ found.stop) : TalliesWhole input start rule := by
  intro before outcome after orderly run
  obtain ⟨-, answers⟩ := confined.ran run orderly
  have tallied := keeps before outcome after run
  cases outcome with
  | ok found =>
      exact ⟨ahead found answers, (tallied nofun).mono (by simp [depths, failure?]) (by simp)⟩
  | error failure =>
      refine ⟨Within.depth_ge answers, fun mild => tallied ?_⟩
      rintro known ⟨⟩
      exact mild

theorem Tallies.pure {value : α} {reach : α → Nat} (ahead : start ≤ reach value) :
    Tallies input start (pure value) reach := by
  intro before outcome after _ run
  cases run
  exact ⟨ahead, (Tallied.rest before).mono (by simp) (by simp)⟩

theorem Tallies.throw {failure : Diagnostic} {reach : α → Nat}
    (ahead : (start : Int) ≤ failure.depth) :
    Tallies input start (throw failure : Attempt α) reach := by
  intro before outcome after _ run
  cases run
  exact ⟨ahead, fun _ => (Tallied.rest before).mono (by simp) (by simp)⟩

theorem TalliesWhole.wrap {rule : Attempt (Match α)} {build : Match α → Match β}
    (whole : TalliesWhole input start rule) (same : ∀ found, (build found).stop = found.stop) :
    TalliesWhole input start (rule >>= fun found => pure (build found)) := by
  intro before outcome after orderly run
  rcases bind_ok run with ⟨found, between, ran, rest⟩ | ⟨failure, failed, rfl⟩
  · cases rest
    have weighed := whole before _ after orderly ran
    change start ≤ (build found).stop ∧ Tallied [((build found).stop : Int)] [] before after
    rw [same]
    exact weighed
  · exact whole before _ after orderly failed

/-- What follows a step ends or fails no earlier than the step did. -/
theorem Tallies.bind {first : Attempt α} {next : α → Attempt β} {reach : α → Nat}
    {further : β → Nat} {Ends : α → Prop} (confined : Confined input.stream anchor first Ends)
    (tallies : Tallies input start first reach)
    (second : ∀ value, Ends value → Tallies input (reach value) (next value) further) :
    Tallies input start (first >>= next) further := by
  intro before outcome after orderly run
  rcases bind_ok run with ⟨value, between, ran, rest⟩ | ⟨failure, failed, rfl⟩
  · obtain ⟨effect, ends⟩ := confined.ran ran orderly
    obtain ⟨lower, early⟩ := tallies before _ between orderly ran
    have late := second value ends between outcome after effect.orderly rest
    cases outcome with
    | ok result =>
        exact ⟨Nat.le_trans lower late.1, early.within late.2 (Int.ofNat_le.mpr late.1)⟩
    | error failure =>
        have deeper : (reach value : Int) ≤ failure.depth := late.1
        exact ⟨by omega, fun mild => early.within (late.2 mild) deeper⟩
  · exact tallies before _ after orderly failed

theorem Tallies.from_later {attempt : Attempt α} {reach : α → Nat} (ordered : anchor ≤ start)
    (tallies : Tallies input start attempt reach) : Tallies input anchor attempt reach := by
  intro before outcome after orderly run
  have weighed := tallies before outcome after orderly run
  cases outcome with
  | ok value => exact ⟨Nat.le_trans ordered weighed.1, weighed.2⟩
  | error failure => exact ⟨Int.le_trans (Int.ofNat_le.mpr ordered) weighed.1, weighed.2⟩

theorem Tallies.ite {test : Prop} [Decidable test] {yes no : Attempt α} {reach : α → Nat}
    (ifYes : test → Tallies input start yes reach) (ifNo : Tallies input start no reach) :
    Tallies input start (if test then yes else no) reach := by
  split
  · exact ifYes ‹_›
  · exact ifNo

theorem TalliesWhole.supervise {rule : Attempt (Match α)} {index : Nat}
    (supervised : input.supervised = true) (tallies : Tallies input start rule Match.stop) :
    TalliesWhole input start (supervise input index rule) := by
  intro before outcome after orderly run
  obtain ⟨between, ran, rfl⟩ := supervise_ok run
  have weighed := tallies before outcome between orderly ran
  rw [meeting_supervised supervised]
  cases outcome with
  | ok found => exact weighed
  | error failure => exact ⟨weighed.1, fun mild => (weighed.2 mild).meet⟩

theorem Tallies.guarded {rule : Attempt (Match α)} (tallies : Tallies input start rule Match.stop) :
    Tallies input start (guarded input start rule) Match.stop := by
  intro before outcome after orderly run
  cases guarded_ok run with
  | refused => exact ⟨Int.le_refl _, fun mild => absurd rfl mild⟩
  | admitted _ ran =>
      have weighed := tallies before.entered outcome _ orderly ran
      cases outcome with
      | ok found => exact weighed
      | error failure => exact weighed

/-- The deepest failure stands for the alternatives that failed. -/
theorem weighs_search {best : Diagnostic} {others : List (Attempt (Match α))}
    {before between after : State} {outcome : Outcome α}
    (orderly : Orderly input.stream between.memo) (lower : (start : Int) ≤ best.depth)
    (failed : Tallied [best.depth] [best.depth] before between)
    (tally : ∀ other ∈ others, TalliesWhole input start other)
    (confined : ∀ other ∈ others, ∃ Ends, Confined input.stream start other Ends)
    (run : Choice.continueWith note best (others.map ExceptT.run) between = .ok outcome after) :
    Weighs start Match.stop (fun failure => [failure.depth]) before after outcome := by
  induction others generalizing best between with
  | nil =>
      cases run
      exact ⟨lower, fun _ => failed⟩
  | cons other others induction =>
      obtain ⟨answer, last, ran, ended⟩ := continueWith_ok run
      obtain ⟨Ends, otherConfined⟩ := confined other (List.mem_cons_self ..)
      obtain ⟨effect, -⟩ := otherConfined.ran ran orderly
      have weighed := tally other (List.mem_cons_self ..) between answer last orderly ran
      cases answer with
      | ok found =>
          obtain ⟨rfl, rfl⟩ := ended
          exact ⟨weighed.1, (failed.trans weighed.2).note⟩
      | error failure =>
          unfold Searched at ended
          dsimp only at ended
          split at ended
          · rename_i deep
            obtain ⟨rfl, rfl⟩ := ended
            exact ⟨weighed.1, fun mild => absurd deep mild⟩
          · rename_i mild
            have deeper : Tallied [(best.deepest failure).depth] [(best.deepest failure).depth]
                before last :=
              Tallied.deeper failed (weighed.2 mild)
            apply induction effect.orderly (Int.le_trans lower (le_deepest_left _ _)) deeper
            · exact fun other member => tally other (List.mem_cons_of_mem _ member)
            · exact fun other member => confined other (List.mem_cons_of_mem _ member)
            · exact ended

theorem TalliesWhole.firstOf {first : Attempt (Match α)} {others : List (Attempt (Match α))}
    (all : ∀ rule ∈ first :: others, TalliesWhole input start rule ∧
      ∃ Ends, Confined input.stream start rule Ends) :
    TalliesWhole input start (firstOf first others) := by
  intro before outcome after orderly run
  obtain ⟨firstTallies, Ends, firstConfined⟩ := all first (List.mem_cons_self ..)
  rcases firstOf_ok run with ⟨only, -⟩ | ⟨failure, between, failed, mild, searched⟩
  · exact firstTallies before outcome after orderly only
  · obtain ⟨effect, -⟩ := firstConfined.ran failed orderly
    have weighed := firstTallies before _ between orderly failed
    exact weighs_search effect.orderly weighed.1 (weighed.2 mild)
      (fun other member => (all other (List.mem_cons_of_mem _ member)).1)
      (fun other member => (all other (List.mem_cons_of_mem _ member)).2) searched

end Tallies

theorem depth_describeAt {start : Nat} {description : String} {failure : Diagnostic}
    (lower : (start : Int) ≤ failure.depth) :
    (describeAt start description failure).depth = failure.depth := by
  unfold describeAt
  split
  · rename_i shallow
    exact Int.le_antisymm lower shallow.1
  · rfl

theorem describeAt_mild {start : Nat} {description : String} {failure : Diagnostic}
    (mild : (describeAt start description failure).kind ≠ .nestingTooDeep) :
    failure.kind ≠ .nestingTooDeep := by
  unfold describeAt at mild
  split at mild
  · rename_i shallow
    exact shallow.2
  · exact mild

section Statements

variable {input : Input} {nested : Nested} {inner : Nat → Attempt (Match Statement)}
  {start : Nat}

theorem Tallies.describe {rule : Attempt (Match Statement)} {description : String}
    (whole : TalliesWhole input start rule) :
    Tallies input start
      (tryCatch rule fun failure => MonadExcept.throw (describeAt start description failure))
      Match.stop := by
  intro before outcome after orderly run
  obtain ⟨answer, ran, rfl⟩ := describe_ok run
  have weighed := whole.tallies before answer after orderly ran
  cases answer with
  | ok found => exact weighed
  | error failure =>
      have same : (describeAt start description failure).depth = failure.depth :=
        depth_describeAt weighed.1
      change (start : Int) ≤ _ ∧ (_ → Tallied [_] [] before after)
      rw [same]
      exact ⟨weighed.1, fun mild => weighed.2 (describeAt_mild mild)⟩

theorem expect_tallies (supervised : input.supervised = true) {word : Kind}
    (inside : start ≤ input.stream.lastIndex) :
    Tallies input start (expect input word start) id :=
  .of_keeps supervised (tallying supervised).expect (expect_confined (.refl inside))
    fun index ends => by simp [ends.1]

theorem block_tallies (supervised : input.supervised = true) (budget : Nat)
    (inside : start ≤ input.stream.lastIndex) :
    TalliesWhole input start (block input budget start) := by
  apply TalliesWhole.supervise supervised
  refine Tallies.bind (expect_confined (.refl inside)) (expect_tallies supervised inside) ?_
  rintro first ⟨rfl, opens⟩
  have before : start < input.stream.lastIndex :=
    TokenStream.lt_lastIndex_of_kindAt_eq opens (by decide)
  have items : Tallies input (start + 1)
      (liftM (blockItems input budget start) : Attempt (Match (List Statement))) Match.stop := by
    intro state outcome after orderly run
    obtain ⟨list, computed, rfl⟩ := lift_ok run
    have loop := blockItems_confined budget orderly opens
    rw [computed] at loop
    obtain ⟨effect, stopEq, -⟩ := loop
    obtain ⟨added, addedEq, within⟩ := effect.met
    refine ⟨?_, added, [], addedEq, effect.noted, ?_, by simp, by simp⟩
    · rw [stopEq]
      exact le_blockEnd before
    · intro failure member
      obtain ⟨place, lower, upper, isWithin⟩ := within failure member
      have placeEnd := bounded_inside before place lower (Nat.le_of_lt upper)
      have depthLe := isWithin.depth_le
      exact .inr ⟨_, List.mem_singleton_self _, by omega⟩
  refine Tallies.bind (.lift (items_steady (statement_confined input budget)
    (fun _ => declaration_confined budget) opens)) items ?_
  intro list _
  exact .ite (fun _ => .pure (Nat.le_succ _)) (.pure (Nat.le_refl _))

section Conditional

variable (supervised : input.supervised = true) (nestedConfined : NestedConfined input nested)
  (nestedKeeps : (tallying supervised).NestedKeeps nested)
  (innerConfined : StatementsConfined input inner)
  (innerTallies : ∀ start, start ≤ input.stream.lastIndex → TalliesWhole input start (inner start))
  (inside : start ≤ input.stream.lastIndex)

include nestedConfined nestedKeeps in
theorem condition_tallies (inside : start ≤ input.stream.lastIndex) :
    Tallies input start (condition input nested start) Match.stop := by
  apply TalliesWhole.tallies
  exact .of_keeps supervised (Habit.condition nestedKeeps)
    (condition_confined nestedConfined inside) fun found spans => Nat.le_of_lt spans.lt

include nestedConfined nestedKeeps innerConfined innerTallies inside

theorem ifStatement_tallies :
    TalliesWhole input start (ifStatement input nested inner start) := by
  apply TalliesWhole.supervise supervised
  refine Tallies.bind (expect_confined (.refl inside)) (expect_tallies supervised inside) ?_
  rintro afterWord ⟨rfl, word⟩
  have next := (Reaches.refl inside).next word rfl
  refine Tallies.bind (condition_confined nestedConfined next.inside)
    (condition_tallies supervised nestedConfined nestedKeeps next.inside) ?_
  intro test testSpans
  refine Tallies.bind (innerConfined test.stop testSpans.inside)
    (innerTallies test.stop testSpans.inside).tallies ?_
  intro thenBranch thenSpans
  refine .ite (fun alternative => ?_) (.pure (Nat.le_refl _))
  have elseInside : thenBranch.stop + 1 ≤ input.stream.lastIndex :=
    TokenStream.lt_lastIndex_of_kindAt_eq alternative (by decide)
  refine Tallies.bind (innerConfined _ elseInside)
    ((innerTallies _ elseInside).tallies.from_later (Nat.le_succ _)) ?_
  intro elseBranch _
  exact .pure (Nat.le_refl _)

theorem whileStatement_tallies :
    TalliesWhole input start (whileStatement input nested inner start) := by
  apply TalliesWhole.supervise supervised
  refine Tallies.bind (expect_confined (.refl inside)) (expect_tallies supervised inside) ?_
  rintro afterWord ⟨rfl, word⟩
  have next := (Reaches.refl inside).next word rfl
  refine Tallies.bind (condition_confined nestedConfined next.inside)
    (condition_tallies supervised nestedConfined nestedKeeps next.inside) ?_
  intro test testSpans
  refine Tallies.bind (innerConfined test.stop testSpans.inside)
    (innerTallies test.stop testSpans.inside).tallies ?_
  intro body _
  exact .pure (Nat.le_refl _)

end Conditional

theorem anyForm_tallies (supervised : input.supervised = true) (budget : Nat)
    (innerTallies : ∀ start, start ≤ input.stream.lastIndex →
      TalliesWhole input start (statement input budget start))
    (inside : start ≤ input.stream.lastIndex) :
    TalliesWhole input start
      (anyForm input (expression input budget) (statement input budget) (declaration input budget)
        start) := by
  have nestedConfined := expression_confined input budget
  have nestedKeeps := (tallying supervised).expression budget
  have innerConfined := statement_confined input budget
  have spansAhead : ∀ found : Match Statement, SpansKept input.stream start found →
      start ≤ found.stop := fun found spans => Nat.le_of_lt spans.lt
  have ifConfined := ifStatement_confined nestedConfined innerConfined inside
  have whileConfined := whileStatement_confined nestedConfined innerConfined inside
  have returnConfined := returnStatement_confined nestedConfined inside
  have expressionConfined := expressionStatement_confined nestedConfined inside
  have wordConfined : ∀ {word : Kind} {build : Option Span → Statement}, isInner word = true →
      Confined input.stream start (wordStatement input word build start)
        (SpansKept input.stream start) :=
    fun inner => wordStatement_confined inner inside
  have blockConfined : Confined input.stream start
      (block input budget start >>= fun found => pure (found.map Statement.compound))
      fun found => start ≤ found.stop :=
    (compound_confined innerConfined (fun _ => declaration_confined budget) inside).bind
      fun _ spans => .pure (Nat.le_of_lt spans.lt)
  have blockTallies : TalliesWhole input start
      (block input budget start >>= fun found => pure (found.map Statement.compound)) :=
    (block_tallies supervised budget inside).wrap fun _ => rfl
  apply TalliesWhole.firstOf
  simp only [List.mem_cons, List.not_mem_nil, or_false, forall_eq_or_imp, forall_eq]
  exact ⟨⟨ifStatement_tallies supervised nestedConfined nestedKeeps innerConfined innerTallies
      inside, _, ifConfined⟩,
    ⟨whileStatement_tallies supervised nestedConfined nestedKeeps innerConfined innerTallies
      inside, _, whileConfined⟩,
    ⟨.of_keeps supervised (Habit.returnStatement nestedKeeps) returnConfined spansAhead, _,
      returnConfined⟩,
    ⟨.of_keeps supervised (tallying supervised).wordStatement (wordConfined rfl) spansAhead, _,
      wordConfined rfl⟩,
    ⟨.of_keeps supervised (tallying supervised).wordStatement (wordConfined rfl) spansAhead, _,
      wordConfined rfl⟩,
    ⟨blockTallies, _, blockConfined⟩,
    ⟨.of_keeps supervised (tallying supervised).emptyStatement (emptyStatement_confined inside)
      spansAhead, _, emptyStatement_confined inside⟩,
    ⟨.of_keeps supervised (Habit.expressionStatement nestedKeeps) expressionConfined
      fun found ends => spansAhead found ends.1, _, expressionConfined⟩⟩

theorem statement_tallies (supervised : input.supervised = true) (budget : Nat) :
    ∀ start, start ≤ input.stream.lastIndex →
      TalliesWhole input start (statement input budget start) := by
  induction budget with
  | zero =>
      intro start inside
      apply TalliesWhole.supervise supervised
      exact .of_keeps supervised
        ((tallying supervised).guardedRule (tallying supervised).nestingTooDeep)
        (guarded_confined inside (tooDeep_confined inside) :
          Confined input.stream start _ (Spans input.stream start))
        fun found spans => Nat.le_of_lt spans.lt
  | succ budget induction =>
      intro start inside
      exact .supervise supervised
        (Tallies.describe (anyForm_tallies supervised budget induction inside)).guarded

theorem declaration_tallies (supervised : input.supervised = true) (budget : Nat)
    (inside : start ≤ input.stream.lastIndex) :
    TalliesWhole input start (declaration input budget start) :=
  .of_keeps supervised ((tallying supervised).declaration budget)
    (declaration_confined budget inside) fun _ ends => Nat.le_of_lt ends.1.lt

theorem functionDefinition_tallies (supervised : input.supervised = true) (budget : Nat)
    (inside : start ≤ input.stream.lastIndex) :
    TalliesWhole input start (functionDefinition input budget start) := by
  apply TalliesWhole.supervise supervised
  have typesTallies : TalliesWhole input start (specifiers input start) :=
    .of_keeps supervised (tallying supervised).specifiers (specifiers_confined inside)
      fun found spans => Nat.le_of_lt spans.lt
  refine Tallies.bind (specifiers_confined inside) typesTallies.tallies ?_
  intro types typesSpans
  -- a declarator that declares no function is refused where it starts, not where it ends
  have declaredTallies : Tallies input types.stop (declarator input budget types.stop)
      fun _ => types.stop :=
    .of_keeps supervised ((tallying supervised).declarator budget).keeps
      (declarator_confined input budget _ typesSpans.inside) fun _ _ => Nat.le_refl _
  refine Tallies.bind (declarator_confined input budget _ typesSpans.inside) declaredTallies ?_
  intro declared declaredSpans
  refine .ite (fun _ => ?_) ?_
  · refine Tallies.bind (compound_confined (statement_confined input budget)
      (fun _ => declaration_confined budget) declaredSpans.inside)
      ((block_tallies supervised budget declaredSpans.inside).tallies.from_later
        (Nat.le_of_lt declaredSpans.lt)) ?_
    intro body _
    exact .pure (Nat.le_refl _)
  · exact .throw (Int.le_refl _)

theorem unitItem_tallies (supervised : input.supervised = true)
    (inside : start ≤ input.stream.lastIndex) :
    TalliesWhole input start (unitItem input start) := by
  apply TalliesWhole.firstOf
  simp only [List.mem_cons, List.not_mem_nil, or_false, forall_eq_or_imp, forall_eq]
  exact ⟨⟨declaration_tallies supervised _ inside, _, declaration_confined _ inside⟩,
    functionDefinition_tallies supervised _ inside, _, functionDefinition_confined _ inside⟩

theorem blockItem_tallies (supervised : input.supervised = true) (budget : Nat)
    (inside : start ≤ input.stream.lastIndex) :
    TalliesWhole input start
      (blockItem (statement input budget) (declaration input budget) start) := by
  have declaredTallies : TalliesWhole input start
      (declaration input budget start >>= fun found => pure (found.map Statement.declaration)) :=
    (declaration_tallies supervised budget inside).wrap fun _ => rfl
  have declaredConfined : Confined input.stream start
      (declaration input budget start >>= fun found => pure (found.map Statement.declaration))
      fun _ => True :=
    (declaration_confined budget inside).bind fun _ _ => .pure trivial
  apply TalliesWhole.firstOf
  simp only [List.mem_cons, List.not_mem_nil, or_false, forall_eq_or_imp, forall_eq]
  exact ⟨⟨declaredTallies, _, declaredConfined⟩, statement_tallies supervised budget start inside,
    _, statement_confined input budget start inside⟩

end Statements

/-- The loops over items: that of the unit, and those of blocks at every nesting. -/
inductive Loop where
  | unit
  | block (budget : Nat)

namespace Loop

/-- What the items of a loop are. -/
def Node : Loop → Type
  | .unit => Declaration
  | .block _ => Statement

instance : (loop : Loop) → Movable loop.Node
  | .unit => inferInstanceAs (Movable Declaration)
  | .block _ => inferInstanceAs (Movable Statement)

/-- The item of a loop at an index. -/
def item (input : Input) : (loop : Loop) → (index : Nat) → Attempt (Match loop.Node)
  | .unit, index => unitItem input index
  | .block budget, index =>
      blockItem (statement input budget) (declaration input budget) index

/-- How an item of a loop is called. -/
def description : Loop → String
  | .unit => "declaration"
  | .block _ => "declaration or statement"

theorem item_confined (input : Input) (loop : Loop) {index : Nat}
    (inside : index ≤ input.stream.lastIndex) :
    Confined input.stream index (loop.item input index) (SpansKept input.stream index) := by
  cases loop with
  | unit => exact unitItem_confined inside
  | block budget => exact Parser.item_confined inside

theorem item_supervised {stream : TokenStream} {options : ParserOptions} {stack : Option Nat}
    {state after : State} (loop : Loop) {outcome : Outcome loop.Node} {index : Nat}
    (inside : index ≤ stream.lastIndex) (orderly : Orderly stream state.memo)
    (run : (loop.item { stream, options, stack } index).run state = .ok outcome after) :
    ∃ last, (loop.item { stream, options, stack, supervised := true } index).run
      { state with met := [] } = .ok outcome last ∧ last.noted = after.noted := by
  let pair := Pairing.sharing stream options options stack false true
    (fun first second => second = first) fun _ => True
  have uniform : pair.Uniform :=
    ⟨rfl, Passage.itself_whole stream, rfl, fun _ _ => Iff.rfl, fun _ => trivial⟩
  have grounds := uniform.grounds (Pairing.sharing_expressions _ _ _ _ _ _ _ nofun)
  have matched : ∀ budget, pair.Matched budget budget := fun _ => .inr ⟨rfl, rfl, rfl⟩
  have follows : pair.Follows (loop.item pair.lead index) (loop.item pair.trail index)
      fun _ => True := by
    cases loop with
    | unit => exact Pairing.follows_unitItem grounds (matched _) (uniform.within index)
    | block budget =>
        exact Pairing.follows_blockItem (Pairing.statements_follow grounds (matched budget))
          (Pairing.declarations_follow grounds (matched budget))
          (Passage.enclosed_of_partial fun part => absurd part uniform.whole)
  have memos : pair.Memos state.memo state.memo := by
    refine ⟨fun _ _ _ => rfl, fun _ stratum start entry found value same => ?_⟩
    have answers := (orderly stratum start entry found).answers
    rw [same] at answers
    exact ⟨answers.lt, answers.starts⟩
  have akin : pair.Akin { state with met := [] } state := ⟨memos, rfl⟩
  rcases follows.alike _ _ _ _ (.inr ⟨rfl, rfl, rfl⟩) akin.linked with lost | alike
  · have alone : Steady stream index (loop.item pair.lead index).run _ :=
      loop.item_confined pair.lead inside
    have ended := alone { state with met := [] } orderly
    cases leadRun : (loop.item pair.lead index).run { state with met := [] } with
    | ok answer last =>
        rw [leadRun] at lost
        exact nomatch lost.1
    | error fault last =>
        rw [leadRun] at lost ended
        rcases lost with (impossible | ⟨-, rfl⟩) | gaveUp
        · exact nomatch impossible
        · exact nomatch ended.1
        · exact nomatch gaveUp.1
  · change pair.Alike _ _ _ _ ((loop.item { stream, options, stack } index).run state) at alike
    rw [run] at alike
    obtain ⟨last, leadRun, linked⟩ := alike.ledSame rfl
    obtain ⟨added, leadEq, trailEq⟩ := linked.sameNoted rfl
    exact ⟨last, leadRun, leadEq.trans trailEq.symm⟩

theorem item_tallies {input : Input} (loop : Loop) (supervised : input.supervised = true)
    {index : Nat} (inside : index ≤ input.stream.lastIndex) :
    TalliesWhole input index (loop.item input index) := by
  cases loop with
  | unit => exact unitItem_tallies supervised inside
  | block budget => exact blockItem_tallies supervised budget inside

end Loop

/-- The error recorded for an item is as deep as its failure and the deepest failure noted. -/
theorem depth_itemFailure {index : Nat} {description : String} {failure : Diagnostic}
    {superseded : Option Diagnostic} (mild : failure.kind ≠ .nestingTooDeep)
    (lower : (index : Int) ≤ failure.depth) :
    (itemFailure index description failure superseded).depth =
      match superseded with
      | some other => max failure.depth other.depth
      | none => failure.depth := by
  unfold itemFailure
  cases superseded with
  | none => exact depth_describeAt lower
  | some other =>
      dsimp only
      rw [if_neg mild, depth_describeAt (Int.le_trans lower (le_deepest_left _ _)), depth_deepest]

theorem kind_deepest_of_le {first second : Diagnostic} (le : second.depth ≤ first.depth) :
    (first.deepest second).kind = first.kind := by
  unfold Diagnostic.deepest
  rw [if_neg (by omega)]
  split
  · rfl
  · exact kind_merge first second

/-- An error that goes no further than the start of its item names what was expected. -/
theorem itemFailure_at_start {index : Nat} {description : String} {failure : Diagnostic}
    {superseded : Option Diagnostic} (mild : failure.kind ≠ .nestingTooDeep)
    (lower : (index : Int) ≤ failure.depth)
    (shallow : (itemFailure index description failure superseded).depth = index) :
    itemFailure index description failure superseded =
      .missing index (.construct description) := by
  rw [depth_itemFailure mild lower] at shallow
  unfold itemFailure describeAt
  cases superseded with
  | none => exact if_pos ⟨Int.le_of_eq shallow, mild⟩
  | some other =>
      have shallow : max failure.depth other.depth = index := shallow
      have le : other.depth ≤ failure.depth := by omega
      dsimp only
      rw [if_neg mild]
      apply if_pos
      rw [depth_deepest, kind_deepest_of_le le]
      exact ⟨Int.le_of_eq shallow, mild⟩

/-- An error that stands for a list of failures: as deep as the deepest of them. -/
structure Deepest (failures : List Diagnostic) (recorded : Diagnostic) : Prop where
  upper : ∀ failure ∈ failures, failure.depth ≤ recorded.depth
  attained : ∃ failure ∈ failures, failure.depth = recorded.depth

/-- What the tally of an item that failed says about the error recorded for it. -/
theorem Tallied.deepest {index : Nat} {description : String} {failure : Diagnostic}
    {before after : State} (tallied : Tallied [failure.depth] [failure.depth] before after)
    (nothing : before.noted = [] ∧ before.met = []) (mild : failure.kind ≠ .nestingTooDeep)
    (lower : (index : Int) ≤ failure.depth) :
    Deepest after.met (itemFailure index description failure after.superseded) := by
  obtain ⟨met, noted, metEq, notedEq, upper, attained, reached⟩ := tallied
  rw [nothing.1, List.append_nil] at notedEq
  rw [nothing.2, List.append_nil] at metEq
  rw [metEq]
  have bounded : ∀ known ∈ met, known.depth ≤
      (itemFailure index description failure after.superseded).depth := by
    intro known member
    rw [depth_itemFailure mild lower]
    cases found : after.superseded with
    | none =>
        have none : noted = [] := by
          rw [← notedEq]
          exact deepestNoted_eq_none.mp found
        simpa [none] using upper known member
    | some deepest =>
        have greatest := (deepestNoted_greatest found).1
        rw [notedEq] at greatest
        rcases upper known member with ⟨other, inNoted, le⟩ | ⟨bound, isBound, le⟩
        · have := greatest other inNoted
          exact Int.le_trans (Int.le_trans le this) (Int.le_max_right _ _)
        · rw [List.mem_singleton.mp isBound] at le
          exact Int.le_trans le (Int.le_max_left _ _)
  refine ⟨bounded, ?_⟩
  have deep : ∃ known ∈ met,
      (itemFailure index description failure after.superseded).depth ≤ known.depth := by
    rw [depth_itemFailure mild lower]
    cases found : after.superseded with
    | none => exact reached _ (List.mem_singleton_self _)
    | some deepest =>
        obtain ⟨other, inNoted, same⟩ := (deepestNoted_greatest found).2
        rw [notedEq] at inNoted
        dsimp only
        rcases Int.le_total failure.depth deepest.depth with le | le
        · obtain ⟨known, inMet, ge⟩ := attained other inNoted
          exact ⟨known, inMet, by omega⟩
        · obtain ⟨known, inMet, ge⟩ := reached _ (List.mem_singleton_self _)
          exact ⟨known, inMet, by omega⟩
  obtain ⟨known, inMet, ge⟩ := deep
  exact ⟨known, inMet, Int.le_antisymm (bounded known inMet) ge⟩

/-- The deepest-error law.  When an item fails in a round of a loop, not because of the nesting
limit, the error recorded for it is as deep as the deepest failure that any rule answered
with while the item was tried, under supervision from the same state.  When none of them
went beyond the start, the error names what was expected there. -/
theorem recorded_deepest {stream : TokenStream} {options : ParserOptions} {stack : Option Nat}
    {state after : State} (loop : Loop) {limit fuel index : Nat} {failure : Diagnostic}
    (reachable : Reachable { stream, options, stack } state) (more : index < limit)
    (limitInside : limit ≤ stream.lastIndex)
    (below : limitReached { stream, options, stack } state = false)
    (failed : (loop.item { stream, options, stack } index).run { state with noted := [] } =
      .ok (.error failure) after)
    (mild : failure.kind ≠ .nestingTooDeep) :
    ∃ recorded resume next last,
      itemsFrom { stream, options, stack } (loop.item { stream, options, stack }) loop.description limit
          (fuel + 1) index state =
        mapValue (skipItem recorded)
          (itemsFrom { stream, options, stack } (loop.item { stream, options, stack }) loop.description limit
            fuel resume next) ∧
      (loop.item { stream, options, stack, supervised := true } index).run
          { state with noted := [], met := [] } = .ok (.error failure) last ∧
      Deepest last.met recorded ∧
      (recorded.depth = index → recorded = .missing index (.construct loop.description)) := by
  have inside : index ≤ stream.lastIndex := by omega
  have orderly : Orderly stream state.memo := reachable.orderly
  obtain ⟨last, watched, notedEq⟩ :=
    loop.item_supervised inside (show Orderly stream { state with noted := [] }.memo from orderly)
      failed
  have weighed := loop.item_tallies rfl inside _ _ last
    (show Orderly stream { state with noted := [], met := [] }.memo from orderly) watched
  have deepest : Deepest last.met
      (itemFailure index loop.description failure last.superseded) :=
    (weighed.2 mild).deepest ⟨rfl, rfl⟩ mild weighed.1
  have same : last.superseded = after.superseded := by
    unfold State.superseded
    rw [notedEq]
  rw [same] at deepest
  obtain ⟨resume, sync, -⟩ :
      ∃ resume, synchronize { stream, options, stack } index
        (itemFailure index loop.description failure after.superseded).depth.toNat limit =
          .ok resume ∧ _ :=
    synchronize_ok more limitInside
  exact ⟨_, resume, _, last,
    itemsFrom_skipped (Nat.not_le_of_lt more) below failed rfl sync, watched, deepest,
    itemFailure_at_start mild weighed.1⟩

/-- A conditional with an error in the block of its first branch, abandoned in the second. -/
def abandonedStream : TokenStream :=
  { tokens := #[
      { kind := .ifWord, lexeme := "if", line := 1 },
      { kind := .leftParen, lexeme := "(", line := 1 },
      { kind := .identifier, lexeme := "a", line := 1 },
      { kind := .rightParen, lexeme := ")", line := 1 },
      { kind := .leftBrace, lexeme := "\x7b", line := 1 },
      { kind := .identifier, lexeme := "b", line := 1 },
      { kind := .identifier, lexeme := "c", line := 1 },
      { kind := .semicolon, lexeme := ";", line := 1 },
      { kind := .rightBrace, lexeme := "\x7d", line := 1 },
      { kind := .elseWord, lexeme := "else", line := 1 },
      { kind := .rightParen, lexeme := ")", line := 1 },
      { kind := .endOfInput, lexeme := "", line := 1 }]
    terminated := rfl }

/-- Whether a run ended with a failure that does not come from the nesting limit. -/
def failedMildly {α : Type} : EStateM.Result Fault State (Outcome α) → Bool
  | .ok (.error failure) _ => decide (failure.kind ≠ .nestingTooDeep)
  | _ => false

/-- What is met in the block counts too, but the second branch fails further on. -/
theorem recorded_deepest_abandoned :
    ∃ recorded last failure,
      (Loop.item { stream := abandonedStream, options := {}, supervised := true } (.block 5) 0).run
        {} = .ok (.error failure) last ∧
      failure.kind ≠ .nestingTooDeep ∧ Deepest last.met recorded := by
  have fails : failedMildly
      ((Loop.item { stream := abandonedStream, options := {} } (.block 5) 0).run {}) = true := by
    decide +kernel
  cases run : (Loop.item { stream := abandonedStream, options := {} } (.block 5) 0).run {} with
  | error fault after =>
      rw [run] at fails
      cases fails
  | ok outcome after =>
      rw [run] at fails
      cases outcome with
      | ok found => cases fails
      | error failure =>
          have mild : failure.kind ≠ .nestingTooDeep := of_decide_eq_true fails
          have reachable : Reachable { stream := abandonedStream, options := {} } {} := .fresh rfl
          have inside : 11 ≤ abandonedStream.lastIndex := by decide
          have below : limitReached { stream := abandonedStream, options := {} } {} = false := by
            decide
          have law := @recorded_deepest abandonedStream {} none {} after (.block 5) 11 0 0 failure
            reachable (by decide) inside below run mild
          obtain ⟨recorded, -, -, last, -, watched, deepest, -⟩ := law
          exact ⟨recorded, last, failure, watched, mild, deepest⟩

end MiniC.Parser
