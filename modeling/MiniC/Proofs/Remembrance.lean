import MiniC.Proofs.Inversion

/-!
# What is remembered holds

A match that is remembered stands in for the run of its rule.  So a property of the
matches of expressions is carried along with the remembered matches: a step upholds
it if it remembers only matches that have it, given that those remembered before do.
-/

namespace MiniC.Parser

/-- All matches that are remembered are good. -/
def Recollects (Good : Stratum → Nat → Match Expr → Prop) (memo : Memo) : Prop :=
  ∀ stratum start entry, memo.find? stratum start = some entry →
    ∀ found, entry.outcome = .ok found → Good stratum start found

theorem recollects_empty (Good : Stratum → Nat → Match Expr → Prop) :
    Recollects Good .empty := by
  intro stratum start entry found
  simp at found

/-- A step of a rule that remembers good matches only, and whose matches have a property. -/
def Upholds {α : Type} (Good : Stratum → Nat → Match Expr → Prop) (attempt : Attempt α)
    (Post : α → Prop) : Prop :=
  ∀ before outcome after, Recollects Good before.memo → attempt.run before = .ok outcome after →
    Recollects Good after.memo ∧ ∀ value, outcome = .ok value → Post value

namespace Upholds

variable {α β : Type} {Good : Stratum → Nat → Match Expr → Prop} {attempt : Attempt α}
  {next : α → Attempt β} {P : α → Prop} {Q : β → Prop}

theorem pure {value : α} (post : P value) : Upholds Good (pure value : Attempt α) P := by
  intro before outcome after recollects run
  cases run
  refine ⟨recollects, fun found same => ?_⟩
  cases same
  exact post

theorem throw {failure : Diagnostic} : Upholds Good (throw failure : Attempt α) P := by
  intro before outcome after recollects run
  cases run
  exact ⟨recollects, nofun⟩

theorem abort {fault : Fault} : Upholds Good (liftM (abort fault : Engine α) : Attempt α) P := by
  intro before outcome after recollects run
  cases run

theorem bind (first : Upholds Good attempt P)
    (second : ∀ value, P value → Upholds Good (next value) Q) :
    Upholds Good (attempt >>= next) Q := by
  intro before outcome after recollects run
  rcases bind_ok run with ⟨value, between, ran, rest⟩ | ⟨failure, ran, rfl⟩
  · obtain ⟨kept, post⟩ := first before _ between recollects ran
    exact second value (post value rfl) between outcome after kept rest
  · exact ⟨(first before _ after recollects ran).1, nofun⟩

theorem mono {R : α → Prop} (upholds : Upholds Good attempt P)
    (weaker : ∀ value, P value → R value) : Upholds Good attempt R := by
  intro before outcome after recollects run
  obtain ⟨kept, post⟩ := upholds before outcome after recollects run
  exact ⟨kept, fun value same => weaker value (post value same)⟩

theorem ite {test : Prop} [Decidable test] {other : Attempt α}
    (yes : test → Upholds Good attempt P) (no : ¬ test → Upholds Good other P) :
    Upholds Good (if test then attempt else other) P := by
  split
  · exact yes ‹_›
  · exact no ‹_›

theorem tokenAt {input : Input} {index : Nat} :
    Upholds Good (liftM (tokenAt input index) : Attempt Token)
      fun token => input.stream.get? index = some token := by
  intro before outcome after recollects run
  obtain ⟨token, looked, rfl⟩ := lift_ok run
  obtain ⟨found, rfl⟩ := tokenAt_ok looked
  refine ⟨recollects, fun value same => ?_⟩
  cases same
  exact found

theorem expect {input : Input} {kind : Kind} {index : Nat} :
    Upholds Good (expect input kind index)
      fun stop => stop = index + 1 ∧ input.stream.kindAt index = kind :=
  ite (fun expected => .pure ⟨rfl, expected⟩) fun _ => .throw

theorem tooDeep {start levels : Nat} :
    Upholds Good (Parser.tooDeep start levels : Attempt α) P := by
  intro before outcome after recollects run
  cases run
  exact ⟨recollects, nofun⟩

theorem guarded {input : Input} {start : Nat} {rule : Attempt (Match α)}
    {Post : Match α → Prop} (upholds : Upholds Good rule Post) :
    Upholds Good (Parser.guarded input start rule) Post := by
  intro before outcome after recollects run
  cases guarded_ok run with
  | refused => exact ⟨recollects, nofun⟩
  | @admitted _ between _ ran =>
      have kept : Recollects Good between.memo ∧ _ :=
        upholds before.entered outcome between recollects ran
      exact kept

theorem describe {handle : Diagnostic → Diagnostic} (upholds : Upholds Good attempt P) :
    Upholds Good (tryCatch attempt fun failure => MonadExcept.throw (handle failure)) P := by
  intro before outcome after recollects run
  obtain ⟨answer, ran, rfl⟩ := describe_ok run
  obtain ⟨kept, post⟩ := upholds before answer after recollects ran
  refine ⟨kept, fun value same => post value ?_⟩
  cases answer with
  | error failure => cases same
  | ok known => exact same

theorem supervise {input : Input} {start : Nat} {rule : Attempt (Match α)}
    {Post : Match α → Prop} (upholds : Upholds Good rule Post) :
    Upholds Good (supervise input start rule) Post := by
  intro before outcome after recollects run
  obtain ⟨between, ran, rfl⟩ := supervise_ok run
  simpa using upholds before outcome between recollects ran

theorem search {best : Diagnostic} {others : List (Attempt (Match α))} {Post : Match α → Prop}
    {before after : State} {outcome : Outcome α}
    (upholds : ∀ other ∈ others, Upholds Good other Post) (recollects : Recollects Good before.memo)
    (run : Choice.continueWith note best (others.map ExceptT.run) before = .ok outcome after) :
    Recollects Good after.memo ∧ ∀ value, outcome = .ok value → Post value := by
  induction others generalizing best before with
  | nil =>
      cases run
      exact ⟨recollects, nofun⟩
  | cons other others induction =>
      obtain ⟨answer, between, ran, ended⟩ := continueWith_ok run
      obtain ⟨kept, post⟩ := upholds other (by simp) before answer between recollects ran
      cases answer with
      | ok found =>
          obtain ⟨rfl, rfl⟩ := ended
          exact ⟨kept, post⟩
      | error failure =>
          unfold Searched at ended
          dsimp only at ended
          split at ended
          · obtain ⟨rfl, rfl⟩ := ended
            exact ⟨kept, nofun⟩
          · exact induction (fun other member => upholds other (by simp [member])) kept ended

theorem firstOf {first : Attempt (Match α)} {others : List (Attempt (Match α))}
    {Post : Match α → Prop} (firstUpholds : Upholds Good first Post)
    (upholds : ∀ other ∈ others, Upholds Good other Post) :
    Upholds Good (firstOf first others) Post := by
  intro before outcome after recollects run
  rcases firstOf_ok run with ⟨only, -⟩ | ⟨failure, between, failed, -, searched⟩
  · exact firstUpholds before outcome after recollects only
  · exact search upholds (firstUpholds before _ between recollects failed).1 searched

theorem firstOf_pair {first second : Attempt (Match α)} {Post : Match α → Prop}
    (firstUpholds : Upholds Good first Post) (secondUpholds : Upholds Good second Post) :
    Upholds Good (Parser.firstOf first [second]) Post :=
  firstOf firstUpholds (by simpa using secondUpholds)

theorem remembered {input : Input} {stratum : Stratum} {start : Nat}
    {compute : Attempt (Match Expr)} (upholds : Upholds Good compute (Good stratum start)) :
    Upholds Good (remembered input stratum start compute) (Good stratum start) := by
  intro before outcome after recollects run
  rcases remembered_ok run with ⟨entry, recalled, rfl, rfl⟩ | ⟨between, -, ran, rfl⟩
  · refine ⟨by simpa using recollects, recollects stratum start entry ?_⟩
    unfold recalled? at recalled
    split at recalled
    · exact recalled
    · cases recalled
  · obtain ⟨kept, post⟩ :=
      upholds { before with noted := [], limitFelt := false } outcome between recollects ran
    refine ⟨?_, post⟩
    dsimp only
    split
    · exact kept
    · intro other place entry found
      rw [Memo.find?_insert] at found
      split at found
      · rename_i same
        obtain ⟨rfl, rfl⟩ := same
        cases found
        exact post
      · exact kept other place entry found

end Upholds

end MiniC.Parser
