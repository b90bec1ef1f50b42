import MiniC.Proofs.ConfinedStatement

/-!
# The forms of a statement

The first token of a statement decides its form: at a word or a brace every
other form fails at once.  A conditional statement that fails is still tried as
an expression, which no conditional statement is.  So a statement that matched
did so in the form of its first token, with nothing done before.
-/

namespace MiniC.Parser

/-- The deeper of two failures is as deep as both. -/
theorem depth_deepest (first second : Diagnostic) :
    (first.deepest second).depth = max first.depth second.depth := by
  have merged : (first.merge second).depth = first.depth := by
    unfold Diagnostic.merge Diagnostic.merge?
    split
    · split <;> rfl
    · rfl
  unfold Diagnostic.deepest
  split
  · omega
  · split
    · omega
    · rw [merged]
      omega

theorem le_deepest_left (first second : Diagnostic) :
    first.depth ≤ (first.deepest second).depth := by
  rw [depth_deepest]
  exact Int.le_max_left _ _

theorem le_deepest_right (first second : Diagnostic) :
    second.depth ≤ (first.deepest second).depth := by
  rw [depth_deepest]
  exact Int.le_max_right _ _

section Choice

variable {α : Type} {input : Input} {start : Nat}

theorem refused {word : Kind} {next : Nat → Attempt (Match α)}
    (unsupervised : input.supervised = false) (different : input.kindAt start ≠ word) :
    supervise input start (expect input word start >>= next) =
      throw (.missing start (.kind word)) := by
  unfold supervise expect
  rw [if_neg (by simp [unsupervised]), if_neg different]
  rfl

theorem continueWith_refused {best : Diagnostic} {word : Kind}
    {rest : List (Attempt (Match α))} :
    Choice.continueWith note best
        (((throw (.missing start (.kind word)) : Attempt (Match α)) :: rest).map ExceptT.run) =
      Choice.continueWith note (best.deepest (.missing start (.kind word)))
        (rest.map ExceptT.run) :=
  rfl

theorem firstOf_refused {word : Kind} {rest : List (Attempt (Match α))} :
    firstOf (throw (.missing start (.kind word)) : Attempt (Match α)) rest =
      ExceptT.mk (Choice.continueWith note (.missing start (.kind word))
        (rest.map ExceptT.run)) :=
  rfl

end Choice

section Forms

variable {input : Input} {nested : Nested} {inner : Nat → Attempt (Match Statement)}
  {declarations : Nat → Attempt (Match Declaration)} {start : Nat}

/-- The deepest failure after alternatives that start with other words. -/
def passedOver (start : Nat) (words : List Kind) (best : Diagnostic) : Diagnostic :=
  words.foldl (fun best word => best.deepest (.missing start (.kind word))) best

theorem le_passedOver (start : Nat) (words : List Kind) (best : Diagnostic) :
    best.depth ≤ (passedOver start words best).depth := by
  induction words generalizing best with
  | nil => exact Int.le_refl _
  | cons word words induction =>
      exact Int.le_trans (le_deepest_left best _) (induction _)

/-- A conditional statement that failed is tried as an expression at last. -/
theorem continueWith_conditional {best : Diagnostic}
    (unsupervised : input.supervised = false)
    (conditional : input.kindAt start = .ifWord ∨ input.kindAt start = .whileWord) :
    Choice.continueWith note best
        ([returnStatement input nested start,
          wordStatement input .breakWord .breakLoop start,
          wordStatement input .continueWord .continueLoop start,
          (do
            let block ← compound input inner declarations start
            return block.map .compound),
          emptyStatement input start,
          expressionStatement input nested start].map ExceptT.run) =
      Choice.continueWith note
        (passedOver start [.returnWord, .breakWord, .continueWord, .leftBrace, .semicolon] best)
        ([expressionStatement input nested start].map ExceptT.run) := by
  have other : ∀ word, word ≠ .ifWord → word ≠ .whileWord → input.kindAt start ≠ word := by
    rintro word notIf notWhile rfl
    exact conditional.elim notIf notWhile
  have noReturn : returnStatement input nested start = throw (.missing start (.kind .returnWord)) :=
    refused unsupervised (other _ (by decide) (by decide))
  have noBreak : wordStatement input .breakWord .breakLoop start =
      throw (.missing start (.kind .breakWord)) :=
    refused unsupervised (other _ (by decide) (by decide))
  have noContinue : wordStatement input .continueWord .continueLoop start =
      throw (.missing start (.kind .continueWord)) :=
    refused unsupervised (other _ (by decide) (by decide))
  have noBlock : compound input inner declarations start =
      throw (.missing start (.kind .leftBrace)) :=
    refused unsupervised (other _ (by decide) (by decide))
  have noEmpty : emptyStatement input start = throw (.missing start (.kind .semicolon)) :=
    refused unsupervised (other _ (by decide) (by decide))
  rw [noReturn, noBreak, noContinue, noBlock, noEmpty]
  rfl

theorem anyForm_opened
    (unsupervised : input.supervised = false) (opens : input.kindAt start = .leftBrace) :
    anyForm input nested inner declarations start =
      ExceptT.mk (Choice.continueWith note
        (passedOver start [.whileWord, .returnWord, .breakWord, .continueWord]
          (.missing start (.kind .ifWord)))
        ([(do
            let block ← compound input inner declarations start
            return block.map .compound),
          emptyStatement input start,
          expressionStatement input nested start].map ExceptT.run)) := by
  have other : ∀ word, word ≠ .leftBrace → input.kindAt start ≠ word := by
    rintro word different rfl
    exact different opens
  have noIf : ifStatement input nested inner start = throw (.missing start (.kind .ifWord)) :=
    refused unsupervised (other _ (by decide))
  have noWhile : whileStatement input nested inner start =
      throw (.missing start (.kind .whileWord)) :=
    refused unsupervised (other _ (by decide))
  have noReturn : returnStatement input nested start = throw (.missing start (.kind .returnWord)) :=
    refused unsupervised (other _ (by decide))
  have noBreak : wordStatement input .breakWord .breakLoop start =
      throw (.missing start (.kind .breakWord)) :=
    refused unsupervised (other _ (by decide))
  have noContinue : wordStatement input .continueWord .continueLoop start =
      throw (.missing start (.kind .continueWord)) :=
    refused unsupervised (other _ (by decide))
  unfold anyForm
  rw [noIf, noWhile, noReturn, noBreak, noContinue]
  rfl

theorem compound_matches (opens : input.kindAt start = .leftBrace) {before after : State}
    {failure : Diagnostic}
    (run : (compound input inner declarations start).run before = .ok (.error failure) after) :
    False := by
  obtain ⟨between, ruleRun, -⟩ := supervise_ok run
  rcases bind_ok ruleRun with ⟨first, opened, -, rest⟩ | ⟨other, failed, -⟩
  · rcases bind_ok rest with ⟨list, final, -, ended⟩ | ⟨other, failed, -⟩
    · dsimp only at ended
      split at ended
      · cases ended
      · cases ended
    · obtain ⟨list, -, impossible⟩ := lift_ok failed
      cases impossible
  · obtain ⟨-, ⟨-, impossible⟩ | ⟨different, -⟩⟩ := expect_ok failed
    · cases impossible
    · exact different opens

/-- The forms of a statement that is neither conditional nor a block. -/
def simpleForm (input : Input) (nested : Nested) (start : Nat) : Attempt (Match Statement) :=
  firstOf (throw (.missing start (.kind .ifWord)))
    [throw (.missing start (.kind .whileWord)),
     returnStatement input nested start,
     wordStatement input .breakWord .breakLoop start,
     wordStatement input .continueWord .continueLoop start,
     throw (.missing start (.kind .leftBrace)),
     emptyStatement input start,
     expressionStatement input nested start]

theorem anyForm_simple (unsupervised : input.supervised = false)
    (notIf : input.kindAt start ≠ .ifWord) (notWhile : input.kindAt start ≠ .whileWord)
    (notOpen : input.kindAt start ≠ .leftBrace) :
    anyForm input nested inner declarations start = simpleForm input nested start := by
  have noIf : ifStatement input nested inner start = throw (.missing start (.kind .ifWord)) :=
    refused unsupervised notIf
  have noWhile : whileStatement input nested inner start =
      throw (.missing start (.kind .whileWord)) :=
    refused unsupervised notWhile
  have noBlock : compound input inner declarations start =
      throw (.missing start (.kind .leftBrace)) :=
    refused unsupervised notOpen
  unfold anyForm simpleForm
  rw [noIf, noWhile, noBlock]
  rfl

/-- How a statement matched: in the form of its first token. -/
inductive Formed (input : Input) (nested : Nested) (inner : Nat → Attempt (Match Statement))
    (declarations : Nat → Attempt (Match Declaration)) (start : Nat) (before : State) :
    Match Statement → State → Prop
  | ifForm {found : Match Statement} {after : State}
      (run : (ifStatement input nested inner start).run before = .ok (.ok found) after) :
      Formed input nested inner declarations start before found after
  | whileForm {found : Match Statement} {between : State} (beaten : Diagnostic)
      (run : (whileStatement input nested inner start).run before = .ok (.ok found) between) :
      Formed input nested inner declarations start before found
        { between with noted := beaten :: between.noted }
  | blockForm {block : Match Block} {between : State} (beaten : Diagnostic)
      (run : (compound input inner declarations start).run before = .ok (.ok block) between) :
      Formed input nested inner declarations start before (block.map .compound)
        { between with noted := beaten :: between.noted }
  | simpleForm {found : Match Statement} {after : State}
      (run : (simpleForm input nested start).run before = .ok (.ok found) after) :
      Formed input nested inner declarations start before found after

theorem conditional_refused (nestedConfined : NestedConfined input nested)
    (inside : start ≤ input.stream.lastIndex) (unsupervised : input.supervised = false)
    (conditional : input.kindAt start = .ifWord ∨ input.kindAt start = .whileWord)
    {best : Diagnostic} {before after : State} {found : Match Statement}
    (orderly : Orderly input.stream before.memo)
    (run : Choice.continueWith note best
        ([returnStatement input nested start,
          wordStatement input .breakWord .breakLoop start,
          wordStatement input .continueWord .continueLoop start,
          (do
            let block ← compound input inner declarations start
            return block.map .compound),
          emptyStatement input start,
          expressionStatement input nested start].map ExceptT.run) before =
      .ok (.ok found) after) : False := by
  rw [continueWith_conditional unsupervised conditional] at run
  obtain ⟨answer, between, ran, ended⟩ := continueWith_ok run
  cases answer with
  | ok known =>
      obtain ⟨-, ends⟩ :=
        (expressionStatement_confined nestedConfined inside).ran ran orderly
      have starts : startsExpression (input.kindAt start) = true := ends.2
      rcases conditional with word | word
      · rw [word] at starts
        cases starts
      · rw [word] at starts
        cases starts
  | error failure =>
      unfold Searched at ended
      dsimp only at ended
      split at ended
      · exact nomatch ended.1
      · cases ended

/-- A statement that matched did so in the form of its first token. -/
theorem anyForm_found (nestedConfined : NestedConfined input nested)
    (innerConfined : StatementsConfined input inner)
    (inside : start ≤ input.stream.lastIndex) (unsupervised : input.supervised = false)
    {before after : State} {found : Match Statement}
    (orderly : Orderly input.stream before.memo)
    (run : (anyForm input nested inner declarations start).run before = .ok (.ok found) after) :
    Formed input nested inner declarations start before found after := by
  by_cases isIf : input.kindAt start = .ifWord
  · rcases firstOf_ok run with ⟨only, -⟩ | ⟨failure, between, failed, -, searched⟩
    · exact .ifForm only
    · have notWhile : input.kindAt start ≠ .whileWord := by simp [isIf]
      have noWhile : whileStatement input nested inner start =
          throw (.missing start (.kind .whileWord)) := refused unsupervised notWhile
      rw [noWhile, continueWith_refused] at searched
      obtain ⟨effect, -⟩ :=
        (ifStatement_confined nestedConfined innerConfined inside).ran failed orderly
      exact (conditional_refused nestedConfined inside unsupervised (.inl isIf)
        effect.orderly searched).elim
  have noIf : ifStatement input nested inner start = throw (.missing start (.kind .ifWord)) :=
    refused unsupervised isIf
  by_cases isWhile : input.kindAt start = .whileWord
  · unfold anyForm at run
    rw [noIf, firstOf_refused] at run
    obtain ⟨answer, between, ran, ended⟩ := continueWith_ok run
    cases answer with
    | ok known =>
        obtain ⟨same, rfl⟩ := ended
        cases same
        exact .whileForm _ ran
    | error failure =>
        unfold Searched at ended
        dsimp only at ended
        split at ended
        · exact nomatch ended.1
        · obtain ⟨effect, -⟩ :=
            (whileStatement_confined nestedConfined innerConfined inside).ran ran orderly
          exact (conditional_refused nestedConfined inside unsupervised (.inr isWhile)
            effect.orderly ended).elim
  by_cases opens : input.kindAt start = .leftBrace
  · rw [anyForm_opened unsupervised opens] at run
    obtain ⟨answer, between, ran, ended⟩ := continueWith_ok run
    rcases bind_ok ran with ⟨block, middle, matched, rest⟩ | ⟨failure, failed, -⟩
    · cases rest
      obtain ⟨same, rfl⟩ := ended
      cases same
      exact .blockForm _ matched
    · exact (compound_matches opens failed).elim
  · rw [anyForm_simple unsupervised isIf isWhile opens] at run
    exact .simpleForm run

end Forms

end MiniC.Parser
