import MiniC.Proofs.GenuineMemory
import MiniC.Proofs.OpenBrackets

/-!
# Declarators are resolved exactly

The end of a declarator is found by a scan forward, and its shape is peeled off from the
right by scans backward, which start over inside the groups.  The two scans cut the
tokens at the same places: what the forward scan passes is names and balanced groups, and
what is left of them after the last group is peeled off is names and balanced groups
again.  So a backward scan never fails, and a declarator is matched exactly where the
grammar has one that nothing continues.
-/

namespace MiniC.Parser

section Ranges

variable {stream : TokenStream} {start index stop : Nat}

/-- A range of names and balanced groups, from the left to the right. -/
inductive Groups (stream : TokenStream) (start : Nat) : Nat → Prop where
  | nil : Groups stream start start
  | name {index : Nat} :
      Groups stream start index → stream.kindAt index = .identifier →
      Groups stream start (index + 1)
  | group {opening closing : Nat} {bracket : Bracket} :
      Groups stream start opening → bracketRole (stream.kindAt opening) = .opens bracket →
      Balanced stream (opening + 1) closing →
      bracketRole (stream.kindAt closing) = .closes bracket →
      Groups stream start (closing + 1)

theorem Groups.le (groups : Groups stream start stop) : start ≤ stop := by
  induction groups with
  | nil => exact Nat.le_refl _
  | name _ _ induction => omega
  | group _ _ balanced _ induction =>
      have := balanced.le
      omega

/-- From names and groups on, the forward scan passes more of them and stops where nothing
continues a declarator. -/
theorem findEndFrom_groups {input : Input} {fuel : Nat} (groups : Groups input.stream start index)
    (ended : findEndFrom input fuel index = .ok (.ok stop)) :
    Groups input.stream start stop ∧ EndsDeclarator input.stream stop := by
  induction fuel generalizing index with
  | zero => cases ended
  | succ fuel induction =>
      cases findEndFrom_step ended with
      | name isName rest => exact induction (groups.name isName) rest
      | group opens matched rest =>
          have bracketed := (matchForward_eq_ok_iff opens).mp matched
          exact induction (groups.group opens bracketed.inner bracketed.closes) rest
      | ended notName notOpening found =>
          subst found
          have unopened : ∀ kind bracket, bracketRole kind = .opens bracket →
              input.stream.kindAt stop ≠ kind :=
            fun kind bracket opens same =>
              notOpening bracket ((congrArg bracketRole same).trans opens)
          exact ⟨groups, ⟨unopened _ _ rfl, unopened _ _ rfl⟩, notName⟩

theorem findEnd_groups {input : Input} (ended : findEnd input start = .ok (.ok stop)) :
    Groups input.stream start stop ∧ EndsDeclarator input.stream stop :=
  findEndFrom_groups .nil ended

/-- The backward scan from the last bracket of names and groups finds the bracket that opens
the last group, and names and groups stand before it. -/
theorem Groups.matchBackward {input : Input} {bracket : Bracket}
    (groups : Groups input.stream start stop) (nonempty : start < stop)
    (closes : bracketRole (input.stream.kindAt (stop - 1)) = .closes bracket) :
    ∃ opening, matchBackward input (stop - 1) start = .ok (.ok opening) ∧
      Groups input.stream start opening := by
  cases groups with
  | nil => exact absurd nonempty (Nat.lt_irrefl _)
  | name _ isName =>
      rw [Nat.add_sub_cancel, isName] at closes
      cases closes
  | @group opening closing _ base opens balanced groupCloses =>
      exact ⟨opening, matchBackward_eq base.le opens balanced groupCloses, base⟩

end Ranges

/-- A scan that breaks off the run where it would fail. -/
def Scanned.unfailing : Scanned → Scanned
  | .ok (.error _) => .error .unopenedBracket
  | other => other

section Checked

variable (scan : (close start : Nat) → Scanned) (input : Input)

/-- The shape of the declarator between two indices, with a given scan for its last group. -/
def shapeBy (resolver : Resolver) (nested : Nested) (start stop : Nat) :
    Attempt (Match Declarator) :=
  if stop ≤ start then
    throw (.failure .invalidDeclarator start)
  else do
    let span := covering start stop
    let last ← tokenAt input (stop - 1)
    match bracketRole last.kind with
    | .closes bracket =>
        let opening ← (scan (stop - 1) start).attempt
        if opening = start then
          throw (.failure .invalidDeclarator start)
        else
          let base ← resolver start opening
          match bracket with
          | .square =>
              let size ← arraySize nested opening (stop - 1)
              return { node := .array span base.node size, stop }
          | .round =>
              let list ← parameters input resolver opening (stop - 1)
              return { node := .function span base.node list, stop }
    | _ =>
        if stop = start + 1 ∧ last.kind = .identifier then
          return { node := .name span last, stop }
        else
          throw (.failure .invalidDeclarator start)

/-- The shape of the declarator between two indices, within a nesting budget and with a given
scan for the last group, here and inside the groups. -/
def resolveBy : (budget : Nat) → Resolver
  | 0, start, _ =>
      supervise input start (guarded input start (tooDeep start input.options.maxNesting))
  | budget + 1, start, stop =>
      supervise input start
        (guarded input start
          (shapeBy scan input (resolveBy budget) (expression input budget) start stop))

theorem shapeBy_matchBackward (resolver : Resolver) (nested : Nested) (start stop : Nat) :
    shapeBy (matchBackward input) input resolver nested start stop =
      shape input resolver nested start stop :=
  rfl

theorem resolveBy_matchBackward (budget : Nat) :
    resolveBy (matchBackward input) input budget = resolve input budget := by
  induction budget with
  | zero => rfl
  | succ budget induction =>
      funext start stop
      rw [resolveBy, resolve, induction, shapeBy_matchBackward]

end Checked

section Unfailing

variable {α : Type} {input : Input} {first second : Resolver} {start stop : Nat}

theorem attempt_bind_congr {scanned : Scanned} {next other : Nat → Attempt α}
    (same : ∀ index, scanned = .ok (.ok index) → next index = other index) :
    scanned.attempt >>= next = scanned.attempt >>= other := by
  cases scanned with
  | error fault => rfl
  | ok answer =>
      cases answer with
      | error failure => rfl
      | ok index =>
          change next index = other index
          exact same index rfl

theorem tokenAt_bind_congr {index : Nat} {next other : Token → Attempt α}
    (same : ∀ token, input.stream.get? index = some token → next token = other token) :
    (liftM (tokenAt input index) : Attempt Token) >>= next =
      (liftM (tokenAt input index) : Attempt Token) >>= other := by
  unfold tokenAt
  cases found : input.stream.get? index with
  | none => rfl
  | some token =>
      change next token = other token
      exact same token found

/-- Two resolvers are the same on names and balanced groups. -/
def SameOnGroups (stream : TokenStream) (first second : Resolver) : Prop :=
  ∀ start stop, Groups stream start stop → first start stop = second start stop

theorem declaratorAt_congr (same : SameOnGroups input.stream first second) :
    declaratorAt input first start = declaratorAt input second start := by
  unfold declaratorAt
  congr 1
  apply attempt_bind_congr
  intro stop ended
  rw [same start stop (findEnd_groups ended).1]

theorem parametersFrom_congr (same : SameOnGroups input.stream first second)
    {closing fuel index : Nat} :
    parametersFrom input first closing fuel index =
      parametersFrom input second closing fuel index := by
  induction fuel generalizing index with
  | zero => rfl
  | succ fuel induction => simp only [parametersFrom, declaratorAt_congr same, induction]

theorem shapeBy_unfailing (same : SameOnGroups input.stream first second) {nested : Nested}
    (groups : Groups input.stream start stop) :
    shapeBy (fun close start => (matchBackward input close start).unfailing) input first nested
        start stop =
      shape input second nested start stop := by
  unfold shapeBy shape
  split
  · rfl
  · rename_i nonempty
    apply tokenAt_bind_congr
    intro last found
    have kindEq := TokenStream.kindAt_of_get? found
    cases role : bracketRole last.kind with
    | closes bracket =>
        obtain ⟨opening, matched, base⟩ :=
          groups.matchBackward (Nat.lt_of_not_le nonempty) (by rw [kindEq, role])
        simp only [matched, Scanned.unfailing, parameters, parametersFrom_congr same]
        apply attempt_bind_congr
        rintro _ ⟨⟩
        cases bracket <;> simp only [same start opening base]
    | _ => rfl

theorem resolveBy_unfailing (input : Input) (budget : Nat) :
    SameOnGroups input.stream
      (resolveBy (fun close start => (matchBackward input close start).unfailing) input budget)
      (resolve input budget) := by
  induction budget with
  | zero => exact fun _ _ _ => rfl
  | succ budget induction =>
      intro start stop groups
      rw [resolveBy, resolve, shapeBy_unfailing induction groups]

end Unfailing

section Exactness

variable {stream : TokenStream} {options : ParserOptions} {stack : Option Nat} {start : Nat}
  {outcome : Outcome Declarator} {state after : State}

/-- Five levels for each token are enough for a declarator. -/
theorem declarator_unfelt {input : Input} (inside : start ≤ input.stream.lastIndex)
    (admits : Admits input state.nesting (5 * input.stream.size))
    (orderly : Orderly input.stream state.memo) :
    (finalState ((declarator input (5 * input.stream.size) start).run state)).limitFelt =
      state.limitFelt := by
  have sizeEq := input.stream.size_eq
  have enough : shapeNeed input.stream start input.stream.lastIndex ≤ 5 * input.stream.size := by
    unfold shapeNeed
    omega
  have needs := (rules_need input (5 * input.stream.size) _).declarator start inside enough
  exact (needs state orderly).unfelt (Nat.le_refl _) admits

/-- A parser that recalls nothing matches a declarator exactly where one is derived that
nothing continues. -/
theorem forgetful_exact {budget : Nat} (enough : 5 * stream.size ≤ budget)
    (admits : Admits { stream, options, stack, caching := false } 0 budget)
    (run : (declarator { stream, options, stack, caching := false } budget start).run {} =
      .ok outcome after) (tree : Declarator) (stop : Nat) :
    (∃ found, outcome = .ok found ∧ found.node.withoutSpans = tree ∧ found.stop = stop) ↔
      Declares stream (.declarator tree) start stop ∧ EndsDeclarator stream stop := by
  let input : Input := { stream, options, stack, caching := false }
  constructor
  · rintro ⟨found, rfl, rfl, rfl⟩
    have derived :=
      (declarator_vouched input budget {} _ after (recollects_empty _) run).2 found rfl
    have ended := declaratorAt_yields {} found after run
    exact ⟨derived, (findEnd_groups ended).2⟩
  · rintro ⟨derived, ends⟩
    have sizeEq := stream.size_eq
    have inside := derived.inside
    have forgetful : Forgetful input := ⟨rfl, rfl⟩
    have room : 3 * (input.stream.lastIndex - start) + (stop - start) ≤ budget := by
      change 3 * (stream.lastIndex - start) + _ ≤ _
      omega
    obtain ⟨node, stripped, gives⟩ :=
      declaratorAt_builds forgetful derived (derived.completes forgetful) ends room
    obtain ⟨last, ran, -⟩ := gives 0 {} admits ⟨rfl, rfl, rfl, rfl⟩
    cases run.symm.trans ran
    exact ⟨_, rfl, stripped, rfl⟩

/-- A reachable parser with no guarded rule active matches, within a budget that is no
smaller, the declarators that a parser does that recalls nothing and is refused no rule. -/
theorem declarator_recalled (reachable : Reachable { stream, options, stack } state)
    (idle : state.nesting = 0) {budget larger : Nat} (le : budget ≤ larger)
    (run : (declarator { stream, options, stack, caching := false } budget start).run {} =
      .ok outcome after) (unfelt : after.limitFelt = false) :
    ∃ last, (declarator { stream, options, stack } larger start).run state = .ok outcome last := by
  let pair := Pairing.recalling stream options options stack stack true fun _ _ => True
  have follows : pair.Follows
      (declarator { stream, options, stack, caching := false } budget start)
      (declarator { stream, options, stack } larger start) _ :=
    Pairing.follows_declarator (Pairing.recalling_expressions stream options options stack stack
      true _) (.inl ⟨rfl, le⟩) start ⟨Passage.within_of_whole (Passage.itself_whole stream), nofun⟩
  have akin : pair.Akin {} state := ⟨reachable.kept.faithful, trivial⟩
  have allows : pair.Allows 0 state.nesting := .inr ⟨idle, rfl, rfl⟩
  obtain ⟨last, ran, -⟩ :=
    follows.same rfl allows akin.linked run fun gaveUp => nomatch unfelt.symm.trans gaveUp.2
  exact ⟨last, ran⟩

/-- A declarator is matched exactly where the grammar has one, a name with groups after it,
that neither a name nor an opening bracket continues, and its node is the tree that the
grammar has there: in every reachable state with no guarded rule active, where the nesting
limit and the stack allow five levels for each token.  A resolver that breaks off where its
scan backward fails, here or inside the groups, is the resolver itself: that scan never
fails. -/
theorem declarator_exact (representable : Representable stream)
    (high : 5 * stream.size ≤ options.maxNesting)
    (spacious : ∀ room ∈ stack, 5 * stream.size ≤ room) (inside : start ≤ stream.lastIndex)
    (reachable : Reachable { stream, options, stack } state) (idle : state.nesting = 0) :
    let input : Input := { stream, options, stack }
    (∃ outcome after, (declarator input options.maxNesting start).run state = .ok outcome after ∧
      ∀ tree stop,
        (∃ found, outcome = .ok found ∧ found.node.withoutSpans = tree ∧ found.stop = stop) ↔
          Declares stream (.declarator tree) start stop ∧ EndsDeclarator stream stop) ∧
      resolve input = resolveBy (matchBackward input) input ∧
      declarator input options.maxNesting start =
        declaratorAt input
          (resolveBy (fun close start => (matchBackward input close start).unfailing) input
            options.maxNesting) start := by
  intro input
  refine ⟨?_, funext fun budget => (resolveBy_matchBackward input budget).symm,
    (declaratorAt_congr (resolveBy_unfailing input options.maxNesting)).symm⟩
  let bare : Input := { stream, options, stack, caching := false }
  have admits : Admits bare 0 (5 * stream.size) :=
    ⟨by rwa [Nat.zero_add], fun room known => by rw [Nat.zero_add]; exact spacious room known⟩
  obtain ⟨outcome, after, run⟩ : ∃ outcome after,
      (declarator bare (5 * stream.size) start).run {} = .ok outcome after :=
    (declarator_confined bare _ start inside).answers representable (orderly_empty stream)
  have unfelt : (finalState ((declarator bare (5 * stream.size) start).run {})).limitFelt =
      false := declarator_unfelt inside admits (orderly_empty stream)
  rw [run] at unfelt
  obtain ⟨last, ran⟩ := declarator_recalled reachable idle high run unfelt
  exact ⟨outcome, last, ran, forgetful_exact (Nat.le_refl _) admits run⟩

end Exactness

/-- A function of an array that returns an array: `f(int a[n])[m]`. -/
def peeledStream : TokenStream :=
  { tokens := #[
      { kind := .identifier, lexeme := "f", line := 1 },
      { kind := .leftParen, lexeme := "(", line := 1 },
      { kind := .intWord, lexeme := "int", line := 1 },
      { kind := .identifier, lexeme := "a", line := 1 },
      { kind := .leftBracket, lexeme := "[", line := 1 },
      { kind := .identifier, lexeme := "n", line := 1 },
      { kind := .rightBracket, lexeme := "]", line := 1 },
      { kind := .rightParen, lexeme := ")", line := 1 },
      { kind := .leftBracket, lexeme := "[", line := 1 },
      { kind := .identifier, lexeme := "m", line := 1 },
      { kind := .rightBracket, lexeme := "]", line := 1 },
      { kind := .endOfInput, lexeme := "", line := 1 }]
    terminated := rfl }

/-- The tree of `f(int a[n])[m]`. -/
def peeledTree : Declarator :=
  .array none
    (.function none (.name none { kind := .identifier, lexeme := "f", line := 1 })
      [.single none [{ kind := .intWord, lexeme := "int", line := 1 }]
        (.array none (.name none { kind := .identifier, lexeme := "a", line := 1 })
          (some (.identifier none "n")))])
    (some (.identifier none "m"))

theorem peeled_declares : Declares peeledStream (.declarator peeledTree) 0 11 := by
  have name : ∀ index token, peeledStream.get? index = some token → token.kind = .identifier →
      Derives peeledStream (.expr .assignment (.identifier none token.lexeme)) index (index + 1) :=
    fun _ _ found isName => .unassigned
      ((Derives.operand (.uncast (.unsigned (.bare (.identifier found isName))))).loosen
        (Nat.zero_le _))
  have parameter : Declares peeledStream (.parameters _) 2 7 :=
    .lastParameter (.last rfl rfl)
      (.sizedArray (.name rfl rfl) rfl (name 5 { kind := .identifier, lexeme := "n", line := 1 }
        rfl rfl) rfl)
  exact .sizedArray (.functionOf (.name rfl rfl) rfl parameter rfl) rfl
    (name 9 { kind := .identifier, lexeme := "m", line := 1 } rfl rfl) rfl

/-- The declarator is matched as a whole, with the size of its parameter remembered from
before, where the stack has room for five levels for each token. -/
theorem declarator_exact_peeled :
    let input : Input := { stream := peeledStream, options := {}, stack := some 60 }
    ∃ state found after, Reachable input state ∧ state.nesting = 0 ∧
      (state.memo.find? .assignment 5).isSome = true ∧
      (declarator input 64 0).run state = .ok (.ok found) after ∧
      found.node.withoutSpans = peeledTree ∧ found.stop = 11 := by
  intro input
  have remembers :
      (match (expression input 4 .assignment 5).run {} with
        | .ok _ after => (after.memo.find? .assignment 5).isSome && after.nesting == 0
        | .error _ _ => false) = true := by
    decide +kernel
  cases run : (expression input 4 .assignment 5).run {} with
  | error fault after =>
      rw [run] at remembers
      cases remembers
  | ok outcome state =>
      rw [run] at remembers
      obtain ⟨known, idle⟩ := Bool.and_eq_true_iff.mp remembers
      have reachable : Reachable input state :=
        .answered (.fresh rfl) (.expression 4 .assignment 5) (by decide) run
      have ends : EndsDeclarator peeledStream 11 := ⟨⟨by decide, by decide⟩, by decide⟩
      obtain ⟨⟨answer, after, ran, exact⟩, -⟩ :=
        @declarator_exact peeledStream {} (some 60) 0 state (by decide +kernel) (by decide)
          (by decide) (by decide) reachable (eq_of_beq idle)
      obtain ⟨found, rfl, same, stopEq⟩ := (exact peeledTree 11).mpr ⟨peeled_declares, ends⟩
      exact ⟨state, found, after, reachable, eq_of_beq idle, known, ran, same, stopEq⟩

end MiniC.Parser
