import MiniC.Proofs.Layout
import MiniC.Proofs.Supervision

/-!
# Recovery is bounded by the block

A block always matches, in every state that a run can reach.  It ends at the
brace that closes it by counting, or at the end of input, whatever stands between
the braces and whichever limits are met there.  Its items and its errors stay
between the braces, and the only error of its own is a brace that is missing.
-/

namespace MiniC.Parser

/-- How a token changes the number of open braces. -/
def braceWeight : Kind → Int
  | .leftBrace => 1
  | .rightBrace => -1
  | _ => 0

/-- By how many the braces that open exceed those that close among the next `count`
tokens. -/
def openBraces (stream : TokenStream) : (count index : Nat) → Int
  | 0, _ => 0
  | count + 1, index =>
      braceWeight (stream.kindAt index) + openBraces stream count (index + 1)

/-- The first index after an opening brace at which as many braces have been closed as
opened, or the end of input if there is none. -/
structure ClosesAt (stream : TokenStream) (start stop : Nat) : Prop where
  after : start < stop
  inside : stop ≤ stream.lastIndex
  first : ∀ index, start ≤ index → index < stop → 0 < openBraces stream (index + 1 - start) start
  balanced : stop < stream.lastIndex → openBraces stream (stop + 1 - start) start = 0

theorem braceWeight_plain {kind : Kind} (plain : ¬ isBrace kind) : braceWeight kind = 0 := by
  unfold braceWeight
  split
  · exact absurd (.inl rfl) plain
  · exact absurd (.inr rfl) plain
  · rfl

theorem openBraces_first {stream : TokenStream} {index place : Nat} (ordered : index ≤ place) :
    openBraces stream (place + 1 - index) index =
      braceWeight (stream.kindAt index) +
        openBraces stream (place + 1 - (index + 1)) (index + 1) := by
  have count : place + 1 - index = (place + 1 - (index + 1)) + 1 := by omega
  rw [count, openBraces]

/-- With so many blocks open at an index, the count stays positive up to another index, and
is zero there. -/
structure CountsDown (stream : TokenStream) (level : Int) (index stop : Nat) : Prop where
  positive : ∀ place, index ≤ place → place < stop →
    0 < level + openBraces stream (place + 1 - index) index
  zero : stop < stream.lastIndex → level + openBraces stream (stop + 1 - index) index = 0

/-- What the rest of the stream counts, with one more token before it. -/
theorem CountsDown.earlier {stream : TokenStream} {level next : Int} {index stop : Nat}
    (rest : CountsDown stream next (index + 1) stop)
    (stepped : next = level + braceWeight (stream.kindAt index)) (stillOpen : 0 < next)
    (further : index < stop) : CountsDown stream level index stop := by
  constructor
  · intro place lower upper
    rw [openBraces_first lower]
    rcases Nat.eq_or_lt_of_le lower with rfl | later
    · rw [Nat.sub_self, openBraces]
      omega
    · have counted := rest.positive place later upper
      omega
  · intro closed
    have counted := rest.zero closed
    rw [openBraces_first (Nat.le_of_lt further)]
    omega

/-- While blocks are open the count stays positive, and where they are closed it is zero. -/
theorem closingFrom_counts {stream : TokenStream} (level index : Nat)
    (inside : index ≤ stream.lastIndex) :
    CountsDown stream (level + 1) index (closingFrom stream (level + 1) index) := by
  -- by the distance to the end; a step takes one token from the front of the count
  induction distance : stream.lastIndex - index generalizing index level with
  | zero =>
      rw [closingFrom_last (by omega)]
      exact ⟨fun place lower upper => by omega, fun further => by omega⟩
  | succ distance induction =>
      have before : index < stream.lastIndex := by omega
      have shift : ∀ next : Nat,
          (next + 1 : Int) = (level + 1 : Int) + braceWeight (stream.kindAt index) →
          closingFrom stream (level + 1) index = closingFrom stream (next + 1) (index + 1) →
          CountsDown stream (level + 1) index (closingFrom stream (level + 1) index) := by
        intro next stepped same
        rw [same]
        exact (induction next (index + 1) before (by omega)).earlier stepped (by omega)
          (closingFrom_le next before).1
      by_cases opens : stream.kindAt index = .leftBrace
      · apply shift (level + 1)
        · simp [opens, braceWeight]
        · exact closingFrom_open opens
      · by_cases closes : stream.kindAt index = .rightBrace
        · cases level with
          | zero =>
              have here : closingFrom stream 1 index = index := blockEnd_close closes
              rw [here]
              refine ⟨fun place lower upper => by omega, fun _ => ?_⟩
              rw [openBraces_first (Nat.le_refl index), Nat.sub_self, openBraces, closes]
              rfl
          | succ level =>
              apply shift level
              · simp only [closes, braceWeight]
                omega
              · exact closingFrom_close closes
        · have plain : ¬ isBrace (stream.kindAt index) := by simp [isBrace, opens, closes]
          apply shift level
          · rw [braceWeight_plain plain]
            omega
          · exact closingFrom_plain before plain

/-- The matching brace is found by counting. -/
theorem matchingBrace_closesAt {input : Input} {start : Nat}
    (opens : input.kindAt start = .leftBrace) :
    ClosesAt input.stream start (matchingBrace input start) := by
  have before : start < input.stream.lastIndex :=
    TokenStream.lt_lastIndex_of_kindAt_eq opens (by decide)
  have kindEq : input.stream.kindAt start = .leftBrace := opens
  have lower : start + 1 ≤ blockEnd input.stream (start + 1) := le_blockEnd before
  have upper : blockEnd input.stream (start + 1) ≤ input.stream.lastIndex := blockEnd_le before
  have inner : CountsDown input.stream (0 + 1) (start + 1) (blockEnd input.stream (start + 1)) :=
    closingFrom_counts 0 (start + 1) before
  obtain ⟨positive, zero⟩ :=
    inner.earlier (by rw [kindEq]; rfl) Int.zero_lt_one lower
  rw [matchingBrace_eq opens]
  simp only [Int.zero_add] at positive zero
  exact ⟨lower, upper, positive, zero⟩

/-- The rules that remember results, or call rules that do. -/
inductive Rule (input : Input) : (α : Type) → (start : Nat) → Attempt (Match α) → Prop
  | expression (budget : Nat) (stratum : Stratum) (start : Nat) :
      Rule input Expr start (expression input budget stratum start)
  | declarator (budget start : Nat) :
      Rule input Declarator start (declarator input budget start)
  | declaration (budget start : Nat) :
      Rule input Declaration start (declaration input budget start)
  | statement (budget start : Nat) :
      Rule input Statement start (statement input budget start)
  | block (budget start : Nat) : Rule input Block start (block input budget start)
  | functionDefinition (budget start : Nat) :
      Rule input Declaration start (functionDefinition input budget start)

/-- The states that a run can be in when a rule is started.  Nothing is remembered at
first, rules that answered have left their results behind, at any nesting, and
whatever else the state holds may have changed in between. -/
inductive Reachable (input : Input) : State → Prop
  | fresh {state : State} (nothing : state.memo = .empty) : Reachable input state
  | answered {α : Type} {start : Nat} {rule : Attempt (Match α)} {before after : State}
      {outcome : Outcome α} (reachable : Reachable input before) (named : Rule input α start rule)
      (inside : start ≤ input.stream.lastIndex)
      (run : rule.run before = .ok outcome after) : Reachable input after
  | changed {before after : State} (reachable : Reachable input before)
      (kept : after.memo = before.memo) : Reachable input after

theorem Rule.confined {input : Input} {α : Type} {start : Nat} {rule : Attempt (Match α)}
    (named : Rule input α start rule) (inside : start ≤ input.stream.lastIndex) :
    ∃ Ends, Confined input.stream start rule Ends := by
  cases named with
  | expression budget stratum => exact ⟨_, expression_confined input budget stratum start inside⟩
  | declarator budget => exact ⟨_, declarator_confined input budget _ inside⟩
  | declaration budget => exact ⟨_, declaration_confined budget inside⟩
  | statement budget => exact ⟨_, statement_confined input budget start inside⟩
  | block budget =>
      exact ⟨_, compound_confined (statement_confined input budget)
        (fun _ => declaration_confined budget) inside⟩
  | functionDefinition budget => exact ⟨_, functionDefinition_confined budget inside⟩

/-- What is remembered in a reachable state is confined to its starts. -/
theorem Reachable.orderly {input : Input} {state : State} (reachable : Reachable input state) :
    Orderly input.stream state.memo := by
  induction reachable with
  | fresh nothing =>
      rw [nothing]
      exact orderly_empty input.stream
  | answered _ named inside run induction =>
      obtain ⟨Ends, confined⟩ := named.confined inside
      have alone := confined _ induction
      rw [run] at alone
      exact alone.1.orderly
  | changed _ kept induction =>
      rw [kept]
      exact induction

/-- No integer constant of a stream is too large. -/
def Representable (stream : TokenStream) : Prop :=
  ∀ token ∈ stream.tokens, token.constant ≠ .tooLarge

instance (stream : TokenStream) : Decidable (Representable stream) :=
  inferInstanceAs (Decidable (∀ token ∈ stream.tokens, token.constant ≠ .tooLarge))

/-- With every constant representable, no run is broken off. -/
theorem Representable.not_excused {stream : TokenStream} (representable : Representable stream)
    {fault : Fault} : ¬ Excused stream fault := by
  rintro ⟨-, index, token, found, -, tooLarge⟩
  exact representable token (Array.mem_of_getElem? found) tooLarge

theorem Confined.answers {α : Type} {stream : TokenStream} {start : Nat} {attempt : Attempt α}
    {Ends : α → Prop} {state : State} (confined : Confined stream start attempt Ends)
    (representable : Representable stream) (orderly : Orderly stream state.memo) :
    ∃ outcome after, attempt.run state = .ok outcome after := by
  have alone := confined state orderly
  cases run : attempt.run state with
  | error fault after =>
      rw [run] at alone
      exact absurd alone representable.not_excused
  | ok outcome after => exact ⟨outcome, after, rfl⟩

section Items

variable {input : Input} {budget start : Nat} {state : State}

/-- The items of the block that an opening brace starts. -/
def blockItems (input : Input) (budget start : Nat) : Engine (Match (List Statement)) :=
  items input (blockItem (statement input budget) (declaration input budget))
    "declaration or statement" (start + 1) (matchingBrace input start)

theorem blockItems_eq (opens : input.kindAt start = .leftBrace) :
    blockItems input budget start =
      itemsFrom input (blockItem (statement input budget) (declaration input budget))
        "declaration or statement" (blockEnd input.stream (start + 1)) input.fuel (start + 1) := by
  unfold blockItems items
  rw [matchingBrace_eq opens]

theorem bounded_inside (before : start < input.stream.lastIndex) :
    ∀ index, start + 1 ≤ index → index ≤ blockEnd input.stream (start + 1) →
      blockEnd input.stream index ≤ blockEnd input.stream (start + 1) :=
  fun _ lower upper => blockEnd_mono lower upper before

theorem item_confined {index : Nat} (inside : index ≤ input.stream.lastIndex) :
    Confined input.stream index
      (blockItem (statement input budget) (declaration input budget) index)
      (SpansKept input.stream index) :=
  blockItem_confined (statement_confined input budget) (fun _ => declaration_confined budget)
    inside

theorem blockItems_confined (budget : Nat) (orderly : Orderly input.stream state.memo)
    (opens : input.kindAt start = .leftBrace) :
    LoopConfined input.stream (start + 1) (blockEnd input.stream (start + 1)) state
      (blockItems input budget start state) := by
  have before : start < input.stream.lastIndex :=
    TokenStream.lt_lastIndex_of_kindAt_eq opens (by decide)
  have lower : start + 1 ≤ blockEnd input.stream (start + 1) := le_blockEnd before
  have upper : blockEnd input.stream (start + 1) ≤ input.stream.lastIndex := blockEnd_le before
  rw [blockItems_eq opens]
  exact itemsFrom_confined (fun _ => item_confined) upper (bounded_inside before)
    (Nat.le_refl _) lower (Nat.lt_of_le_of_lt upper (fuel_enough input (start + 1))) state orderly

theorem blockItems_rounds {list : Match (List Statement)} {final : State}
    (opens : input.kindAt start = .leftBrace)
    (run : blockItems input budget start state = .ok list final) :
    Rounds input (blockItem (statement input budget) (declaration input budget))
      "declaration or statement" (blockEnd input.stream (start + 1)) (start + 1) state list
      final := by
  have before : start < input.stream.lastIndex :=
    TokenStream.lt_lastIndex_of_kindAt_eq opens (by decide)
  rw [blockItems_eq opens] at run
  exact itemsFrom_rounds (blockEnd_le before) run

theorem blockItems_laid {list : Match (List Statement)} {final : State}
    (orderly : Orderly input.stream state.memo) (opens : input.kindAt start = .leftBrace)
    (run : blockItems input budget start state = .ok list final) :
    Laid list.recovered
      (input.options.maxErrors ≤
        state.reported.length + (state.errorCount + list.recovered.length))
      (start + 1) (blockEnd input.stream (start + 1)) (list.node.map Statement.span) := by
  have before : start < input.stream.lastIndex :=
    TokenStream.lt_lastIndex_of_kindAt_eq opens (by decide)
  exact (blockItems_rounds opens run).laid (fun _ => item_confined)
    (fun _ => blockItem_covers budget) (blockEnd_le before) (bounded_inside before)
    (Nat.le_refl _) (le_blockEnd before) orderly

theorem blockItems_bounded (budget : Nat) (reachable : Reachable input state)
    (opens : input.kindAt start = .leftBrace) (representable : Representable input.stream) :
    ∃ list final, blockItems input budget start state = .ok list final ∧
      list.stop = matchingBrace input start ∧
      (∀ item ∈ list.node, ∃ first last, item.span = covering first last ∧
        start + 1 ≤ first ∧ first < last ∧ last ≤ matchingBrace input start) ∧
      ∀ diagnostic ∈ list.recovered, (start + 1 : Int) ≤ diagnostic.depth ∧
        diagnostic.depth ≤ matchingBrace input start := by
  have before : start < input.stream.lastIndex :=
    TokenStream.lt_lastIndex_of_kindAt_eq opens (by decide)
  have loop := blockItems_confined budget reachable.orderly opens
  rw [matchingBrace_eq opens]
  cases run : blockItems input budget start state with
  | error fault after =>
      rw [run] at loop
      exact absurd loop representable.not_excused
  | ok list final =>
      rw [run] at loop
      obtain ⟨-, stopEq, recorded⟩ := loop
      refine ⟨list, final, rfl, stopEq, ?_, ?_⟩
      · intro item member
        exact (blockItems_laid reachable.orderly opens run).inside item.span
          (List.mem_map_of_mem member)
      · intro diagnostic member
        obtain ⟨place, first, last, within⟩ := recorded diagnostic member
        have depthGe := within.depth_ge
        have depthLe := within.depth_le
        have placeEnd := bounded_inside before place first (by omega)
        omega

/-- A block is what its items are, with an error of its own when its brace is missing. -/
theorem block_inversion {outcome : Outcome Block} {after : State}
    (opens : input.kindAt start = .leftBrace)
    (run : (block input budget start).run state = .ok outcome after) :
    ∃ list final, blockItems input budget start state = .ok list final ∧
      after = final.meeting input [] ∧
      ((input.kindAt list.stop = .rightBrace ∧
          outcome = .ok
            { node := .mk (covering start (list.stop + 1)) list.node
              stop := list.stop + 1
              recovered := list.recovered }) ∨
        (input.kindAt list.stop ≠ .rightBrace ∧
          outcome = .ok
            { node := .mk (covering start list.stop) list.node
              stop := list.stop
              recovered := list.recovered ++ [.missing list.stop (.kind .rightBrace)] })) := by
  obtain ⟨between, ruleRun, rfl⟩ := supervise_ok run
  rcases bind_ok ruleRun with ⟨first, opened, ran, rest⟩ | ⟨failure, failed, -⟩
  · obtain ⟨rfl, ⟨-, firstEq⟩ | ⟨different, -⟩⟩ := expect_ok ran
    · cases firstEq
      rcases bind_ok rest with ⟨list, final, loop, ended⟩ | ⟨failure, failed, -⟩
      · obtain ⟨known, computed, same⟩ := lift_ok loop
        cases same
        refine ⟨list, final, computed, ?_⟩
        dsimp only at ended
        split at ended
        · rename_i closed
          cases ended
          exact ⟨rfl, .inl ⟨closed, rfl⟩⟩
        · rename_i unclosed
          cases ended
          exact ⟨rfl, .inr ⟨unclosed, rfl⟩⟩
      · obtain ⟨known, -, impossible⟩ := lift_ok failed
        cases impossible
    · exact absurd opens different
  · obtain ⟨-, ⟨-, impossible⟩ | ⟨different, -⟩⟩ := expect_ok failed
    · cases impossible
    · exact absurd opens different

/-- The match of a block with items that ended. -/
def blockMatch (input : Input) (start : Nat) (list : Match (List Statement)) : Match Block :=
  if input.kindAt list.stop = .rightBrace then
    { node := .mk (covering start (list.stop + 1)) list.node
      stop := list.stop + 1
      recovered := list.recovered }
  else
    { node := .mk (covering start list.stop) list.node
      stop := list.stop
      recovered := list.recovered ++ [.missing list.stop (.kind .rightBrace)] }

theorem blockMatch_recovered (input : Input) (start : Nat) (list : Match (List Statement)) :
    (blockMatch input start list).recovered = list.recovered ++
      if input.kindAt list.stop = .rightBrace then []
      else [.missing list.stop (.kind .rightBrace)] := by
  unfold blockMatch
  split
  · exact (List.append_nil _).symm
  · rfl

theorem blockMatch_stop {other : Input} {list otherList : Match (List Statement)}
    (sameStream : other.stream = input.stream) (sameStop : otherList.stop = list.stop) :
    (blockMatch other start otherList).stop = (blockMatch input start list).stop := by
  unfold blockMatch Input.kindAt
  rw [sameStream, sameStop]
  split
  · rfl
  · rfl

/-- A block ends behind the brace that closes its items, or with the stream. -/
theorem blockMatch_ends {list : Match (List Statement)} (inside : start < input.stream.lastIndex)
    (stopEq : list.stop = blockEnd input.stream (start + 1)) :
    blockEnd input.stream (start + 1) < (blockMatch input start list).stop ∨
      (blockEnd input.stream (start + 1) = (blockMatch input start list).stop ∧
        (blockMatch input start list).stop = input.stream.lastIndex) := by
  unfold blockMatch
  split
  · left
    change _ < list.stop + 1
    omega
  · rename_i unclosed
    have upper : blockEnd input.stream (start + 1) ≤ input.stream.lastIndex := blockEnd_le inside
    have atEnd : ¬ blockEnd input.stream (start + 1) < input.stream.lastIndex := by
      intro closed
      apply unclosed
      rw [stopEq]
      exact kindAt_blockEnd inside closed
    right
    change _ = list.stop ∧ list.stop = _
    omega

theorem block_run {list : Match (List Statement)} {final : State}
    (unsupervised : input.supervised = false) (opens : input.kindAt start = .leftBrace)
    (run : blockItems input budget start state = .ok list final) :
    (block input budget start).run state = .ok (.ok (blockMatch input start list)) final := by
  have plain : block input budget start =
      (do
        let list ← (liftM (blockItems input budget start) : Attempt (Match (List Statement)))
        if input.kindAt list.stop = .rightBrace then
          let stop := list.stop + 1
          return { node := .mk (covering start stop) list.node, stop, recovered := list.recovered }
        else
          let unclosed := Diagnostic.missing list.stop (.kind .rightBrace)
          return {
            node := .mk (covering start list.stop) list.node
            stop := list.stop
            recovered := list.recovered ++ [unclosed]
          }) := by
    unfold block compound supervise
    rw [if_neg (by simp [unsupervised]), expect, if_pos opens, pure_bind]
    rfl
  rw [plain, bind_found (lift_found run)]
  unfold blockMatch
  split
  · rfl
  · rfl

end Items

/-- A block matches in every reachable state and at any nesting, whatever stands between
its braces.  It ends just behind the brace that closes it by counting, or at the end
of input with an error of its own; its items and its errors stay between the braces. -/
theorem block_bounded {input : Input} {start : Nat} {state : State} (budget : Nat)
    (reachable : Reachable input state) (opens : input.kindAt start = .leftBrace)
    (representable : Representable input.stream) :
    ∃ limit found after, matchingBrace input start = limit ∧
      ClosesAt input.stream start limit ∧
      (block input budget start).run state = .ok (.ok found) after ∧
      found.stop =
        (if input.kindAt limit = .rightBrace then limit + 1 else input.stream.lastIndex) ∧
      (∃ list final, blockItems input budget start state = .ok list final ∧
        found.node.items = list.node ∧
        found.recovered = list.recovered ++
          if input.kindAt limit = .rightBrace then []
          else [.missing limit (.kind .rightBrace)]) ∧
      (∀ item ∈ found.node.items, ∃ first last, item.span = covering first last ∧
        start + 1 ≤ first ∧ first < last ∧ last ≤ limit) ∧
      ∀ diagnostic ∈ found.recovered, (start + 1 : Int) ≤ diagnostic.depth ∧
        diagnostic.depth ≤ limit := by
  have before : start < input.stream.lastIndex :=
    TokenStream.lt_lastIndex_of_kindAt_eq opens (by decide)
  have named : Rule input Block start (block input budget start) := .block budget start
  obtain ⟨Ends, confined⟩ := named.confined (Nat.le_of_lt before)
  have alone := confined state reachable.orderly
  cases run : (block input budget start).run state with
  | error fault after =>
      rw [run] at alone
      exact absurd alone representable.not_excused
  | ok outcome after =>
      obtain ⟨list, final, computed, -, ended⟩ := block_inversion opens run
      obtain ⟨known, last, bounded, stopEq, spans, depths⟩ :=
        blockItems_bounded budget reachable opens representable
      rw [computed] at bounded
      cases bounded
      have closing := matchingBrace_closesAt opens
      rw [← stopEq] at spans depths closing ⊢
      rcases ended with ⟨closed, rfl⟩ | ⟨unclosed, rfl⟩
      · refine ⟨list.stop, _, after, rfl, closing, rfl, ?_, ⟨list, final, computed, rfl, ?_⟩,
          spans, depths⟩
        · rw [if_pos closed]
        · rw [if_pos closed, List.append_nil]
      · have atEnd : list.stop = input.stream.lastIndex := by
          rw [stopEq, matchingBrace_eq opens]
          apply Nat.le_antisymm (blockEnd_le before)
          apply Nat.le_of_not_lt
          intro further
          apply unclosed
          rw [stopEq, matchingBrace_eq opens]
          exact kindAt_blockEnd before further
        refine ⟨list.stop, _, after, rfl, closing, rfl, ?_, ⟨list, final, computed, rfl, ?_⟩,
          spans, ?_⟩
        · rw [if_neg unclosed]
          exact atEnd
        · rw [if_neg unclosed]
        · intro diagnostic member
          rcases List.mem_append.mp member with item | own
          · exact depths diagnostic item
          · have later := closing.after
            rw [List.mem_singleton.mp own]
            have depthEq : (Diagnostic.missing list.stop (.kind .rightBrace)).depth = list.stop := rfl
            omega

/-- A block with an unclosed conditional, a second block and a stray bracket inside. -/
def brokenStream : TokenStream :=
  { tokens := #[
      { kind := .leftBrace, lexeme := "\x7b", line := 1 },
      { kind := .ifWord, lexeme := "if", line := 1 },
      { kind := .leftParen, lexeme := "(", line := 1 },
      { kind := .identifier, lexeme := "a", line := 1 },
      { kind := .leftBrace, lexeme := "\x7b", line := 1 },
      { kind := .returnWord, lexeme := "return", line := 1 },
      { kind := .identifier, lexeme := "b", line := 1 },
      { kind := .rightBrace, lexeme := "\x7d", line := 1 },
      { kind := .leftParen, lexeme := "(", line := 1 },
      { kind := .rightBrace, lexeme := "\x7d", line := 1 },
      { kind := .endOfInput, lexeme := "", line := 1 }]
    terminated := rfl }

/-- The block ends at its brace although nothing in it matches, with two levels of
nesting allowed and with a result remembered from before. -/
theorem block_bounded_broken :
    ∃ state found after, Reachable { stream := brokenStream, options := {} } state ∧
      (state.memo.find? .unary 3).isSome = true ∧
      (block { stream := brokenStream, options := {} } 2 0).run state = .ok (.ok found) after ∧
      found.stop = 10 ∧
      (∀ diagnostic ∈ found.recovered, 1 ≤ diagnostic.depth ∧ diagnostic.depth ≤ 9) := by
  have remembers :
      (match (expression { stream := brokenStream, options := {} } 3 .unary 3).run {} with
        | .ok _ after => (after.memo.find? .unary 3).isSome
        | .error _ _ => false) = true := by
    decide +kernel
  cases run : (expression { stream := brokenStream, options := {} } 3 .unary 3).run {} with
  | error fault after =>
      rw [run] at remembers
      cases remembers
  | ok outcome state =>
      rw [run] at remembers
      have reachable : Reachable { stream := brokenStream, options := {} } state :=
        .answered (.fresh rfl) (.expression 3 .unary 3) (by decide) run
      have opens : Input.kindAt { stream := brokenStream, options := {} } 0 = .leftBrace := by
        decide
      obtain ⟨limit, found, after, limitEq, -, matched, stopEq, -, -, depths⟩ :=
        block_bounded 2 reachable opens (by decide)
      have nine : matchingBrace { stream := brokenStream, options := {} } 0 = 9 := by decide
      rw [nine] at limitEq
      subst limitEq
      refine ⟨state, found, after, reachable, remembers, matched, ?_, ?_⟩
      · rw [stopEq, if_pos (by decide)]
      · exact fun diagnostic member => by simpa using depths diagnostic member

end MiniC.Parser
