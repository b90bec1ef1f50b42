import MiniC.Parser.Unit
import MiniC.Proofs.Supervision
import MiniC.Proofs.TandemRules

/-!
# Statements in two runs with different limits

A block ends at its brace in both runs, and a conditional statement that fails in both is
refused as an expression in both.  So statements, and whole units, are sustained where the
recovery loops are.
-/

namespace MiniC.Parser

namespace Tandem

section Blocks

variable {tandem : Tandem} {active budget larger start : Nat}

theorem blockItem_sustains (parts : tandem.Constituents active budget larger)
    (inside : start ≤ tandem.stream.lastIndex) :
    tandem.Sustains False active start
      (blockItem (statement tandem.lead budget) (declaration tandem.lead budget) start)
      (blockItem (statement tandem.trail larger) (declaration tandem.trail larger) start) :=
  .or_else ((declaration_plain parts.matched inside).wrap
    (fun found => found.map Statement.declaration) fun _ => rfl) (parts.statements start inside)

theorem blockItems_sequence (parts : tandem.Constituents active budget larger)
    (inside : start < tandem.stream.lastIndex) {Shared : Nat → Prop}
    (shared : From start Shared) :
    tandem.Sequence active (start + 1) (blockEnd tandem.stream (start + 1)) Shared
      (blockItem (statement tandem.lead budget) (declaration tandem.lead budget))
      (blockItem (statement tandem.trail larger) (declaration tandem.trail larger)) where
  leadConfined _ within := @item_confined tandem.lead budget _ within
  trailConfined _ within := @item_confined tandem.trail larger _ within
  sustains _ := blockItem_sustains parts
  inside := blockEnd_le inside
  bounded _ earlier within := blockEnd_mono earlier within inside
  ordered := le_blockEnd inside
  shared := shared.later (Nat.le_succ start)

theorem blockMatch_corresponds {mark : tandem.Mark} {list otherList : Match (List Statement)}
    (corresponds : tandem.Corresponds mark list otherList) :
    tandem.Corresponds mark (blockMatch tandem.lead start list)
      (blockMatch tandem.trail start otherList) := by
  refine ⟨blockMatch_stop rfl corresponds.stop, ?_, fun exact => ?_⟩
  · rw [blockMatch_recovered, blockMatch_recovered, corresponds.stop]
    exact tandem.append corresponds.recovered (tandem.itself _ _)
  · rw [blockMatch_recovered] at exact
    unfold blockMatch
    rw [corresponds.stop, corresponds.node (tandem.exact_left exact)]
    by_cases closes : tandem.lead.kindAt list.stop = .rightBrace
    · have otherCloses : tandem.trail.kindAt list.stop = .rightBrace := closes
      rw [if_pos closes, if_pos otherCloses]
    · have otherOpen : ¬ tandem.trail.kindAt list.stop = .rightBrace := closes
      rw [if_neg closes, if_neg otherOpen]

/-- A block that is opened never fails, and it ends at its brace in both runs. -/
theorem block_sustained (parts : tandem.Constituents active budget larger)
    (opens : tandem.lead.kindAt start = .leftBrace) {mark : tandem.Mark} {Shared : Nat → Prop}
    (shared : From start Shared) {F : Diagnostic → State → State → Prop} :
    tandem.Sustained (tandem.Together active (tandem.Counts mark) Shared)
      (block tandem.lead budget start) (block tandem.trail larger start)
      (tandem.Succeeded False active start mark Shared) F := by
  intro before other together outcome after run mild
  have inside : start < tandem.stream.lastIndex :=
    TokenStream.lt_lastIndex_of_kindAt_eq opens (by decide)
  have otherOpens : tandem.trail.kindAt start = .leftBrace := opens
  obtain ⟨list, final, computed, -, -⟩ := block_inversion opens run
  rw [block_run rfl opens computed] at run
  cases run
  have loop := blockItems_confined budget together.orderly opens
  rw [computed] at loop
  obtain ⟨-, stopEq, -⟩ := loop
  rw [blockItems_eq opens] at computed
  obtain ⟨otherList, otherFinal, otherComputed, corresponds, ended⟩ :=
    parts.loops _ (blockItems_sequence parts inside shared)
      (Nat.lt_of_le_of_lt (blockEnd_le inside) (fuel_enough tandem.lead (start + 1)))
      (together.mono (fun _ member => member.1) fun _ _ => id) computed
  have otherItems : blockItems tandem.trail larger start other = .ok otherList otherFinal := by
    rw [blockItems_eq otherOpens]
    exact otherComputed
  refine ⟨_, otherFinal, block_run rfl otherOpens otherItems, ?_⟩
  have outside : ∀ index,
      Since tandem.stream False start (blockMatch tandem.lead start list).stop Shared index →
        Ahead (start + 1) (blockEnd tandem.stream (start + 1))
          (blockEnd tandem.stream (start + 1)) Shared index :=
    fun index member =>
      ⟨member.1, (member.outside_block (blockMatch_ends inside stopEq)).imp_right .inl⟩
  refine ⟨blockMatch_corresponds corresponds, ended.mono outside fun _ _ counts => ?_⟩
  rw [blockMatch_recovered]
  exact tandem.extended counts

theorem block_sustains (parts : tandem.Constituents active budget larger) :
    tandem.Sustains False active start (block tandem.lead budget start)
      (block tandem.trail larger start) := by
  intro mark Shared shared
  by_cases opens : tandem.lead.kindAt start = .leftBrace
  · exact block_sustained parts opens shared
  · have leadRefused : block tandem.lead budget start = throw (.missing start (.kind .leftBrace)) :=
      refused rfl opens
    have trailRefused : block tandem.trail larger start =
        throw (.missing start (.kind .leftBrace)) := refused rfl opens
    rw [leadRefused, trailRefused]
    exact .throw fun _ _ => Together.failed

end Blocks

section Conditional

variable {tandem : Tandem} {active budget larger start : Nat}

/-- A statement inside another one, where nothing is forgotten if it remembers nothing. -/
theorem branch_sustains (parts : tandem.Constituents active budget larger)
    (inside : start ≤ tandem.stream.lastIndex) :
    tandem.Sustains (tandem.Shallow active budget) active start
      (statement tandem.lead budget start) (statement tandem.trail larger start) := by
  refine (parts.statements start inside).of_idle fun ⟨level, shallow⟩ => ?_
  obtain rfl := parts.matched.2 level
  refine ⟨statement_idle shallow, statement_idle fun deep => shallow ⟨deep.1, ?_⟩⟩
  have sameMax : tandem.trail.options.maxNesting = tandem.lead.options.maxNesting :=
    tandem.level level
  exact ⟨sameMax ▸ deep.2.limit, deep.2.stack⟩

theorem branch_sustained (parts : tandem.Constituents active budget larger) {place : Nat}
    {mark : tandem.Mark} {Shared : Nat → Prop} (inside : place ≤ tandem.stream.lastIndex)
    (shared : From place Shared) :
    tandem.Sustained (tandem.Together active (tandem.Counts mark) Shared)
      (statement tandem.lead budget place) (statement tandem.trail larger place)
      (fun found other after otherAfter => SpansKept tandem.stream place found ∧
        tandem.Succeeded (tandem.Shallow active budget) active place mark Shared found other after
          otherAfter)
      fun failure after otherAfter => Within tandem.stream place failure ∧
        tandem.Failed (tandem.Shallow active budget) active place Shared failure after
          otherAfter :=
  (branch_sustains parts inside mark Shared shared).confined
    (statement_confined tandem.lead budget place inside) fun _ _ together => together.orderly

theorem whileStatement_sustains (parts : tandem.Constituents active budget larger)
    (inside : start ≤ tandem.stream.lastIndex) :
    tandem.Sustains (tandem.Shallow active budget) active start
      (whileStatement tandem.lead (expression tandem.lead budget) (statement tandem.lead budget)
        start)
      (whileStatement tandem.trail (expression tandem.trail larger)
        (statement tandem.trail larger) start) := by
  intro mark Shared shared
  refine Sustained.bind ((expect_plain inside).step trivial) fun afterWord _ => ?_
  refine .assume fun same => .assume fun word => ?_
  subst same
  obtain ⟨rfl, word⟩ := word
  have here : Reaches tandem.stream start start := .refl inside
  have next := here.next word rfl
  refine Sustained.bind ((condition_plain parts.matched next.inside).step (shared.later next.le))
    fun _ test => ?_
  refine .assume fun same => .assume fun testSpans => ?_
  subst same
  have afterTest := next.trans testSpans.reaches
  refine Sustained.bind ((branch_sustained parts afterTest.inside
    (shared.later afterTest.le)).conseq (fun _ _ together => together) (fun _ _ _ _ post => post)
    ?_) fun body otherBody => .pure ?_
  · rintro failure after otherAfter ⟨-, failed⟩
    exact failed.mono (fun _ => Until.of_earlier afterTest.le) fun _ _ => id
  · rintro after otherAfter ⟨-, ⟨stop, recovered, node⟩, together⟩
    refine ⟨⟨stop, recovered, fun exact => ?_⟩,
      together.mono (fun _ => Since.of_earlier afterTest.le) fun _ _ => id⟩
    simp only [stop, node exact]

theorem ifStatement_sustains (parts : tandem.Constituents active budget larger)
    (inside : start ≤ tandem.stream.lastIndex) :
    tandem.Sustains (tandem.Shallow active budget) active start
      (ifStatement tandem.lead (expression tandem.lead budget) (statement tandem.lead budget)
        start)
      (ifStatement tandem.trail (expression tandem.trail larger) (statement tandem.trail larger)
        start) := by
  intro mark Shared shared
  refine Sustained.bind ((expect_plain inside).step trivial) fun afterWord _ => ?_
  refine .assume fun same => .assume fun word => ?_
  subst same
  obtain ⟨rfl, word⟩ := word
  have here : Reaches tandem.stream start start := .refl inside
  have next := here.next word rfl
  refine Sustained.bind ((condition_plain parts.matched next.inside).step (shared.later next.le))
    fun _ test => ?_
  refine .assume fun same => .assume fun testSpans => ?_
  subst same
  have afterTest := next.trans testSpans.reaches
  refine Sustained.bind ((branch_sustained parts afterTest.inside
    (shared.later afterTest.le)).conseq (fun _ _ together => together) (fun _ _ _ _ post => post)
    ?_) fun thenBranch otherThen => ?_
  · rintro failure after otherAfter ⟨-, failed⟩
    exact failed.mono (fun _ => Until.of_earlier afterTest.le) fun _ _ => id
  refine .assume fun thenSpans => ?_
  rintro before other ⟨⟨thenStop, thenRecovered, thenNode⟩, together⟩
  have afterThen := afterTest.trans thenSpans.reaches
  rw [thenStop]
  suffices tail : tandem.Sustained
      (tandem.Together active (tandem.Counts (tandem.after mark thenBranch.recovered))
        (Since tandem.stream (tandem.Shallow active budget) test.stop thenBranch.stop Shared)) _ _
      (tandem.Succeeded (tandem.Shallow active budget) active start mark Shared)
      (tandem.Failed (tandem.Shallow active budget) active start Shared) from
    tail before other together
  refine Sustained.ite (fun alternative => ?_) fun _ => .pure fun after otherAfter ended => ?_
  · have elseStart := afterThen.next alternative rfl
    have further : thenBranch.stop < tandem.stream.lastIndex := elseStart.inside
    have elseShared : From (thenBranch.stop + 1)
        (Since tandem.stream (tandem.Shallow active budget) test.stop thenBranch.stop Shared) := by
      intro index beyond
      exact ⟨shared index (Nat.le_trans elseStart.le beyond),
        .inr (.inr ⟨by omega, .inl further⟩)⟩
    refine Sustained.bind ((branch_sustained parts elseStart.inside elseShared).conseq
      (fun _ _ together => together) (fun _ _ _ _ post => post) ?_)
      fun elseBranch otherElse => .pure ?_
    · rintro failure after otherAfter ⟨within, failed⟩
      exact failed.mono (fun index =>
        Until.through afterTest.le thenSpans.reaches.le further within.depth_ge) fun _ _ => id
    · rintro after otherAfter ⟨elseSpans, ⟨elseStop, elseRecovered, elseNode⟩, ended⟩
      refine ⟨⟨elseStop, tandem.append thenRecovered elseRecovered, fun exact => ?_⟩,
        ended.mono (fun index => ?_) fun _ _ => tandem.joined⟩
      · simp only [elseStop, thenNode (tandem.exact_left exact),
          elseNode (tandem.exact_right exact)]
      · exact Since.through afterTest.le thenSpans.reaches.le further
          (Nat.lt_of_succ_lt elseSpans.lt)
  · refine ⟨⟨rfl, thenRecovered, fun exact => ?_⟩,
      ended.mono (fun _ => Since.of_earlier afterTest.le) fun _ _ => id⟩
    simp only [thenNode exact]

end Conditional

section Forms

variable {tandem : Tandem} {active budget larger start : Nat}

/-- At last a conditional statement is refused as an expression, in both runs alike. -/
theorem last_resort (parts : tandem.Constituents active budget larger)
    (inside : start ≤ tandem.stream.lastIndex)
    (hopeless : startsExpression (tandem.stream.kindAt start) = false) {Shared : Nat → Prop}
    (shared : Shared start) {failure best : Diagnostic} (deeper : failure.depth ≤ best.depth)
    {Q : Match Statement → Match Statement → State → State → Prop} :
    tandem.Sustained (tandem.Failed (tandem.Shallow active budget) active start Shared failure)
      (searching best [expressionStatement tandem.lead (expression tandem.lead budget) start])
      (searching best [expressionStatement tandem.trail (expression tandem.trail larger) start]) Q
      (tandem.Failed (tandem.Shallow active budget) active start Shared) := by
  have here : Until (tandem.Shallow active budget) start failure.depth Shared start :=
    ⟨shared, .inr (.inl (Nat.le_refl _))⟩
  have refused : tandem.Sustained
      (tandem.Together active (fun _ _ => True)
        (Until (tandem.Shallow active budget) start failure.depth Shared)) _ _ _ _ :=
    (expressionStatement_plain parts.matched inside hopeless).sustained here
  have observed := refused.observe
    (R := fun outcome => tandem.raised = false → ¬ tandem.Shallow active budget → Mild outcome) (by
      intro before other together outcome after run level deep
      obtain ⟨enough, admits⟩ := Classical.not_not.mp fun none => deep ⟨level, none⟩
      exact expressionStatement_mild rfl hopeless together.orderly inside enough
        (by rwa [together.nesting]) run)
  refine Sustained.search (G := fun found after otherAfter =>
      (tandem.raised = false → ¬ tandem.Shallow active budget →
        Mild (.error found : Outcome Statement)) ∧
      tandem.Failed (tandem.Shallow active budget) active start Shared failure after otherAfter)
    (observed.conseq (fun _ _ failed => failed) (fun _ _ _ _ post => post)
      fun _ _ _ post => ⟨post.1, post.2.2⟩) (fun _ _ _ _ impossible => impossible.2.2.1.elim) ?_ ?_
  · rintro level further after otherAfter tooDeep ⟨mild, together⟩
    have shallow : tandem.Shallow active budget :=
      Classical.byContradiction fun deep => mild level deep further rfl tooDeep
    exact together.mono (fun index member => ⟨member.1, .inl shallow⟩) fun _ _ => id
  · refine fun further _ => .throw fun after otherAfter post => ?_
    have failed : tandem.Failed _ active start Shared failure after otherAfter := post.2
    exact failed.deeper (Int.le_trans deeper (le_deepest_left best further))

theorem anyForm_if_sustains (parts : tandem.Constituents active budget larger)
    (inside : start ≤ tandem.stream.lastIndex) (word : tandem.lead.kindAt start = .ifWord) :
    tandem.Sustains (tandem.Shallow active budget) active start
      (anyForm tandem.lead (expression tandem.lead budget) (statement tandem.lead budget)
        (declaration tandem.lead budget) start)
      (anyForm tandem.trail (expression tandem.trail larger) (statement tandem.trail larger)
        (declaration tandem.trail larger) start) := by
  intro mark Shared shared
  have otherWord : tandem.trail.kindAt start = .ifWord := word
  have notWhile : tandem.lead.kindAt start ≠ .whileWord := by
    rw [word]
    decide
  have hopeless : startsExpression (tandem.lead.kindAt start) = false := by
    rw [word]
    rfl
  refine (ifStatement_sustains parts inside mark Shared shared).firstOf
    (fun _ _ _ _ _ => id) fun failure _ => ?_
  have leadRefused : whileStatement tandem.lead (expression tandem.lead budget)
      (statement tandem.lead budget) start = throw (.missing start (.kind .whileWord)) :=
    refused rfl notWhile
  have trailRefused : whileStatement tandem.trail (expression tandem.trail larger)
      (statement tandem.trail larger) start = throw (.missing start (.kind .whileWord)) :=
    refused rfl notWhile
  unfold searching
  rw [leadRefused, trailRefused, continueWith_refused, continueWith_refused,
    continueWith_conditional rfl (.inl word), continueWith_conditional rfl (.inl otherWord)]
  refine last_resort parts inside hopeless (shared start (Nat.le_refl _)) ?_
  exact Int.le_trans (le_deepest_left failure _) (le_passedOver start _ _)

theorem anyForm_while_sustains (parts : tandem.Constituents active budget larger)
    (inside : start ≤ tandem.stream.lastIndex) (word : tandem.lead.kindAt start = .whileWord) :
    tandem.Sustains (tandem.Shallow active budget) active start
      (anyForm tandem.lead (expression tandem.lead budget) (statement tandem.lead budget)
        (declaration tandem.lead budget) start)
      (anyForm tandem.trail (expression tandem.trail larger) (statement tandem.trail larger)
        (declaration tandem.trail larger) start) := by
  intro mark Shared shared
  have otherWord : tandem.trail.kindAt start = .whileWord := word
  have notIf : tandem.lead.kindAt start ≠ .ifWord := by
    rw [word]
    decide
  have hopeless : startsExpression (tandem.lead.kindAt start) = false := by
    rw [word]
    rfl
  have leadRefused : ifStatement tandem.lead (expression tandem.lead budget)
      (statement tandem.lead budget) start = throw (.missing start (.kind .ifWord)) :=
    refused rfl notIf
  have trailRefused : ifStatement tandem.trail (expression tandem.trail larger)
      (statement tandem.trail larger) start = throw (.missing start (.kind .ifWord)) :=
    refused rfl notIf
  unfold anyForm
  rw [leadRefused, trailRefused, firstOf_refused, firstOf_refused]
  refine Sustained.search (whileStatement_sustains parts inside mark Shared shared)
    (fun _ _ _ _ succeeded => succeeded.note _) (fun _ _ _ _ _ => id) fun failure _ => ?_
  unfold searching
  rw [continueWith_conditional rfl (.inr word), continueWith_conditional rfl (.inr otherWord)]
  refine last_resort parts inside hopeless (shared start (Nat.le_refl _)) ?_
  exact Int.le_trans (le_deepest_right _ failure) (le_passedOver start _ _)

theorem anyForm_block_sustains (parts : tandem.Constituents active budget larger)
    (opens : tandem.lead.kindAt start = .leftBrace) :
    tandem.Sustains False active start
      (anyForm tandem.lead (expression tandem.lead budget) (statement tandem.lead budget)
        (declaration tandem.lead budget) start)
      (anyForm tandem.trail (expression tandem.trail larger) (statement tandem.trail larger)
        (declaration tandem.trail larger) start) := by
  intro mark Shared shared
  have otherOpens : tandem.trail.kindAt start = .leftBrace := opens
  rw [anyForm_opened rfl opens, anyForm_opened rfl otherOpens]
  have wrapped : tandem.Sustained (tandem.Together active (tandem.Counts mark) Shared)
      (block tandem.lead budget start >>= fun block => pure (block.map Statement.compound))
      (block tandem.trail larger start >>= fun block => pure (block.map Statement.compound))
      (tandem.Succeeded False active start mark Shared) fun _ _ _ => False := by
    refine Sustained.bind (block_sustained parts opens shared) fun block other => .pure ?_
    rintro after otherAfter ⟨⟨stop, recovered, node⟩, together⟩
    exact ⟨⟨stop, recovered, fun exact => congrArg Statement.compound (node exact)⟩, together⟩
  exact wrapped.search (fun _ _ _ _ succeeded => succeeded.note _)
    (fun _ _ _ _ _ impossible => impossible.elim) fun _ _ _ _ impossible => impossible.elim

theorem anyForm_sustains (parts : tandem.Constituents active budget larger)
    (inside : start ≤ tandem.stream.lastIndex) :
    tandem.Sustains False active start
      (anyForm tandem.lead (expression tandem.lead budget) (statement tandem.lead budget)
        (declaration tandem.lead budget) start)
      (anyForm tandem.trail (expression tandem.trail larger) (statement tandem.trail larger)
        (declaration tandem.trail larger) start) := by
  by_cases isIf : tandem.lead.kindAt start = .ifWord
  · exact (anyForm_if_sustains parts inside isIf).weaken
  by_cases isWhile : tandem.lead.kindAt start = .whileWord
  · exact (anyForm_while_sustains parts inside isWhile).weaken
  by_cases opens : tandem.lead.kindAt start = .leftBrace
  · exact anyForm_block_sustains parts opens
  have trailSimple : anyForm tandem.trail (expression tandem.trail larger)
      (statement tandem.trail larger) (declaration tandem.trail larger) start =
        simpleForm tandem.trail (expression tandem.trail larger) start :=
    anyForm_simple rfl isIf isWhile opens
  rw [anyForm_simple rfl isIf isWhile opens, trailSimple]
  exact (simpleForm_plain parts.matched inside isIf isWhile opens).rule

theorem statementBody_sustains (parts : tandem.Constituents active budget larger)
    (inside : start ≤ tandem.stream.lastIndex) :
    tandem.Sustains False active start
      (statementBody tandem.lead (expression tandem.lead budget) (statement tandem.lead budget)
        (declaration tandem.lead budget) start)
      (statementBody tandem.trail (expression tandem.trail larger) (statement tandem.trail larger)
        (declaration tandem.trail larger) start) := by
  intro mark Shared shared
  refine Sustained.describe ((anyForm_sustains parts inside mark Shared shared).conseq
    (fun _ _ together => together) (fun _ _ _ _ post => post) fun _ _ _ post => post) ?_ ?_
  · intro failure tooDeep
    exact if_neg (by simp [tooDeep])
  · intro failure after otherAfter failed
    refine failed.deeper ?_
    unfold describeAt
    split
    · rename_i shallow
      exact shallow.1
    · exact Int.le_refl _

end Forms

section Units

variable {tandem : Tandem} {active budget larger start : Nat}

theorem statement_sustains (loops : tandem.LoopsSustain) (matched : tandem.Matched budget larger)
    (inside : start ≤ tandem.stream.lastIndex) :
    tandem.Sustains False active start (statement tandem.lead budget start)
      (statement tandem.trail larger start) := by
  induction budget generalizing larger active start with
  | zero =>
      cases larger with
      | zero =>
          exact Sustains.guarded (.tooDeep fun level =>
            congrArg (tooDeep start) (tandem.level level))
      | succ larger =>
          exact Sustains.guarded (.tooDeep fun level => nomatch matched.2 level)
  | succ budget induction =>
      obtain ⟨le, same⟩ := matched
      obtain ⟨smaller, rfl⟩ : ∃ smaller, larger = smaller + 1 := ⟨larger - 1, by omega⟩
      have below : tandem.Matched budget smaller :=
        ⟨Nat.le_of_succ_le_succ le, fun level => Nat.succ.inj (same level)⟩
      exact Sustains.guarded
        (statementBody_sustains ⟨below, loops, fun _ => induction below⟩ inside)

theorem functionDefinition_sustains (loops : tandem.LoopsSustain)
    (matched : tandem.Matched budget larger) (inside : start ≤ tandem.stream.lastIndex) :
    tandem.Sustains False active start (functionDefinition tandem.lead budget start)
      (functionDefinition tandem.trail larger start) := by
  intro mark Shared shared
  have parts : tandem.Constituents active budget larger :=
    ⟨matched, loops, fun _ => statement_sustains loops matched⟩
  refine Sustained.bind ((specifiers_plain inside).step trivial) fun _ types => ?_
  refine .assume fun same => .assume fun typesSpans => ?_
  subst same
  have afterTypes := typesSpans.reaches
  refine Sustained.bind ((declarator_plain matched afterTypes.inside).step
    (shared.later afterTypes.le)) fun _ declared => ?_
  refine .assume fun same => .assume fun declaredSpans => ?_
  subst same
  have afterDeclared := afterTypes.trans declaredSpans.reaches
  refine Sustained.ite (fun _ => ?_) fun _ => .throw fun _ _ => Together.failed
  have body := block_sustains parts mark Shared (shared.later afterDeclared.le)
  refine Sustained.bind (body.conseq (fun _ _ together => together) (fun _ _ _ _ post => post) ?_)
    fun block other => .pure ?_
  · exact fun failure after otherAfter failed =>
      failed.mono (fun _ => Until.of_earlier afterDeclared.le) fun _ _ => id
  · rintro after otherAfter ⟨⟨stop, recovered, node⟩, together⟩
    refine ⟨⟨stop, recovered, fun exact => ?_⟩,
      together.mono (fun _ => Since.of_earlier afterDeclared.le) fun _ _ => id⟩
    simp only [stop, node exact]

theorem unitItem_sustains (loops : tandem.LoopsSustain)
    (inside : start ≤ tandem.stream.lastIndex) :
    tandem.Sustains False active start (unitItem tandem.lead start)
      (unitItem tandem.trail start) :=
  have matched : tandem.Matched tandem.leadOptions.maxNesting tandem.trailOptions.maxNesting :=
    ⟨tandem.higher, tandem.level⟩
  .or_else (declaration_plain matched inside) (functionDefinition_sustains loops matched inside)

/-- Whenever the leading run comes to the end of a unit, the trailing one does, with items
and errors that correspond. -/
theorem unitItems_sustained (loops : tandem.LoopsSustain) {mark : tandem.Mark}
    (counts : tandem.Counts mark 0 0) {state after : State} {found : Match (List Declaration)}
    (run : unitItems tandem.lead state = .ok found after) :
    ∃ otherFound otherAfter, unitItems tandem.trail state = .ok otherFound otherAfter ∧
      tandem.Corresponds mark found otherFound := by
  have sequence : tandem.Sequence state.nesting 0 tandem.stream.lastIndex (fun _ => True)
      (unitItem tandem.lead) (unitItem tandem.trail) :=
    { leadConfined := fun _ within => @unitItem_confined tandem.lead _ within
      trailConfined := fun _ within => @unitItem_confined tandem.trail _ within
      sustains := fun _ => unitItem_sustains loops
      inside := Nat.le_refl _
      bounded := fun _ _ within => blockEnd_le within
      ordered := Nat.zero_le _
      shared := fun _ _ => trivial }
  have together : tandem.Together state.nesting (tandem.Counts mark)
      (Ahead 0 tandem.stream.lastIndex 0 fun _ => True) (unitStart tandem.lead state)
      (unitStart tandem.trail state) :=
    ⟨orderly_empty _, orderly_empty _, fun _ _ _ => rfl, rfl, counts, ⟨rfl, rfl⟩, rfl, rfl⟩
  obtain ⟨otherFound, otherAfter, otherRun, corresponds, -⟩ :=
    loops _ sequence (fuel_enough tandem.lead 0) together run
  exact ⟨otherFound, otherAfter, otherRun, corresponds⟩

end Units

end Tandem

end MiniC.Parser
