import MiniC.Proofs.LockstepLoop

/-!
# Statements and units in lockstep

A statement inside a block ends in it, and the blocks of a part of a stream end in the
part.  A statement never stands at the very start of a stream, where what is missing is
reported in another way.  So statements are parsed in lockstep where the recovery loops
are.

In a uniform pairing both runs read the same stream, and have the same error limit and
count, report and trace the same.  Then whole units are parsed in lockstep.
-/

namespace MiniC.Parser

/-- What a run of the parser hands back: the unit with the errors reported, or the
fault that broke it off. -/
def answer : EStateM.Result Fault State CompilationUnit →
    Except Fault (CompilationUnit × List Diagnostic)
  | .ok unit after => .ok (unit, after.reported)
  | .error fault _ => .error fault

namespace Pairing

/-- Statements of the two runs, inside blocks. -/
def StatementsFollow (pair : Pairing) (lead trail : Nat → Attempt (Match Statement)) : Prop :=
  ∀ start, pair.passage.Enclosed start →
    pair.Follows (lead start) (trail (start + pair.offset)) fun _ => True

/-- Declarations of the two runs. -/
def DeclarationsFollow (pair : Pairing) (lead trail : Nat → Attempt (Match Declaration)) : Prop :=
  ∀ start, pair.passage.Within start →
    pair.Follows (lead start) (trail (start + pair.offset)) fun _ => True

/-- What the rules of statements are built from, in both runs. -/
structure Constituents (pair : Pairing) (lead trail : Nested)
    (inner outer : Nat → Attempt (Match Statement))
    (leadDeclarations trailDeclarations : Nat → Attempt (Match Declaration)) : Prop where
  loops : pair.LoopsFollow
  shared : ∀ index, pair.Shared index
  nested : pair.NestedFollows lead trail
  nestedConfined : NestedConfined pair.lead lead
  statements : pair.StatementsFollow inner outer
  statementsConfined : StatementsConfined pair.lead inner
  declarations : pair.DeclarationsFollow leadDeclarations trailDeclarations
  declarationsConfined : DeclarationsConfined pair.lead leadDeclarations

section Enclosure

variable {α : Type} {pair : Pairing} {start : Nat}

theorem isOpen_of (shared : ∀ index, pair.Shared index) (within : pair.passage.Within start) :
    pair.Open start :=
  ⟨within, fun _ later _ => shared later⟩

theorem enclosed_of (enclosed : pair.limited = false → pair.passage.Enclosed start) :
    pair.passage.Enclosed start :=
  Passage.enclosed_of_partial fun part => enclosed (pair.partly part).1

/-- What is confined to a block is followed by something in that block. -/
theorem Follows.enclosed {lead trail : Attempt (Match α)} [Movable α] {P : Match α → Prop}
    (follows : pair.Follows lead trail P) (enclosed : pair.passage.Enclosed start)
    {Ends : Match α → Prop} (ends : ∀ found, Ends found → Spans pair.lead.stream start found)
    (confined : start ≤ pair.lead.stream.lastIndex →
      Confined pair.lead.stream start lead Ends) :
    pair.Follows lead trail fun found => pair.passage.Enclosed found.stop :=
  (follows.confined fun part => confined (enclosed.inside part)).mono fun _ found both =>
    Passage.enclosed_of_partial fun _ =>
      enclosed.reaches fun part => (ends found (both.2 part)).reaches

end Enclosure

section Statements

variable {pair : Pairing} {lead trail : Nested} {inner outer : Nat → Attempt (Match Statement)}
  {leadDeclarations trailDeclarations : Nat → Attempt (Match Declaration)} {start : Nat}

theorem follows_blockItem (statements : pair.StatementsFollow inner outer)
    (declarations : pair.DeclarationsFollow leadDeclarations trailDeclarations)
    (enclosed : pair.passage.Enclosed start) :
    pair.Follows (blockItem inner leadDeclarations start)
      (blockItem outer trailDeclarations (start + pair.offset)) fun _ => True :=
  follows_firstOf
    (Follows.bind (declarations start enclosed.within) fun _ _ => .pure rfl fun _ => trivial)
    (.cons (statements start enclosed) .nil)

theorem follows_items
    (parts : pair.Constituents lead trail inner outer leadDeclarations trailDeclarations)
    {description : String} (within : pair.passage.Within start)
    (opens : pair.passage.leadStream.kindAt start = .leftBrace) :
    pair.Follows
      (liftM (items pair.lead (blockItem inner leadDeclarations) description (start + 1)
        (matchingBrace pair.lead start)) : Attempt (Match (List Statement)))
      (liftM (items pair.trail (blockItem outer trailDeclarations) description
        (start + 1 + pair.offset) (matchingBrace pair.trail (start + pair.offset))))
      fun list => pair.passage.Partial →
        list.stop = blockEnd pair.passage.leadStream (start + 1) := by
  have startInside : start + 1 ≤ pair.passage.leadStream.lastIndex :=
    TokenStream.lt_lastIndex_of_kindAt_eq opens (by decide)
  have limitEq : matchingBrace pair.lead start = blockEnd pair.lead.stream (start + 1) :=
    matchingBrace_eq opens
  have trailOpens : pair.trail.kindAt (start + pair.offset) = .leftBrace :=
    (kindAt_trail within).trans opens
  have limitWithin := Passage.within_blockEnd within opens
  have trailLimit : matchingBrace pair.trail (start + pair.offset) =
      blockEnd pair.lead.stream (start + 1) + pair.offset := by
    rw [matchingBrace_eq trailOpens, Passage.next_moved]
    exact Passage.blockEnd_moved startInside limitWithin
  have steady : Confined pair.lead.stream start
      (liftM (items pair.lead (blockItem inner leadDeclarations) description (start + 1)
        (matchingBrace pair.lead start)) : Attempt (Match (List Statement))) _ :=
    .lift (items_steady parts.statementsConfined parts.declarationsConfined opens)
  have loop : pair.Follows
      (liftM (items pair.lead (blockItem inner leadDeclarations) description (start + 1)
        (matchingBrace pair.lead start)) : Attempt (Match (List Statement)))
      (liftM (items pair.trail (blockItem outer trailDeclarations) description
        (start + 1 + pair.offset) (matchingBrace pair.trail (start + pair.offset))))
      fun _ => True := by
    unfold items
    rw [limitEq, trailLimit]
    refine .lift (parts.loops limitWithin (blockEnd_le startInside)
      (fun _ => blockItem_confined parts.statementsConfined parts.declarationsConfined)
      (fun index known => follows_blockItem parts.statements parts.declarations
        (Passage.enclosed_of_partial fun part => ?_)) pair.fuelled)
    exact Passage.enclosed_block within opens (known part).1 (known part).2
  exact (loop.confined fun _ => steady).mono fun _ list ends part => (ends.2 part).1

theorem follows_compound
    (parts : pair.Constituents lead trail inner outer leadDeclarations trailDeclarations)
    (within : pair.passage.Within start) :
    pair.Follows (compound pair.lead inner leadDeclarations start)
      (compound pair.trail outer trailDeclarations (start + pair.offset)) fun _ => True := by
  refine follows_supervise (follows_expect_bind within (fun _ => .inr rfl) fun opens => ?_)
  refine Follows.bind (follows_items parts within opens) fun list ends => ?_
  have startInside : start + 1 ≤ pair.passage.leadStream.lastIndex :=
    TokenStream.lt_lastIndex_of_kindAt_eq opens (by decide)
  have stopEq : pair.passage.Partial →
      list.stop = blockEnd pair.passage.leadStream (start + 1) :=
    fun part => ends (pair.partly part).1 part
  have stopWithin : pair.passage.Within list.stop := by
    refine Passage.within_of_partial fun part => ?_
    rw [stopEq part]
    exact Passage.within_blockEnd within opens
  have placed : pair.passage.Partial → 0 < list.stop ∨ Kind.rightBrace.isReportedAfter = false :=
    fun part => .inl (by
      rw [stopEq part]
      exact Nat.lt_of_lt_of_le (Nat.succ_pos start) (le_blockEnd startInside))
  have unclosed : moved pair.shift (Diagnostic.missing list.stop (.kind .rightBrace)) =
      Diagnostic.missing ((list.stop + pair.offset : Nat) : Int) (.kind .rightBrace) :=
    Diagnostic.missing_kind_moved pair.shift (pair.passage.placed placed)
  simp only [Match.stop_moved, kindAt_trail stopWithin, Passage.next_moved]
  refine Follows.ite Iff.rfl (fun _ => .pure ?_ fun _ => trivial) fun _ =>
    .pure ?_ fun _ => trivial
  · change _ = Match.mk (Block.mk _ (Statement.listMoved pair.shift list.node)) _ _
    rw [Statement.listMoved_eq]
    rfl
  · change _ = Match.mk (Block.mk _ (Statement.listMoved pair.shift list.node)) _
      (moved pair.shift (list.recovered ++ [Diagnostic.missing list.stop (.kind .rightBrace)]))
    rw [Statement.listMoved_eq, moved_append, moved_cons, unclosed]
    rfl

theorem follows_conditional
    (parts : pair.Constituents lead trail inner outer leadDeclarations trailDeclarations)
    (enclosed : pair.passage.Enclosed start) :
    pair.Follows (condition pair.lead lead start)
      (condition pair.trail trail (start + pair.offset))
      fun test => pair.passage.Enclosed test.stop :=
  (follows_condition parts.nested (isOpen_of parts.shared enclosed.within)).enclosed enclosed
    (fun _ spans => spans) (condition_confined parts.nestedConfined)

theorem follows_branch
    (parts : pair.Constituents lead trail inner outer leadDeclarations trailDeclarations)
    (enclosed : pair.passage.Enclosed start) :
    pair.Follows (inner start) (outer (start + pair.offset))
      fun found => pair.passage.Enclosed found.stop :=
  (parts.statements start enclosed).enclosed enclosed (fun _ spans => spans.toSpans)
    (parts.statementsConfined start)

theorem follows_ifStatement
    (parts : pair.Constituents lead trail inner outer leadDeclarations trailDeclarations)
    (enclosed : pair.passage.Enclosed start) :
    pair.Follows (ifStatement pair.lead lead inner start)
      (ifStatement pair.trail trail outer (start + pair.offset)) fun _ => True := by
  refine follows_supervise (follows_expect_bind enclosed.within (fun _ => .inr rfl)
    fun word => ?_)
  refine Follows.bind (follows_conditional parts (enclosed.next word rfl)) fun test ends => ?_
  refine Follows.bind (follows_branch parts (enclosed_of ends)) fun thenBranch afterThen => ?_
  have thenEnclosed := enclosed_of afterThen
  simp only [Match.stop_moved, kindAt_trail thenEnclosed.within, Passage.next_moved]
  refine Follows.ite Iff.rfl (fun word => ?_) fun _ => .pure rfl fun _ => trivial
  refine Follows.bind (parts.statements _ (thenEnclosed.next word rfl)) fun elseBranch _ =>
    .pure ?_ fun _ => trivial
  change _ = Match.mk _ _ (moved pair.shift (thenBranch.recovered ++ elseBranch.recovered))
  rw [moved_append]
  rfl

theorem follows_whileStatement
    (parts : pair.Constituents lead trail inner outer leadDeclarations trailDeclarations)
    (enclosed : pair.passage.Enclosed start) :
    pair.Follows (whileStatement pair.lead lead inner start)
      (whileStatement pair.trail trail outer (start + pair.offset)) fun _ => True := by
  refine follows_supervise (follows_expect_bind enclosed.within (fun _ => .inr rfl)
    fun word => ?_)
  refine Follows.bind (follows_conditional parts (enclosed.next word rfl)) fun test ends => ?_
  exact Follows.bind (parts.statements _ (enclosed_of ends)) fun body _ =>
    .pure rfl fun _ => trivial

theorem follows_anyForm
    (parts : pair.Constituents lead trail inner outer leadDeclarations trailDeclarations)
    (enclosed : pair.passage.Enclosed start) :
    pair.Follows (anyForm pair.lead lead inner leadDeclarations start)
      (anyForm pair.trail trail outer trailDeclarations (start + pair.offset))
      fun _ => True := by
  have isOpen := isOpen_of parts.shared enclosed.within
  have positive : pair.passage.Partial → 0 < start := fun part => enclosed.positive part
  refine follows_firstOf (follows_ifStatement parts enclosed) ?_
  refine .cons (follows_whileStatement parts enclosed) (.cons ?_ (.cons ?_ (.cons ?_
    (.cons ?_ (.cons (follows_emptyStatement enclosed.within positive) (.cons ?_ .nil))))))
  · exact follows_returnStatement parts.nested enclosed.within fun word =>
      isOpen_of parts.shared (enclosed.within.after word rfl)
  · exact follows_wordStatement (.inl rfl) (.inl rfl) (fun _ => rfl) enclosed.within
  · exact follows_wordStatement (.inl rfl) (.inl rfl) (fun _ => rfl) enclosed.within
  · exact Follows.bind (follows_compound parts enclosed.within) fun _ _ =>
      .pure rfl fun _ => trivial
  · exact follows_expressionStatement parts.nested isOpen.ready

theorem follows_statementBody
    (parts : pair.Constituents lead trail inner outer leadDeclarations trailDeclarations)
    (enclosed : pair.passage.Enclosed start) :
    pair.Follows (statementBody pair.lead lead inner leadDeclarations start)
      (statementBody pair.trail trail outer trailDeclarations (start + pair.offset))
      fun _ => True :=
  Follows.describe (follows_anyForm parts enclosed) (describeAt_moved pair.shift start _)

end Statements

/-- Recovery loops and expressions of the two runs, whatever is inside them. -/
structure Grounds (pair : Pairing) : Prop where
  loops : pair.LoopsFollow
  shared : ∀ index, pair.Shared index
  expressions : pair.ExpressionsFollow

section Tied

variable {pair : Pairing} {budget other start : Nat}

theorem declarations_follow (grounds : pair.Grounds) (matched : pair.Matched budget other) :
    pair.DeclarationsFollow (declaration pair.lead budget) (declaration pair.trail other) :=
  fun _ within => follows_declaration grounds.expressions matched
    (isOpen_of grounds.shared within)

/-- Statements within budgets that go together, from the statements inside them. -/
theorem constituents (grounds : pair.Grounds) (matched : pair.Matched budget other)
    (statements : pair.StatementsFollow (statement pair.lead budget)
      (statement pair.trail other)) :
    pair.Constituents (expression pair.lead budget) (expression pair.trail other)
      (statement pair.lead budget) (statement pair.trail other)
      (declaration pair.lead budget) (declaration pair.trail other) where
  loops := grounds.loops
  shared := grounds.shared
  nested := grounds.expressions budget other matched
  nestedConfined := expression_confined pair.lead budget
  statements := statements
  statementsConfined := statement_confined pair.lead budget
  declarations := declarations_follow grounds matched
  declarationsConfined _ := declaration_confined budget

theorem statements_follow (grounds : pair.Grounds) (matched : pair.Matched budget other) :
    pair.StatementsFollow (statement pair.lead budget) (statement pair.trail other) := by
  induction budget generalizing other with
  | zero =>
      intro start _
      cases other with
      | zero => exact follows_supervise (follows_guarded matched.exhausted)
      | succ other => exact follows_supervise (follows_guarded matched.released)
  | succ budget induction =>
      intro start enclosed
      obtain ⟨smaller, rfl, below⟩ := matched.succ
      exact follows_supervise (follows_guarded
        (follows_statementBody (constituents grounds below (induction below)) enclosed))

theorem follows_block (grounds : pair.Grounds) (matched : pair.Matched budget other) :
    pair.BodiesFollow (block pair.lead budget) (block pair.trail other) :=
  fun _ within =>
    follows_compound (constituents grounds matched (statements_follow grounds matched)) within

theorem follows_functionDefinition (grounds : pair.Grounds) (matched : pair.Matched budget other)
    (within : pair.passage.Within start) :
    pair.Follows (functionDefinition pair.lead budget start)
      (functionDefinition pair.trail other (start + pair.offset)) fun _ => True :=
  follows_definition (follows_declarator grounds.expressions matched)
    (follows_block grounds matched) (isOpen_of grounds.shared within)

theorem follows_unitItem (grounds : pair.Grounds)
    (matched : pair.Matched pair.leadOptions.maxNesting pair.trailOptions.maxNesting)
    (within : pair.passage.Within start) :
    pair.Follows (unitItem pair.lead start) (unitItem pair.trail (start + pair.offset))
      fun _ => True :=
  follows_firstOf (declarations_follow grounds matched start within)
    (.cons (follows_functionDefinition grounds matched within) .nil)

theorem tracks_unitItems (grounds : pair.Grounds)
    (matched : pair.Matched pair.leadOptions.maxNesting pair.trailOptions.maxNesting)
    (within : pair.passage.Within pair.lead.stream.lastIndex) {fuel other : Nat}
    (fuelled : pair.passage.Fuelled fuel other) :
    pair.Tracks
      (itemsFrom pair.lead (unitItem pair.lead) "declaration" pair.lead.stream.lastIndex fuel 0)
      (itemsFrom pair.trail (unitItem pair.trail) "declaration" pair.trail.stream.lastIndex other
        pair.offset)
      fun _ => True := by
  have sameLast : pair.trail.stream.lastIndex = pair.lead.stream.lastIndex + pair.offset :=
    Passage.lastIndex_moved within
  have rounds : pair.Tracks
      (itemsFrom pair.lead (unitItem pair.lead) "declaration" pair.lead.stream.lastIndex fuel 0)
      (itemsFrom pair.trail (unitItem pair.trail) "declaration"
        (pair.lead.stream.lastIndex + pair.offset) other (0 + pair.offset)) fun _ => True :=
    grounds.loops within (Nat.le_refl _) (fun _ => unitItem_confined)
      (fun index known => follows_unitItem grounds matched (Passage.within_of_partial fun part =>
        within.mono (Nat.le_of_lt (known part).2))) fuelled
  rw [Nat.zero_add] at rounds
  rw [sameLast]
  exact rounds

end Tied

/-- The two runs differ in nothing but their supervision, their memory and their room for
guarded rules. -/
structure Uniform (pair : Pairing) : Prop where
  still : pair.shift = .still
  whole : ¬ pair.passage.Partial
  maxErrors : pair.trailOptions.maxErrors = pair.leadOptions.maxErrors
  ledgers : ∀ first second, pair.Ledgers first second ↔ second = first
  shared : ∀ index, pair.Shared index

namespace Uniform

variable {pair : Pairing}

theorem recovers (uniform : pair.Uniform) : pair.Recovers where
  maxErrors := uniform.maxErrors
  lines token := by rw [uniform.still]; rfl
  itself _ ledger := (uniform.ledgers _ _).mpr rfl
  counted ledgers := by
    rw [(uniform.ledgers _ _).mp ledgers]
    exact ⟨rfl, rfl⟩
  recount count ledgers := by
    rw [uniform.ledgers, (uniform.ledgers _ _).mp ledgers]
  traced event ledgers := by
    rw [uniform.ledgers, (uniform.ledgers _ _).mp ledgers, uniform.still, Movable.moved_still]

theorem grounds (uniform : pair.Uniform) (expressions : pair.ExpressionsFollow) : pair.Grounds :=
  ⟨uniform.recovers.loops, uniform.shared, expressions⟩

theorem within (uniform : pair.Uniform) (index : Nat) : pair.passage.Within index :=
  Passage.within_of_whole uniform.whole

end Uniform

section Units

variable {pair : Pairing} {start : Nat}

theorem tracks_report (uniform : pair.Uniform) {reported : List Diagnostic} :
    pair.Tracks (modify fun state => { state with reported })
      (modify fun state => { state with reported }) fun _ => True := by
  refine Tracks.write ⟨fun _ => rfl, fun _ => rfl, fun _ => rfl, fun _ => rfl⟩
    ⟨fun _ => rfl, fun _ => rfl, fun _ => rfl, fun _ => rfl⟩ fun state other ledgers => ?_
  have same := (uniform.ledgers _ _).mp ledgers
  have count : other.errorCount = state.errorCount := congrArg Ledger.errorCount same
  have trace : other.trace = state.trace := congrArg Ledger.trace same
  rw [uniform.ledgers]
  simp [State.ledger, count, trace]

theorem tracks_readUnit (uniform : pair.Uniform) (expressions : pair.ExpressionsFollow)
    (matched : pair.Matched pair.leadOptions.maxNesting pair.trailOptions.maxNesting)
    (sameName : pair.trailOptions.filename = pair.leadOptions.filename) :
    pair.Tracks (readUnit pair.lead) (readUnit pair.trail) fun _ => True := by
  have unmoved : pair.offset = 0 := Passage.unmoved uniform.whole
  have sameSize : pair.trail.stream.size = pair.lead.stream.size :=
    pair.passage.size_whole uniform.whole
  have sameLast : pair.trail.stream.lastIndex = pair.lead.stream.lastIndex := by
    have sameLast := Passage.lastIndex_moved (uniform.within pair.lead.stream.lastIndex)
    rwa [show pair.passage.offset = 0 from unmoved] at sameLast
  have stays : ∀ {α : Type} [Movable α] (thing : α), moved pair.shift thing = thing := by
    intro α _ thing
    rw [uniform.still, Movable.moved_still]
  have rounds := tracks_unitItems (uniform.grounds expressions) matched (uniform.within _)
    pair.fuelled
  rw [unmoved] at rounds
  have maxErrors : pair.trail.options.maxErrors = pair.lead.options.maxErrors :=
    uniform.maxErrors
  change pair.Tracks (record (.started pair.lead.stream.size pair.leadOptions.filename) >>= _)
    (record (.started pair.trail.stream.size pair.trailOptions.filename) >>= _) _
  rw [sameName, sameSize]
  refine Tracks.bind (tracks_record uniform.recovers _) fun _ _ => ?_
  refine Tracks.bind rounds fun list _ => ?_
  rw [stays list, sameLast]
  dsimp only
  rw [maxErrors]
  refine Tracks.bind (tracks_report uniform) fun _ _ => ?_
  refine Tracks.bind (tracks_record uniform.recovers _) fun _ _ => ?_
  exact .pure (stays _).symm fun _ => trivial

/-- Whole units are parsed in lockstep, whether or not the nesting limit was met before. -/
theorem parse_lockstep_from (uniform : pair.Uniform) (expressions : pair.ExpressionsFollow)
    (matched : pair.Matched pair.leadOptions.maxNesting pair.trailOptions.maxNesting)
    (sameName : pair.trailOptions.filename = pair.leadOptions.filename)
    (empty : pair.Memos .empty .empty) {state other : State}
    (allows : pair.Allows state.nesting other.nesting) (sameTrace : other.trace = state.trace) :
    pair.Lost (parse pair.lead state) ∨
      pair.Alike { Background.of state with noted := [] } { Background.of other with noted := [] }
        (fun _ => True) (parse pair.lead state) (parse pair.trail other) := by
  have started : pair.Linked { Background.of state with noted := [] }
      { Background.of other with noted := [] }
      { state with memo := .empty, noted := [], peak := 0, errorCount := 0, reported := [] }
      { other with memo := .empty, noted := [], peak := 0, errorCount := 0, reported := [] } :=
    ⟨⟨⟨empty, (uniform.ledgers _ _).mpr (by simp [State.ledger, sameTrace])⟩, rfl, rfl⟩,
      ⟨[], rfl, rfl⟩, false, by simp [Background.of], by simp [Background.of]⟩
  exact (tracks_readUnit uniform expressions matched sameName).alike _ _ _ _ allows started

theorem parse_lockstep (uniform : pair.Uniform) (expressions : pair.ExpressionsFollow)
    (matched : pair.Matched pair.leadOptions.maxNesting pair.trailOptions.maxNesting)
    (sameName : pair.trailOptions.filename = pair.leadOptions.filename)
    (empty : pair.Memos .empty .empty) (state : State)
    (allows : pair.Allows state.nesting state.nesting) :
    pair.Lost (parse pair.lead state) ∨
      pair.Alike { Background.of state with noted := [] } { Background.of state with noted := [] }
        (fun _ => True) (parse pair.lead state) (parse pair.trail state) :=
  parse_lockstep_from uniform expressions matched sameName empty allows rfl

theorem Alike.answer_eq (uniform : pair.Uniform) {leadBase trailBase : Background}
    {P : CompilationUnit → Prop} {lead trail : EStateM.Result Fault State CompilationUnit}
    (alike : pair.Alike leadBase trailBase P lead trail) : answer trail = answer lead := by
  cases lead with
  | error fault after =>
      obtain ⟨last, rfl, -⟩ := alike.broken
      rfl
  | ok unit after =>
      obtain ⟨last, rfl, -, linked⟩ := alike.same uniform.still
      have same := (uniform.ledgers _ _).mp linked.ledgers
      have reported : last.reported = after.reported := congrArg Ledger.reported same
      simp only [answer, reported]

end Units

end Pairing

end MiniC.Parser
