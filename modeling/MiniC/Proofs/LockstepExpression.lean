import MiniC.Proofs.ConfinedExpression
import MiniC.Proofs.Lockstep

/-!
# Expressions in lockstep

Whatever two ways there are to parse the expressions inside a rule, if one
tracks the other, so do the rules built on them.  What is left to the pairing is
how the remembered strata look up their results.
-/

namespace MiniC.Parser.Pairing

section Primitives

variable {α : Type} [Movable α] {pair : Pairing} {start stop : Nat}

theorem Tracks.alone {lead trail : Engine α} {P : α → Prop} {leadBase trailBase : Background}
    {before other : State} (tracks : pair.Tracks lead trail P)
    (allows : pair.Allows leadBase.nesting trailBase.nesting)
    (linked : pair.Linked leadBase trailBase before other) :
    pair.Lost (lead { before with noted := [], limitFelt := false }) ∨
      pair.Alike { nesting := leadBase.nesting } { nesting := trailBase.nesting } P
        (lead { before with noted := [], limitFelt := false })
        (trail { other with noted := [], limitFelt := false }) :=
  tracks.alike _ _ _ _ allows linked.alone

theorem tracks_isolated {lead trail : Engine α} {P : α → Prop}
    (tracks : pair.Tracks lead trail P) :
    pair.Tracks (isolated lead) (isolated trail) fun result => P result.value := by
  refine ⟨?_, ?_⟩
  · intro state gaveUp
    unfold isolated
    cases lead { state with noted := [], limitFelt := false } with
    | ok value after => exact ⟨gaveUp.1, by simp [gaveUp.2]⟩
    | error fault after => exact .inr ⟨gaveUp.1, by simp [gaveUp.2]⟩
  · intro leadBase trailBase before other allows linked
    have run := tracks.alone allows linked
    unfold isolated
    cases leadRun : lead { before with noted := [], limitFelt := false } with
    | error fault after =>
        rw [leadRun] at run
        rcases run with lost | alike
        · exact .inl (lost.imp_right fun gaveUp => ⟨gaveUp.1, by simp [gaveUp.2]⟩)
        · obtain ⟨otherAfter, trailRun, returned⟩ := alike.broken
          rw [trailRun]
          exact .inr ⟨rfl, ⟨returned.memos, returned.ledgers⟩, returned.leadNesting,
            returned.trailNesting⟩
    | ok value after =>
        rw [leadRun] at run
        rcases run with lost | alike
        · exact .inl ⟨lost.1, by simp [lost.2]⟩
        · obtain ⟨otherAfter, trailRun, post, ended⟩ := alike.answered
          rw [trailRun]
          refine .inr ⟨?_, post, linked.restored [] ended⟩
          rw [ended.superseded, ended.sameFelt rfl]
          rfl

/-- Running a rule anew, and remembering its result, in both runs. -/
theorem tracks_anew {stratum : Stratum} {lead trail : Attempt (Match Expr)}
    {P : Match Expr → Prop} (follows : pair.Follows lead trail P)
    (insertion : ∀ (before after : State) (last other : Memo) (outcome : Outcome Expr),
      pair.Memos before.memo other →
      lead.run { before with noted := [], limitFelt := false } = .ok outcome after →
      after.limitFelt = false → pair.Memos after.memo last →
      (pair.limited = false → OnMatch P outcome) →
      pair.Memos (after.memo.insert stratum start ⟨outcome, after.superseded⟩)
        (last.insert stratum (start + pair.offset)
          (moved pair.shift ⟨outcome, after.superseded⟩))) :
    pair.Tracks (anew stratum start lead) (anew stratum (start + pair.offset) trail)
      (OnMatch P) := by
  refine ⟨fun state gaveUp => ?_, fun leadBase trailBase before other allows linked => ?_⟩
  · have lost := (tracks_isolated follows).givesUp state gaveUp
    unfold isolated at lost
    cases run : lead.run { state with noted := [], limitFelt := false } with
    | error fault after =>
        rw [run] at lost
        rw [anew_fault run]
        exact lost
    | ok outcome after =>
        rw [anew_ok run]
        exact ⟨gaveUp.1, by simp [gaveUp.2]⟩
  · have run := Tracks.alone follows allows linked
    cases leadRun : lead.run { before with noted := [], limitFelt := false } with
    | error fault after =>
        rw [leadRun] at run
        rw [anew_fault leadRun]
        rcases run with lost | alike
        · exact .inl (lost.imp_right fun gaveUp => ⟨gaveUp.1, by simp [gaveUp.2]⟩)
        · obtain ⟨last, trailRun, returned⟩ := alike.broken
          rw [anew_fault trailRun]
          exact .inr ⟨rfl, ⟨returned.memos, returned.ledgers⟩, returned.leadNesting,
            returned.trailNesting⟩
    | ok outcome after =>
        rw [leadRun] at run
        rw [anew_ok leadRun]
        rcases run with lost | alike
        · exact .inl ⟨lost.1, by simp [lost.2]⟩
        · obtain ⟨last, trailRun, post, ended⟩ := alike.answered
          have restored := linked.restored after.superseded.toList ended
          have sameFelt := ended.sameFelt rfl
          rw [anew_ok trailRun]
          refine .inr ⟨rfl, post, ?_⟩
          rw [ended.superseded, ← moved_toList]
          cases felt : after.limitFelt with
          | true =>
              rw [felt] at sameFelt
              simp only [felt, sameFelt] at restored ⊢
              exact restored
          | false =>
              rw [felt] at sameFelt
              have kept := insertion before after last.memo other.memo outcome linked.memos
                leadRun felt ended.memos post
              simp only [felt, sameFelt] at restored ⊢
              exact ⟨⟨⟨kept, restored.ledgers⟩, restored.leadNesting, restored.trailNesting⟩,
                restored.noted, restored.felt⟩

/-- A loop over the leading stream and one over the trailing stream. -/
theorem fuelled (pair : Pairing) : pair.passage.Fuelled pair.lead.fuel pair.trail.fuel :=
  Passage.fuelled

theorem placed_after {kind : Kind} (later : pair.limited = false → start < stop)
    (part : pair.passage.Partial) : 0 < stop ∨ kind.isReportedAfter = false :=
  .inl (Nat.zero_lt_of_lt (later (pair.partly part).1))

theorem missing_moved {kind : Kind} {others : List Expectation}
    (later : pair.limited = false → start < stop) :
    Diagnostic.missing ((stop + pair.offset : Nat) : Int) (.kind kind) others =
      moved pair.shift (Diagnostic.missing stop (.kind kind) others) :=
  (Diagnostic.missing_kind_moved _ (pair.passage.placed (placed_after later))).symm

theorem follows_specifiers (within : pair.passage.Within start) :
    pair.Follows (specifiers pair.lead start) (specifiers pair.trail (start + pair.offset))
      fun found => start < found.stop ∧ pair.passage.Within found.stop := by
  have ample : ∀ last ∈ pair.passage.last?, last < start + pair.lead.fuel := by
    intro last known
    have inside := (pair.passage.part last known).inside
    have enough := fuel_enough pair.lead start
    exact Nat.lt_of_le_of_lt inside enough
  obtain ⟨same, ends⟩ := Passage.specifierRun_moved within ample pair.fuelled
  have sameRun : specifierRun pair.trail.stream pair.trail.fuel (start + pair.offset) =
      moved pair.shift (specifierRun pair.lead.stream pair.lead.fuel start) := same
  refine follows_supervise (Follows.bind (follows_tokenAt within) fun token _ => ?_)
  dsimp only
  rw [sameRun]
  refine Follows.ite (by simp [moved]) (fun _ => .throw rfl) fun some => .pure ?_ fun _ => ?_
  · simp only [moved, List.length_map, Nat.add_right_comm]
    rfl
  · have positive : 0 < (specifierRun pair.lead.stream pair.lead.fuel start).length := by
      rw [List.length_pos_iff]
      simpa using some
    exact ⟨Nat.lt_add_of_pos_right positive, ends⟩

end Primitives

/-- Expressions of the two runs, from every start that is ready. -/
def NestedFollows (pair : Pairing) (lead trail : Nested) : Prop :=
  ∀ stratum start, pair.Ready start →
    pair.Follows (lead stratum start) (trail stratum (start + pair.offset)) (pair.Begins start)

section Strata

variable {pair : Pairing} {lead trail : Nested} {start : Nat}

theorem follows_assignmentForm (nested : pair.NestedFollows lead trail)
    (ready : pair.Ready start) :
    pair.Follows (assignmentForm pair.lead lead start)
      (assignmentForm pair.trail trail (start + pair.offset)) (pair.Begins start) := by
  refine follows_supervise ?_
  refine Follows.bind (nested .unary start ready) fun target begun => ?_
  have isOpen := ready.after begun
  simp only [Match.stop_moved, kindAt_trail isOpen.within, Passage.next_moved]
  cases denotes : AssignOperator.ofKind? (pair.lead.kindAt target.stop) with
  | none => exact .throw rfl
  | some operator =>
      have further : pair.Open (target.stop + 1) :=
        isOpen.mono fun _ => ⟨Nat.le_succ _, isOpen.within.operator denotes ⟨rfl, rfl, rfl⟩⟩
      refine Follows.bind (nested .assignment _ further.ready) fun value valueBegun => ?_
      refine .pure rfl fun unlimited => ?_
      have first := (begun unlimited).lt
      have second := (valueBegun unlimited).lt
      exact ⟨by simp only; omega, (begun unlimited).starts, (valueBegun unlimited).within⟩

theorem follows_climb {lead trail : Nat → Attempt (Match Expr)}
    (operand : ∀ index, pair.Open index →
      pair.Follows (lead index) (trail (index + pair.offset)) (pair.Begins index))
    {fuel other minLevel index : Nat} {left : Expr} (fuelled : pair.passage.Fuelled fuel other)
    (isOpen : pair.Open index) :
    pair.Follows (climb pair.lead lead fuel minLevel start left index)
      (climb pair.trail trail other minLevel (start + pair.offset) (moved pair.shift left)
        (index + pair.offset))
      fun found => index ≤ found.stop ∧ pair.passage.Within found.stop := by
  induction fuel generalizing other minLevel start left index with
  | zero => exact .stalled (fun other => climb _ _ other _ _ _ _) fuelled rfl
  | succ fuel induction =>
      obtain ⟨smaller, rfl, further⟩ := fuelled.succ
      have ends : pair.limited = false → index ≤ index ∧ pair.passage.Within index :=
        fun _ => ⟨Nat.le_refl _, isOpen.within⟩
      unfold climb
      rw [kindAt_trail isOpen.within]
      cases denotes : BinaryOperator.ofKind? (pair.lead.kindAt index) with
      | none => exact .pure rfl ends
      | some operator =>
          refine Follows.ite Iff.rfl (fun _ => .pure rfl ends) fun _ => ?_
          have next : pair.Open (index + 1) :=
            isOpen.mono fun _ => ⟨Nat.le_succ _, isOpen.within.operator denotes ⟨rfl, rfl, rfl⟩⟩
          rw [Passage.next_moved]
          refine Follows.bind (operand (index + 1) next) fun first firstBegun => ?_
          have afterFirst := next.ready.after firstBegun
          refine Follows.bind (induction further afterFirst) fun right rightEnds => ?_
          have afterRight := afterFirst.mono rightEnds
          refine (induction further afterRight).mono fun unlimited found foundEnds => ?_
          have firstLater := (firstBegun unlimited).lt
          have rightLater := (rightEnds unlimited).1
          exact ⟨by have := foundEnds.1; omega, foundEnds.2⟩

theorem follows_binary (nested : pair.NestedFollows lead trail) {minLevel : Nat}
    (ready : pair.Ready start) :
    pair.Follows (binary pair.lead lead minLevel start)
      (binary pair.trail trail minLevel (start + pair.offset)) (pair.Begins start) := by
  refine follows_supervise ?_
  refine Follows.bind (nested .cast start ready) fun first begun => ?_
  refine (follows_climb (fun index isOpen => nested .cast index isOpen.ready) pair.fuelled
    (ready.after begun)).mono fun unlimited found ends => ?_
  exact ⟨Nat.lt_of_lt_of_le (begun unlimited).lt ends.1, (begun unlimited).starts, ends.2⟩

/-- A cast from any index on, whatever token stands there. -/
theorem follows_castForm_open (nested : pair.NestedFollows lead trail)
    (isOpen : pair.Open (start + 1)) :
    pair.Follows (castForm pair.lead lead start)
      (castForm pair.trail trail (start + pair.offset))
      fun found => start < found.stop ∧ pair.passage.Within found.stop := by
  refine follows_supervise ?_
  rw [Passage.next_moved]
  refine Follows.bind (follows_specifiers isOpen.within) fun types typesEnds => ?_
  have afterTypes : pair.Open types.stop :=
    isOpen.mono fun unlimited => (typesEnds unlimited).imp_left Nat.le_of_lt
  refine Follows.bind (follows_expect afterTypes.within
    (placed_after fun unlimited => (typesEnds unlimited).1)) fun next closes => ?_
  have later : pair.Open next := by
    refine afterTypes.mono fun unlimited => ?_
    obtain ⟨rfl, closing⟩ := closes unlimited
    exact ⟨Nat.le_succ _, afterTypes.within.after closing rfl⟩
  refine Follows.bind (nested .cast next later.ready) fun operand begun => ?_
  refine .pure rfl fun unlimited => ?_
  have first := (typesEnds unlimited).1
  have second := (closes unlimited).1
  have third := (begun unlimited).lt
  exact ⟨by simp only; omega, (begun unlimited).within⟩

theorem follows_castForm (nested : pair.NestedFollows lead trail) (ready : pair.Ready start)
    (opens : pair.passage.leadStream.kindAt start = .leftParen) :
    pair.Follows (castForm pair.lead lead start)
      (castForm pair.trail trail (start + pair.offset)) (pair.Begins start) := by
  have starts : startsExpression (pair.passage.leadStream.kindAt start) = true := by
    rw [opens]
    rfl
  exact (follows_castForm_open nested (ready.next starts)).mono
    fun unlimited found ends => ⟨ends.1, starts, ends.2⟩

theorem follows_argumentsFrom (nested : pair.NestedFollows lead trail) {fuel other index : Nat}
    (fuelled : pair.passage.Fuelled fuel other) (isOpen : pair.Open index) :
    pair.Follows (argumentsFrom pair.lead lead fuel index)
      (argumentsFrom pair.trail trail other (index + pair.offset))
      fun found => index < found.stop ∧ pair.passage.Within found.stop := by
  induction fuel generalizing other index with
  | zero => exact .stalled (fun other => argumentsFrom _ _ other _) fuelled rfl
  | succ fuel induction =>
      obtain ⟨smaller, rfl, further⟩ := fuelled.succ
      unfold argumentsFrom
      refine Follows.bind (nested .assignment index isOpen.ready) fun argument begun => ?_
      have afterArgument := isOpen.ready.after begun
      simp only [Match.stop_moved, kindAt_trail afterArgument.within, Passage.next_moved]
      cases found : pair.lead.kindAt argument.stop
      case rightParen =>
        refine .pure rfl fun unlimited => ?_
        have later := (begun unlimited).lt
        exact ⟨by simp only; omega, afterArgument.within.after found rfl⟩
      case comma =>
        refine Follows.bind (induction further (afterArgument.after found rfl))
          fun rest restEnds => .pure rfl fun unlimited => ?_
        have later := (begun unlimited).lt
        have restLater := (restEnds unlimited).1
        exact ⟨by simp only; omega, (restEnds unlimited).2⟩
      all_goals exact .throw (missing_moved fun unlimited => (begun unlimited).lt)

theorem follows_arguments (nested : pair.NestedFollows lead trail) (isOpen : pair.Open (start + 1)) :
    pair.Follows (arguments pair.lead lead start)
      (arguments pair.trail trail (start + pair.offset))
      fun found => start < found.stop ∧ pair.passage.Within found.stop := by
  have further : start + pair.offset + 2 = start + 2 + pair.offset := Nat.add_right_comm _ _ _
  refine follows_supervise ?_
  rw [Passage.next_moved pair.offset start, further]
  refine Follows.ite (by rw [kindAt_trail isOpen.within])
    (fun closes => .pure rfl fun _ => ⟨?_, ?_⟩) fun _ => ?_
  · simp only
    omega
  · exact isOpen.within.after closes rfl
  · exact (follows_argumentsFrom nested pair.fuelled isOpen).mono
      fun _ found ends => ⟨Nat.lt_of_succ_lt ends.1, ends.2⟩

theorem follows_primary (nested : pair.NestedFollows lead trail) (ready : pair.Ready start) :
    pair.Follows (primary pair.lead lead start)
      (primary pair.trail trail (start + pair.offset)) (pair.Begins start) := by
  refine follows_supervise ?_
  refine Follows.bind (follows_tokenAt ready.within) fun token found => ?_
  have tokenMoved : moved pair.shift token = pair.shift.token token := rfl
  dsimp only
  rw [tokenMoved, pair.passage.kind, pair.passage.lexeme, Passage.constant_moved,
    Passage.next_moved]
  have begins : ∀ {node : Expr}, startsExpression token.kind = true →
      pair.limited = false → pair.Begins start { node, stop := start + 1 } := by
    intro node starts unlimited
    have startsHere : startsExpression (pair.passage.leadStream.kindAt start) = true := by
      rw [TokenStream.kindAt_of_get? (found unlimited)]
      exact starts
    exact ⟨Nat.lt_succ_self _, startsHere, (ready.next startsHere).within⟩
  cases tokenKind : token.kind
  case identifier | stringLiteral => exact .pure rfl (begins (by rw [tokenKind]; rfl))
  case integerConstant | doubleConstant | charConstant =>
    cases token.constant with
    | number value => exact .pure rfl (begins (by rw [tokenKind]; rfl))
    | tooLarge => exact .abort
    | invalid => exact .throw rfl
  case leftParen =>
    have opening : pair.limited = false → pair.Begins (α := Expr) start
        { node := .identifier none "", stop := start + 1 } := begins (by rw [tokenKind]; rfl)
    have next : pair.Open (start + 1) := ready.after opening
    refine Follows.bind (nested .assignment _ next.ready) fun inner begun => ?_
    have afterInner := next.ready.after begun
    refine Follows.bind (follows_expect afterInner.within
      (placed_after fun unlimited => (begun unlimited).lt)) fun stop closes => ?_
    refine .pure rfl fun unlimited => ?_
    obtain ⟨rfl, closing⟩ := closes unlimited
    have later := (begun unlimited).lt
    exact ⟨by simp only; omega, (opening unlimited).starts, afterInner.within.after closing rfl⟩
  all_goals exact .throw rfl

theorem follows_suffixes (nested : pair.NestedFollows lead trail) {fuel other index : Nat}
    {node : Expr} (fuelled : pair.passage.Fuelled fuel other) (isOpen : pair.Open index) :
    pair.Follows (suffixes pair.lead lead fuel start node index)
      (suffixes pair.trail trail other (start + pair.offset) (moved pair.shift node)
        (index + pair.offset))
      fun found => index ≤ found.stop ∧ pair.passage.Within found.stop := by
  induction fuel generalizing other node index with
  | zero => exact .stalled (fun other => suffixes _ _ other _ _ _) fuelled rfl
  | succ fuel induction =>
      obtain ⟨smaller, rfl, further⟩ := fuelled.succ
      unfold suffixes
      rw [kindAt_trail isOpen.within, Passage.next_moved]
      cases found : pair.lead.kindAt index
      case leftBracket =>
        have next : pair.Open (index + 1) := isOpen.after found rfl
        refine Follows.bind (nested .assignment _ next.ready) fun subscript begun => ?_
        have afterSubscript := next.ready.after begun
        refine Follows.bind (follows_expect afterSubscript.within
          (placed_after fun unlimited => (begun unlimited).lt)) fun stop closes => ?_
        have later : pair.limited = false → index ≤ stop ∧ pair.passage.Within stop := by
          intro unlimited
          obtain ⟨rfl, closing⟩ := closes unlimited
          have ahead := (begun unlimited).lt
          exact ⟨by omega, afterSubscript.within.after closing rfl⟩
        refine (induction further (isOpen.mono later)).mono fun unlimited found ends => ?_
        exact ⟨Nat.le_trans (later unlimited).1 ends.1, ends.2⟩
      case leftParen =>
        refine Follows.bind (follows_arguments nested (isOpen.after found rfl))
          fun list listEnds => ?_
        have step : Expr.call (covering (start + pair.offset) (moved pair.shift list).stop)
            (moved pair.shift node) (moved pair.shift list).node =
              moved pair.shift (Expr.call (covering start list.stop) node list.node) := by
          change _ = Expr.call _ _ (Expr.listMoved pair.shift list.node)
          rw [Expr.listMoved_eq]
          rfl
        have later : pair.limited = false → index ≤ list.stop ∧ pair.passage.Within list.stop :=
          fun unlimited => (listEnds unlimited).imp_left Nat.le_of_lt
        rw [step]
        refine (induction further (isOpen.mono later)).mono fun unlimited found ends => ?_
        exact ⟨Nat.le_trans (later unlimited).1 ends.1, ends.2⟩
      all_goals exact .pure rfl fun _ => ⟨Nat.le_refl _, isOpen.within⟩

theorem follows_suffixed (nested : pair.NestedFollows lead trail) (ready : pair.Ready start) :
    pair.Follows (suffixed pair.lead lead start)
      (suffixed pair.trail trail (start + pair.offset)) (pair.Begins start) := by
  refine follows_supervise ?_
  refine Follows.bind (follows_primary nested ready) fun first begun => ?_
  refine (follows_suffixes nested pair.fuelled (ready.after begun)).mono
    fun unlimited found ends => ?_
  exact ⟨Nat.lt_of_lt_of_le (begun unlimited).lt ends.1, (begun unlimited).starts, ends.2⟩

theorem follows_expressionBody (nested : pair.NestedFollows lead trail) (stratum : Stratum)
    (ready : pair.Ready start) :
    pair.Follows (expressionBody pair.lead lead stratum start)
      (expressionBody pair.trail trail stratum (start + pair.offset)) (pair.Begins start) := by
  cases stratum with
  | assignment =>
      exact follows_firstOf (follows_assignmentForm nested ready)
        (.cons (follows_binary nested ready) .nil)
  | cast =>
      unfold expressionBody
      dsimp only
      rw [kindAt_trail ready.within, Passage.next_moved]
      refine Follows.ite (and_congr_right fun opens => ?_) (fun both => ?_)
        fun _ => nested .unary start ready
      · rw [kindAt_trail (ready.within.after opens rfl)]
      · exact follows_firstOf (follows_castForm nested ready both.1)
          (.cons (nested .unary start ready) .nil)
  | unary =>
      unfold expressionBody
      dsimp only
      rw [kindAt_trail ready.within, Passage.next_moved]
      cases denotes : UnaryOperator.ofKind? (pair.lead.kindAt start) with
      | none => exact follows_suffixed nested ready
      | some operator =>
          have starts : startsExpression (pair.passage.leadStream.kindAt start) = true :=
            startsExpression_of_unary denotes
          have next := ready.next starts
          refine Follows.bind (nested .cast _ next.ready) fun operand begun => ?_
          refine .pure rfl fun unlimited => ⟨?_, starts, (begun unlimited).within⟩
          have later := (begun unlimited).lt
          simp only
          omega

end Strata

end MiniC.Parser.Pairing
