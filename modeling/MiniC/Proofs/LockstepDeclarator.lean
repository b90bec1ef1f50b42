import MiniC.Parser.Statement
import MiniC.Proofs.BracketScan
import MiniC.Proofs.LockstepExpression

/-!
# Declarators and declarations in lockstep

The bracket scans read the stream and nothing else, so both runs find the same
ends.  What declarators and declarations hold is parsed from open indices on.
-/

namespace MiniC.Parser

section Scans

variable {stream : TokenStream} {input : Input} {fuel index : Nat}

theorem le_of_scanForward {opened : List Pending} {close : Nat}
    (scan : scanForward stream fuel opened index = .ok (.ok close)) : index ≤ close := by
  induction fuel generalizing opened index with
  | zero => cases scan
  | succ fuel induction =>
      cases scanForward_step scan with
      | opens _ rest => exact Nat.le_of_succ_le (induction rest)
      | closesLast _ _ found => exact Nat.le_of_eq found.symm
      | closes _ _ _ rest => exact Nat.le_of_succ_le (induction rest)
      | plain _ rest => exact Nat.le_of_succ_le (induction rest)

theorem le_of_findEndFrom {stop : Nat} (scan : findEndFrom input fuel index = .ok (.ok stop)) :
    index ≤ stop := by
  induction fuel generalizing index with
  | zero => cases scan
  | succ fuel induction =>
      cases findEndFrom_step scan with
      | name _ rest => exact Nat.le_of_succ_le (induction rest)
      | group _ matched rest =>
          exact Nat.le_trans (le_of_scanForward matched) (Nat.le_of_succ_le (induction rest))
      | ended _ _ found => exact Nat.le_of_eq found.symm

theorem scanBackward_bounds {close start count opening : Nat} {closed : List Pending}
    (scan : scanBackward stream close start closed count = .ok (.ok opening)) :
    start ≤ opening ∧ opening < start + count := by
  induction count generalizing closed with
  | zero => cases scan
  | succ count induction =>
      cases scanBackward_step scan with
      | opensLast _ _ found =>
          subst found
          exact ⟨Nat.le_add_right _ _, Nat.lt_succ_self _⟩
      | closes _ rest | opens _ _ _ rest | passes _ rest =>
          exact (induction rest).imp_right Nat.lt_succ_of_lt

end Scans

namespace Pairing

section Declarators

variable {pair : Pairing} {leadResolver trailResolver : Resolver} {lead trail : Nested}
  {start stop : Nat}

theorem follows_attempt {scanned rescanned : Scanned}
    (rescans : pair.passage.Rescans scanned rescanned) :
    pair.Follows scanned.attempt rescanned.attempt fun index => scanned = .ok (.ok index) := by
  rcases rescans with rfl | ⟨part, fault, rfl⟩
  · cases scanned with
    | error fault => exact .abort
    | ok answer =>
        cases answer with
        | error failure => exact .throw rfl
        | ok index => exact .pure rfl fun _ => rfl
  · exact Tracks.spare (.inl (pair.partly part).2.1)

theorem matchForward_moved {index : Nat} (within : pair.passage.Within index) :
    pair.passage.Rescans (matchForward pair.lead index)
        (matchForward pair.trail (index + pair.offset)) ∧
      ∀ close, matchForward pair.lead index = .ok (.ok close) → pair.passage.Within (close + 1) :=
  Passage.scanForward_moved pair.fuelled within

theorem findEndFrom_moved {fuel other index : Nat} (fuelled : pair.passage.Fuelled fuel other)
    (within : pair.passage.Within index) :
    pair.passage.Rescans (findEndFrom pair.lead fuel index)
        (findEndFrom pair.trail other (index + pair.offset)) ∧
      ∀ stop, findEndFrom pair.lead fuel index = .ok (.ok stop) → pair.passage.Within stop := by
  induction fuel generalizing other index with
  | zero =>
      exact ⟨Passage.Fuelled.rescans (fun other => findEndFrom _ other _) fuelled rfl,
        fun _ scan => by cases scan⟩
  | succ fuel induction =>
      obtain ⟨smaller, rfl, further⟩ := fuelled.succ
      have same : pair.trail.stream.get? (index + pair.offset) =
          (pair.lead.stream.get? index).map pair.shift.token := pair.passage.same index within
      unfold findEndFrom
      rw [same]
      cases found : pair.lead.stream.get? index with
      | none => exact ⟨.inl rfl, fun _ scan => by cases scan⟩
      | some token =>
          simp only [Option.map_some, pair.passage.kind, Passage.next_moved]
          by_cases named : token.kind = .identifier
          · rw [if_pos named, if_pos named]
            exact induction further (within.scanned found (by rw [named]; decide))
          · rw [if_neg named, if_neg named]
            cases role : bracketRole token.kind with
            | opens bracket =>
                dsimp only
                obtain ⟨rescans, closeWithin⟩ := matchForward_moved within
                rcases rescans with same | ⟨part, fault, broken⟩
                · rw [same]
                  cases matched : matchForward pair.lead index with
                  | error fault => exact ⟨.inl rfl, fun _ scan => by cases scan⟩
                  | ok answer =>
                      cases answer with
                      | error failure => exact ⟨.inl rfl, fun _ scan => by cases scan⟩
                      | ok close =>
                          have step : moved pair.shift close + 1 = close + 1 + pair.offset :=
                            Passage.next_moved _ _
                          have next := induction further (closeWithin close matched)
                          rw [← step] at next
                          exact next
                · rw [broken]
                  exact ⟨.inr ⟨part, fault, rfl⟩, fun _ scan => by cases scan⟩
            | closes bracket | stops | plain =>
                refine ⟨.inl rfl, fun stop scan => ?_⟩
                cases scan
                exact within

/-- Shapes of declarators of the two runs, from open indices on. -/
def ResolverFollows (pair : Pairing) (lead trail : Resolver) : Prop :=
  ∀ start stop, pair.Open start → pair.passage.Within stop →
    pair.Follows (lead start stop) (trail (start + pair.offset) (stop + pair.offset))
      fun _ => True

theorem follows_declaratorAt (resolver : pair.ResolverFollows leadResolver trailResolver)
    (isOpen : pair.Open start) :
    pair.Follows (declaratorAt pair.lead leadResolver start)
      (declaratorAt pair.trail trailResolver (start + pair.offset))
      fun found => start < found.stop ∧ pair.passage.Within found.stop := by
  obtain ⟨rescans, stopWithin⟩ := findEndFrom_moved pair.fuelled isOpen.within
  refine follows_supervise (Follows.bind (follows_attempt rescans) fun stop scan => ?_)
  refine Follows.ite Nat.add_right_cancel_iff (fun _ => .throw rfl) fun nonempty => ?_
  have ends : pair.passage.Within stop :=
    within_of fun unlimited => stopWithin stop (scan unlimited)
  refine Follows.bind (resolver start stop isOpen ends) fun resolved _ =>
    .pure rfl fun unlimited => ⟨?_, ends⟩
  have ordered : start ≤ stop := le_of_findEndFrom (scan unlimited)
  simp only
  omega

theorem follows_arraySize (nested : pair.NestedFollows lead trail) {opening closing : Nat}
    (isOpen : pair.Open (opening + 1)) :
    pair.Follows (arraySize lead opening closing)
      (arraySize trail (opening + pair.offset) (closing + pair.offset)) fun _ => True := by
  unfold arraySize
  rw [Passage.next_moved]
  refine Follows.ite Nat.add_right_cancel_iff (fun _ => .pure rfl fun _ => trivial) fun _ => ?_
  refine Follows.bind (nested .assignment _ isOpen.ready) fun size begun => ?_
  exact Follows.ite Nat.add_right_cancel_iff (fun _ => .pure rfl fun _ => trivial) fun _ =>
    .throw (missing_moved fun unlimited => (begun unlimited).lt)

theorem follows_parametersFrom (resolver : pair.ResolverFollows leadResolver trailResolver)
    {closing fuel other index : Nat} (fuelled : pair.passage.Fuelled fuel other)
    (isOpen : pair.Open index) :
    pair.Follows (parametersFrom pair.lead leadResolver closing fuel index)
      (parametersFrom pair.trail trailResolver (closing + pair.offset) other
        (index + pair.offset)) fun _ => True := by
  induction fuel generalizing other index with
  | zero => exact .stalled (fun other => parametersFrom _ _ _ other _) fuelled rfl
  | succ fuel induction =>
      obtain ⟨smaller, rfl, further⟩ := fuelled.succ
      unfold parametersFrom
      refine Follows.bind (follows_specifiers isOpen.within) fun types typesEnds => ?_
      have afterTypes : pair.Open types.stop :=
        isOpen.mono fun unlimited => (typesEnds unlimited).imp_left Nat.le_of_lt
      refine Follows.bind (follows_declaratorAt resolver afterTypes) fun declarator ends => ?_
      have afterDeclarator : pair.Open declarator.stop :=
        afterTypes.mono fun unlimited => (ends unlimited).imp_left Nat.le_of_lt
      simp only [Match.stop_moved, Match.node_moved, kindAt_trail afterDeclarator.within,
        Passage.next_moved]
      refine Follows.ite Nat.add_right_cancel_iff (fun _ => .pure rfl fun _ => trivial)
        fun _ => ?_
      refine Follows.ite Iff.rfl (fun comma => ?_) fun _ =>
        .throw (missing_moved fun unlimited => (ends unlimited).1)
      exact Follows.bind (induction further (afterDeclarator.after comma rfl)) fun _ _ =>
        .pure rfl fun _ => trivial

theorem follows_parameters (resolver : pair.ResolverFollows leadResolver trailResolver)
    {opening closing : Nat} (isOpen : pair.Open (opening + 1)) :
    pair.Follows (parameters pair.lead leadResolver opening closing)
      (parameters pair.trail trailResolver (opening + pair.offset) (closing + pair.offset))
      fun _ => True := by
  unfold parameters
  rw [Passage.next_moved]
  exact Follows.ite Nat.add_right_cancel_iff (fun _ => .pure rfl fun _ => trivial) fun _ =>
    follows_parametersFrom resolver pair.fuelled isOpen

theorem matchBackward_moved (ordered : start < stop) (ends : pair.passage.Within stop) :
    pair.passage.Rescans (matchBackward pair.lead (stop - 1) start)
        (matchBackward pair.trail (stop - 1 + pair.offset) (start + pair.offset)) ∧
      ∀ opening, matchBackward pair.lead (stop - 1) start = .ok (.ok opening) →
        start ≤ opening ∧ opening < stop := by
  have count : stop - 1 + pair.offset + 1 - (start + pair.offset) = stop - 1 + 1 - start := by
    omega
  have whole : start + (stop - 1 + 1 - start) = stop := by omega
  unfold matchBackward
  rw [count]
  refine ⟨Passage.scanBackward_moved (by rwa [whole]), fun opening scan => ?_⟩
  rw [← whole]
  exact scanBackward_bounds scan

theorem follows_shape (resolver : pair.ResolverFollows leadResolver trailResolver)
    (nested : pair.NestedFollows lead trail) (isOpen : pair.Open start)
    (ends : pair.passage.Within stop) :
    pair.Follows (shape pair.lead leadResolver lead start stop)
      (shape pair.trail trailResolver trail (start + pair.offset) (stop + pair.offset))
      fun _ => True := by
  refine Follows.ite Nat.add_le_add_iff_right (fun _ => .throw rfl) fun ordered => ?_
  have before : stop + pair.offset - 1 = stop - 1 + pair.offset := by omega
  rw [before]
  refine Follows.bind (follows_tokenAt (ends.mono (Nat.sub_le _ _))) fun last _ => ?_
  have lastMoved : moved pair.shift last = pair.shift.token last := rfl
  have single : stop + pair.offset = start + pair.offset + 1 ↔ stop = start + 1 := by omega
  rw [lastMoved, pair.passage.kind]
  cases bracketRole last.kind with
  | closes bracket =>
      obtain ⟨rescans, bounds⟩ := matchBackward_moved (Nat.lt_of_not_le ordered) ends
      refine Follows.bind (follows_attempt rescans) fun opening scan => ?_
      refine Follows.ite Nat.add_right_cancel_iff (fun _ => .throw rfl) fun _ => ?_
      have openingWithin : pair.passage.Within opening :=
        within_of fun unlimited => ends.mono (Nat.le_of_lt (bounds opening (scan unlimited)).2)
      have next : pair.Open (opening + 1) := by
        refine isOpen.mono fun unlimited => ?_
        obtain ⟨lower, upper⟩ := bounds opening (scan unlimited)
        exact ⟨Nat.le_succ_of_le lower, ends.mono upper⟩
      refine Follows.bind (resolver start opening isOpen openingWithin) fun base _ => ?_
      cases bracket with
      | square =>
          exact Follows.bind (follows_arraySize nested next) fun _ _ =>
            .pure rfl fun _ => trivial
      | round =>
          refine Follows.bind (follows_parameters resolver next) fun list _ =>
            .pure ?_ fun _ => trivial
          change _ = Match.mk (Declarator.function _ _
            (DeclarationRoot.listMoved pair.shift list)) _ _
          rw [DeclarationRoot.listMoved_eq]
          rfl
  | opens bracket | stops | plain =>
      exact Follows.ite (and_congr_left fun _ => single) (fun _ => .pure rfl fun _ => trivial)
        fun _ => .throw rfl

end Declarators

/-- Nesting budgets of the two runs that go together. -/
def Matched (pair : Pairing) (budget other : Nat) : Prop :=
  (pair.limited = true ∧ budget ≤ other) ∨ (other = budget ∧ pair.SameRoom)

theorem Matched.succ {pair : Pairing} {budget other : Nat}
    (matched : pair.Matched (budget + 1) other) :
    ∃ smaller, other = smaller + 1 ∧ pair.Matched budget smaller := by
  rcases matched with ⟨limited, le⟩ | ⟨rfl, room⟩
  · exact ⟨other - 1, by omega, .inl ⟨limited, by omega⟩⟩
  · exact ⟨budget, rfl, .inr ⟨rfl, room⟩⟩

/-- Where the budgets of both runs are used up, both give up alike. -/
theorem Matched.exhausted {α : Type} [Movable α] {pair : Pairing} {start : Nat} {P : α → Prop}
    (matched : pair.Matched 0 0) :
    pair.Follows (tooDeep start pair.lead.options.maxNesting)
      (tooDeep (start + pair.offset) pair.trail.options.maxNesting) P := by
  refine follows_tooDeep ?_
  rcases matched with limited | ⟨-, room⟩
  · exact .inl limited.1
  · exact .inr (congrArg (tooDeep (start + pair.offset)) room.maxNesting)

/-- Where the budget of the leading run alone is used up, the trailing one is released. -/
theorem Matched.released {α : Type} [Movable α] {pair : Pairing} {other start levels : Nat}
    {trail : Attempt α} {P : α → Prop} (matched : pair.Matched 0 (other + 1)) :
    pair.Follows (tooDeep start levels) trail P := by
  refine follows_tooDeep (.inl ?_)
  rcases matched with limited | same
  · exact limited.1
  · exact absurd same.1 (Nat.succ_ne_zero other)

/-- Expressions of the two runs, within budgets that go together. -/
def ExpressionsFollow (pair : Pairing) : Prop :=
  ∀ budget other, pair.Matched budget other →
    pair.NestedFollows (expression pair.lead budget) (expression pair.trail other)

/-- Declarators of the two runs, from open indices on. -/
def DeclaratorsFollow (pair : Pairing) (lead trail : Nat → Attempt (Match Declarator)) : Prop :=
  ∀ start, pair.Open start →
    pair.Follows (lead start) (trail (start + pair.offset))
      fun found => start < found.stop ∧ pair.passage.Within found.stop

/-- The bodies of functions of the two runs. -/
def BodiesFollow (pair : Pairing) (lead trail : Nat → Attempt (Match Block)) : Prop :=
  ∀ start, pair.passage.Within start →
    pair.Follows (lead start) (trail (start + pair.offset)) fun _ => True

section Declarations

variable {pair : Pairing} {lead trail : Nested}
  {leadDeclared trailDeclared : Nat → Attempt (Match Declarator)}
  {leadBodies trailBodies : Nat → Attempt (Match Block)} {start : Nat}

theorem follows_initialValue (nested : pair.NestedFollows lead trail) (isOpen : pair.Open start) :
    pair.Follows (initialValue pair.lead lead start)
      (initialValue pair.trail trail (start + pair.offset))
      fun found => start ≤ found.2 ∧ pair.passage.Within found.2 := by
  unfold initialValue
  rw [kindAt_trail isOpen.within, Passage.next_moved]
  refine Follows.ite Iff.rfl (fun assigns => ?_) fun _ =>
    .pure rfl fun _ => ⟨Nat.le_refl _, isOpen.within⟩
  have next : pair.Open (start + 1) := isOpen.after assigns rfl
  refine Follows.bind (nested .assignment _ next.ready) fun value begun =>
    .pure rfl fun unlimited => ⟨?_, (begun unlimited).within⟩
  have later := (begun unlimited).lt
  simp only
  omega

theorem follows_initDeclarators (nested : pair.NestedFollows lead trail)
    (declared : pair.DeclaratorsFollow leadDeclared trailDeclared) {fuel other index : Nat}
    (fuelled : pair.passage.Fuelled fuel other) (isOpen : pair.Open index) :
    pair.Follows (initDeclarators pair.lead lead leadDeclared fuel index)
      (initDeclarators pair.trail trail trailDeclared other (index + pair.offset))
      fun found => index ≤ found.stop ∧ pair.passage.Within found.stop := by
  induction fuel generalizing other index with
  | zero => exact .stalled (fun other => initDeclarators _ _ _ other _) fuelled rfl
  | succ fuel induction =>
      obtain ⟨smaller, rfl, further⟩ := fuelled.succ
      unfold initDeclarators
      refine Follows.bind (declared index isOpen) fun first firstEnds => ?_
      have afterFirst : pair.Open first.stop :=
        isOpen.mono fun unlimited => (firstEnds unlimited).imp_left Nat.le_of_lt
      refine Follows.bind (follows_initialValue nested afterFirst) fun found ends => ?_
      obtain ⟨value, stop⟩ := found
      have later : pair.limited = false → index ≤ stop ∧ pair.passage.Within stop :=
        fun unlimited => (ends unlimited).imp_left
          (Nat.le_trans (Nat.le_of_lt (firstEnds unlimited).1))
      have afterValue : pair.Open stop := isOpen.mono later
      change pair.Follows (if pair.lead.kindAt stop = .comma then _ else _)
        (if pair.trail.kindAt (stop + pair.offset) = .comma then
          initDeclarators pair.trail trail trailDeclared smaller (stop + pair.offset + 1) >>= _
        else _) _
      rw [kindAt_trail afterValue.within, Passage.next_moved]
      refine Follows.ite Iff.rfl (fun comma => ?_) fun _ => .pure rfl later
      refine Follows.bind (induction further (afterValue.after comma rfl))
        fun rest restEnds => .pure rfl fun unlimited => ⟨?_, (restEnds unlimited).2⟩
      have first := (later unlimited).1
      have second := (restEnds unlimited).1
      simp only
      omega

theorem follows_declaredItems (nested : pair.NestedFollows lead trail)
    (declared : pair.DeclaratorsFollow leadDeclared trailDeclared) (isOpen : pair.Open start) :
    pair.Follows (declaredItems pair.lead lead leadDeclared start)
      (declaredItems pair.trail trail trailDeclared (start + pair.offset))
      fun found => start ≤ found.stop ∧ pair.passage.Within found.stop :=
  Follows.ite (by rw [kindAt_trail isOpen.within])
    (fun _ => .pure rfl fun _ => ⟨Nat.le_refl _, isOpen.within⟩) fun _ =>
    follows_initDeclarators nested declared pair.fuelled isOpen

theorem follows_plainDeclaration (nested : pair.NestedFollows lead trail)
    (declared : pair.DeclaratorsFollow leadDeclared trailDeclared) (isOpen : pair.Open start) :
    pair.Follows (plainDeclaration pair.lead lead leadDeclared start)
      (plainDeclaration pair.trail trail trailDeclared (start + pair.offset)) fun _ => True := by
  refine follows_supervise ?_
  refine Follows.bind (follows_specifiers isOpen.within) fun types typesEnds => ?_
  have afterTypes : pair.Open types.stop :=
    isOpen.mono fun unlimited => (typesEnds unlimited).imp_left Nat.le_of_lt
  refine Follows.bind (follows_declaredItems nested declared afterTypes) fun list listEnds => ?_
  have later : pair.limited = false → start < list.stop := fun unlimited =>
    Nat.lt_of_lt_of_le (typesEnds unlimited).1 (listEnds unlimited).1
  refine Follows.bind (follows_expect (within_of fun unlimited => (listEnds unlimited).2)
    (placed_after later)) fun stop _ => .pure ?_ fun _ => trivial
  change _ = Match.mk (Declaration.mk _ (DeclarationRoot.mk _ _
    (InitDeclarator.listMoved pair.shift list.node)) _) _ _
  rw [InitDeclarator.listMoved_eq]
  rfl

theorem follows_definition (declared : pair.DeclaratorsFollow leadDeclared trailDeclared)
    (bodies : pair.BodiesFollow leadBodies trailBodies) (isOpen : pair.Open start) :
    pair.Follows (definition pair.lead leadDeclared leadBodies start)
      (definition pair.trail trailDeclared trailBodies (start + pair.offset))
      fun _ => True := by
  refine follows_supervise ?_
  refine Follows.bind (follows_specifiers isOpen.within) fun types typesEnds => ?_
  have afterTypes : pair.Open types.stop :=
    isOpen.mono fun unlimited => (typesEnds unlimited).imp_left Nat.le_of_lt
  refine Follows.bind (declared _ afterTypes) fun first firstEnds => ?_
  refine Follows.ite (by rw [← Declarator.isFunction_moved pair.shift first.node]; rfl)
    (fun _ => ?_) fun _ => .throw rfl
  refine Follows.bind (bodies first.stop (within_of fun unlimited => (firstEnds unlimited).2))
    fun body _ => .pure rfl fun _ => trivial

end Declarations

section Tied

variable {pair : Pairing} {start budget other : Nat}

theorem follows_resolve (expressions : pair.ExpressionsFollow)
    (matched : pair.Matched budget other) :
    pair.ResolverFollows (resolve pair.lead budget) (resolve pair.trail other) := by
  induction budget generalizing other with
  | zero =>
      intro start stop isOpen ends
      cases other with
      | zero => exact follows_supervise (follows_guarded matched.exhausted)
      | succ other => exact follows_supervise (follows_guarded matched.released)
  | succ budget induction =>
      intro start stop isOpen ends
      obtain ⟨smaller, rfl, below⟩ := matched.succ
      exact follows_supervise (follows_guarded
        (follows_shape (induction below) (expressions budget smaller below) isOpen ends))

theorem follows_declarator (expressions : pair.ExpressionsFollow)
    (matched : pair.Matched budget other) :
    pair.DeclaratorsFollow (declarator pair.lead budget) (declarator pair.trail other) :=
  fun _ isOpen => follows_declaratorAt (follows_resolve expressions matched) isOpen

theorem follows_declaration (expressions : pair.ExpressionsFollow)
    (matched : pair.Matched budget other) (isOpen : pair.Open start) :
    pair.Follows (declaration pair.lead budget start)
      (declaration pair.trail other (start + pair.offset)) fun _ => True :=
  follows_plainDeclaration (expressions budget other matched)
    (follows_declarator expressions matched) isOpen

end Tied

section Simple

variable {pair : Pairing} {lead trail : Nested} {start : Nat}

theorem follows_condition (nested : pair.NestedFollows lead trail) (isOpen : pair.Open start) :
    pair.Follows (condition pair.lead lead start)
      (condition pair.trail trail (start + pair.offset)) fun _ => True := by
  refine follows_supervise ?_
  refine Follows.bind (follows_expect isOpen.within fun _ => .inr rfl) fun first opens => ?_
  have next : pair.Open first := by
    refine isOpen.mono fun unlimited => ?_
    obtain ⟨rfl, opening⟩ := opens unlimited
    exact ⟨Nat.le_succ _, isOpen.within.after opening rfl⟩
  refine Follows.bind (nested .assignment first next.ready) fun value begun => ?_
  exact Follows.bind (follows_expect (next.ready.after begun).within
    (placed_after fun unlimited => (begun unlimited).lt)) fun stop _ =>
    .pure rfl fun _ => trivial

theorem follows_returnStatement (nested : pair.NestedFollows lead trail)
    (within : pair.passage.Within start)
    (further : pair.passage.leadStream.kindAt start = .returnWord → pair.Open (start + 1)) :
    pair.Follows (returnStatement pair.lead lead start)
      (returnStatement pair.trail trail (start + pair.offset)) fun _ => True := by
  refine follows_supervise (follows_expect_bind within (fun _ => .inr rfl) fun word => ?_)
  have next := further word
  rw [kindAt_trail next.within, Passage.next_moved]
  refine Follows.ite Iff.rfl (fun _ => .pure ?_ fun _ => trivial) fun _ => ?_
  · rw [Passage.next_moved]
    rfl
  refine Follows.bind (nested .assignment _ next.ready) fun value begun => ?_
  have missing : Diagnostic.missing ((value.stop + pair.offset : Nat) : Int) (.kind .semicolon) =
      moved pair.shift (Diagnostic.missing value.stop (.kind .semicolon)) :=
    missing_moved fun unlimited => (begun unlimited).lt
  simp only [Match.stop_moved, kindAt_trail (next.ready.after begun).within,
    Passage.next_moved]
  refine Follows.ite Iff.rfl (fun _ => .pure rfl fun _ => trivial) fun _ =>
    .pure ?_ fun _ => trivial
  change _ = Match.mk _ _ [moved pair.shift (Diagnostic.missing value.stop (.kind .semicolon))]
  rw [← missing]
  rfl

theorem follows_wordStatement {word : Kind} {build : Option Span → Statement}
    (placed : word.isReportedAfter = false ∨ ¬ pair.passage.Partial)
    (inner : endsPart word = false ∨ ¬ pair.passage.Partial)
    (builds : ∀ span, build (pair.shift.span span) = moved pair.shift (build span))
    (within : pair.passage.Within start) :
    pair.Follows (wordStatement pair.lead word build start)
      (wordStatement pair.trail word build (start + pair.offset)) fun _ => True := by
  have placedHere : pair.passage.Partial → 0 < start ∨ word.isReportedAfter = false :=
    fun part => .inr (placed.resolve_right (not_not_intro part))
  refine follows_supervise ?_
  refine Follows.bind (follows_expect within placedHere) fun afterWord found => ?_
  have next : pair.passage.Within afterWord := by
    refine within_of fun unlimited => ?_
    obtain ⟨rfl, here⟩ := found unlimited
    by_cases part : pair.passage.Partial
    · exact within.after here (inner.resolve_right (not_not_intro part))
    · exact Passage.within_of_whole part
  have later : pair.limited = false → start < afterWord := fun unlimited => by
    obtain ⟨rfl, -⟩ := found unlimited
    exact Nat.lt_succ_self _
  refine Follows.bind (follows_expect next (placed_after later)) fun stop _ =>
    .pure ?_ fun _ => trivial
  change _ = Match.mk (moved pair.shift (build (covering start stop))) _ _
  rw [← builds]
  rfl

theorem follows_emptyStatement (within : pair.passage.Within start)
    (positive : pair.passage.Partial → 0 < start) :
    pair.Follows (emptyStatement pair.lead start)
      (emptyStatement pair.trail (start + pair.offset)) fun _ => True :=
  follows_supervise (Follows.bind (follows_expect within fun part => .inl (positive part))
    fun _ _ => .pure rfl fun _ => trivial)

theorem follows_expressionStatement (nested : pair.NestedFollows lead trail)
    (ready : pair.Ready start) :
    pair.Follows (expressionStatement pair.lead lead start)
      (expressionStatement pair.trail trail (start + pair.offset)) fun _ => True := by
  refine follows_supervise ?_
  refine Follows.bind (nested .assignment start ready) fun value begun => ?_
  exact Follows.bind (follows_expect (ready.after begun).within
    (placed_after fun unlimited => (begun unlimited).lt)) fun stop _ =>
    .pure rfl fun _ => trivial

end Simple

end Pairing

end MiniC.Parser
