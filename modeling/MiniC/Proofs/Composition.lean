import MiniC.Proofs.Derivations
import MiniC.Proofs.ErrorFree
import MiniC.Proofs.Relocation

/-!
# Units one after the other

Tokens that make a unit without errors may be put before another stream.  The loop over
the joined stream first goes through the rounds of the first unit, and nothing is left of
them when it comes to the other stream: no failure is noted, no error is counted and
nothing is remembered for the indices from there on.  So it then goes through the rounds
of the other stream, with everything moved along.
-/

namespace MiniC.Parser

/-! ## Derived units are closed -/

/-- A range that ends with a token that ends declarations or blocks, and in which every
block is closed. -/
structure Closed (stream : TokenStream) (start stop : Nat) : Prop where
  ends : start < stop → endsPart (stream.kindAt (stop - 1)) = true
  blocks : ∀ index, start ≤ index → index < stop → stream.kindAt index = .leftBrace →
    blockEnd stream (index + 1) < stop

section Closed

variable {stream : TokenStream} {start middle stop : Nat} {attachment : Attachment}

theorem Closed.append (first : Closed stream start middle) (second : Closed stream middle stop)
    (ordered : middle ≤ stop) : Closed stream start stop := by
  refine ⟨fun some => ?_, fun index lower upper opens => ?_⟩
  · rcases Nat.lt_or_eq_of_le ordered with more | same
    · exact second.ends more
    · subst same
      exact first.ends some
  · rcases Nat.lt_or_ge index middle with before | behind
    · exact Nat.lt_of_lt_of_le (first.blocks index lower before opens) ordered
    · exact second.blocks index behind upper opens

theorem Balanced.unopened (balanced : Balanced stream start stop) {index : Nat}
    (lower : start ≤ index) (upper : index < stop) : stream.kindAt index ≠ .leftBrace := by
  intro opens
  apply balanced.passed lower upper
  rw [opens]
  rfl

theorem Balanced.closed (balanced : Balanced stream start stop)
    (semicolon : stream.kindAt stop = .semicolon) : Closed stream start (stop + 1) := by
  refine ⟨fun _ => by rw [Nat.add_sub_cancel, semicolon]; rfl, ?_⟩
  intro index lower upper opens
  by_cases last : index = stop
  · rw [last, semicolon] at opens
    cases opens
  · exact absurd opens (balanced.unopened lower (by omega))

theorem DerivesDeclaration.closed {tree : Declaration}
    (derived : DerivesDeclaration stream tree start stop) : Closed stream start stop := by
  cases derived with
  | bare specified semicolon => exact specified.balanced.closed semicolon
  | declared specified items semicolon =>
      exact (specified.balanced.append items.balanced).closed semicolon

theorem DerivesDefinition.closed {tree : Declaration}
    (derived : DerivesDefinition stream attachment tree start stop) :
    Closed stream start stop := by
  cases derived with
  | @define _ _ opening _ _ _ _ specified declared _ body =>
      cases body with
      | @block _ last trees opens items closes =>
          have inside : opening < stream.lastIndex :=
            TokenStream.lt_lastIndex_of_kindAt_eq opens (by decide)
          have reached := items.reaches inside
          have blockEq : blockEnd stream (opening + 1) = last := by
            rw [← reached.level, blockEnd_close closes]
          refine ⟨fun _ => by rw [Nat.add_sub_cancel, closes]; rfl, ?_⟩
          intro index lower upper opensHere
          rcases Nat.lt_or_ge index opening with before | behind
          · have balanced := specified.balanced.append declared.balanced
            exact absurd opensHere (balanced.unopened lower before)
          · have notLast : index ≠ last := by
              rintro rfl
              rw [closes] at opensHere
              cases opensHere
            have nested : blockEnd stream (index + 1) ≤ blockEnd stream (opening + 1) :=
              blockEnd_mono (by omega) (by omega) inside
            omega

theorem DerivesDeclarations.closed {trees : List Declaration}
    (derived : DerivesDeclarations stream attachment trees start stop) :
    start ≤ stop ∧ Closed stream start stop := by
  induction derived with
  | nil => exact ⟨Nat.le_refl _, fun none => absurd none (Nat.lt_irrefl _), by omega⟩
  | declaration first _ induction =>
      exact ⟨Nat.le_trans (Nat.le_of_lt first.lt) induction.1,
        first.closed.append induction.2 induction.1⟩
  | @definition start middle stop tree rest first _ induction =>
      have ordered : start ≤ middle := by
        cases first with
        | define specified declared _ body =>
            have later := body.advances
            simp only [Clause.Advances] at later
            have := specified.lt
            have := declared.lt
            omega
      exact ⟨Nat.le_trans ordered induction.1, first.closed.append induction.2 induction.1⟩

end Closed

/-! ## The rounds of the first unit -/

/-- Put declarations before the items that follow. -/
def prependItems {α : Type} (nodes : List α) (rest : Match (List α)) : Match (List α) :=
  { rest with node := nodes ++ rest.node }

theorem mapValue_keepItem {α : Type} {found : Match α} {nodes : List α}
    (clean : found.recovered = []) (result : EStateM.Result Fault State (Match (List α))) :
    mapValue (keepItem found) (mapValue (prependItems nodes) result) =
      mapValue (prependItems (found.node :: nodes)) result := by
  cases result with
  | error fault after => rfl
  | ok rest after => simp [mapValue, keepItem, prependItems, clean]

theorem mapValue_prependNothing {α : Type}
    (result : EStateM.Result Fault State (Match (List α))) :
    mapValue (prependItems []) result = result := by
  cases result <;> rfl

namespace Passage

variable {α : Type} [Movable α] {item otherItem : Nat → Attempt (Match α)}
  {description : String} {farther last : Nat} {passage : Passage} {options : ParserOptions}
  {stack : Option Nat} {leadBase trailBase : Pairing.Background}

/-- Rounds without errors, up to the end mark of the leading stream, are the first rounds of
a loop that goes farther. -/
theorem rounds_prepended (known : passage.last? = some last)
    (whole : passage.leadStream.lastIndex = last + 1)
    (beyond : passage.leadStream.lastIndex + passage.offset ≤ farther)
    (confined : ∀ index, index ≤ passage.leadStream.lastIndex →
      Confined passage.leadStream index (item index) (SpansKept passage.leadStream index))
    (follows : ∀ index, passage.Within index →
      (passage.reading options stack).Follows (item index) (otherItem (index + passage.offset))
        fun _ => True)
    {index : Nat} {before after other : State} {list : Match (List α)}
    (rounds : Rounds (passage.reading options stack).lead item description
      passage.leadStream.lastIndex index before list after)
    (inside : index ≤ passage.leadStream.lastIndex) (clean : list.recovered = [])
    (uncounted : before.errorCount = 0) (same : trailBase.nesting = leadBase.nesting)
    (linked : (passage.reading options stack).Linked leadBase trailBase before other) :
    ∃ used final, used + index ≤ passage.leadStream.lastIndex ∧
      (passage.reading options stack).Linked leadBase trailBase after final ∧
      ∀ fuel, itemsFrom (passage.reading options stack).trail otherItem description farther
          (fuel + used) (index + passage.offset) other =
        mapValue (prependItems (moved passage.shift list.node))
          (itemsFrom (passage.reading options stack).trail otherItem description farther fuel
            (passage.leadStream.lastIndex + passage.offset) final) := by
  induction rounds generalizing other with
  | @done index state done =>
      have atEnd : index = passage.leadStream.lastIndex := Nat.le_antisymm inside done
      refine ⟨0, other, by omega, linked, fun fuel => ?_⟩
      rw [← atEnd]
      exact (mapValue_prependNothing _).symm
  | @full index state more reached =>
      have positive := options.maxErrors_pos
      have within : options.maxErrors ≤ state.reported.length + state.errorCount :=
        of_decide_eq_true reached
      have unreported : state.reported = [] := linked.ledgers.leadNone
      rw [unreported, uncounted] at within
      exact absurd positive (Nat.not_lt_of_le within)
  | @kept index state between final found rest more below run tail induction =>
      have clean : found.recovered ++ rest.recovered = [] := clean
      obtain ⟨foundClean, restClean⟩ := List.append_eq_nil_iff.mp clean
      have movedClean : (moved passage.shift found).recovered = [] := congrArg _ foundClean
      have orderly : Orderly passage.leadStream state.memo :=
        linked.memos.orderly (partial_iff.mpr ⟨last, known⟩)
      obtain ⟨effect, answers⟩ := (confined index inside).ran run orderly
      have spans : SpansKept passage.leadStream index found := answers
      have later := spans.lt
      have within : passage.Within index := by
        intro other same
        obtain rfl : last = other := Option.some.inj (known.symm.trans same)
        omega
      obtain ⟨otherBetween, trailRun, -, resumed⟩ :=
        reading_item (follows index within) same linked run
      have count : state.errorCount + found.recovered.length = 0 := by
        rw [uncounted, foundClean]
        rfl
      have otherCount : other.errorCount + (moved passage.shift found).recovered.length =
          state.errorCount + found.recovered.length := by
        have counted : other.errorCount = state.errorCount := linked.ledgers.count
        rw [counted, movedClean, foundClean]
      obtain ⟨used, otherLast, enough, lastLinked, further⟩ :=
        induction spans.inside restClean count (reading_counting resumed otherCount)
      refine ⟨used + 1, otherLast, by omega, lastLinked, fun fuel => ?_⟩
      have trailMore : ¬ farther ≤ index + passage.offset := by omega
      have trailBelow := (reading_limitReached linked.ledgers).trans below
      calc
        itemsFrom (passage.reading options stack).trail otherItem description farther
            (fuel + used + 1) (index + passage.offset) other =
          mapValue (keepItem (moved passage.shift found))
            (itemsFrom (passage.reading options stack).trail otherItem description farther
              (fuel + used) (found.stop + passage.offset) _) :=
          itemsFrom_kept trailMore trailBelow trailRun
        _ = mapValue (keepItem (moved passage.shift found))
            (mapValue (prependItems (moved passage.shift rest.node))
              (itemsFrom (passage.reading options stack).trail otherItem description farther fuel
                (passage.leadStream.lastIndex + passage.offset) otherLast)) :=
          congrArg (mapValue _) (further fuel)
        _ = _ := mapValue_keepItem movedClean _
  | skipped => cases clean

end Passage

/-! ## Streams one after the other -/

section Joined

variable {front tail : List Token} {stream alone rest whole : TokenStream} {index : Nat}

theorem get?_front (tokens : stream.tokens.toList = front ++ tail) (before : index < front.length) :
    stream.get? index = front[index]? := by
  unfold TokenStream.get?
  rw [← Array.getElem?_toList, tokens, List.getElem?_append_left before]

theorem get?_tail (tokens : stream.tokens.toList = front ++ tail) :
    stream.get? (index + front.length) = tail[index]? := by
  unfold TokenStream.get?
  rw [← Array.getElem?_toList, tokens, List.getElem?_append_right (Nat.le_add_left _ _),
    Nat.add_sub_cancel]

theorem size_joined (tokens : stream.tokens.toList = front ++ tail) :
    stream.size = front.length + tail.length := by
  unfold TokenStream.size
  rw [← Array.length_toList, tokens, List.length_append]

theorem lastIndex_alone {mark : Token} (tokens : alone.tokens.toList = front ++ [mark]) :
    alone.lastIndex = front.length := by
  have size := size_joined tokens
  rw [alone.size_eq, List.length_singleton] at size
  exact Nat.succ.inj size

theorem lastIndex_whole (tokens : whole.tokens.toList = front ++ rest.tokens.toList) :
    whole.lastIndex = rest.lastIndex + front.length := by
  have size := size_joined tokens
  have restSize : rest.tokens.toList.length = rest.lastIndex + 1 := rest.size_eq
  rw [whole.size_eq, restSize] at size
  omega

end Joined

/-- Nothing is left in a state of what was parsed before an index. -/
structure Rested (index : Nat) (state : State) : Prop where
  forgotten : ∀ stratum start, index ≤ start → state.memo.find? stratum start = none
  counted : state.errorCount = 0
  unreported : state.reported = []

theorem rested_unitStart (input : Input) (state : State) : Rested 0 (unitStart input state) :=
  ⟨fun stratum start _ => Memo.find?_empty stratum start, rfl, rfl⟩

namespace Passage

variable {front : List Token} {mark : Token} {alone rest whole : TokenStream}
  {passage : Passage} {options : ParserOptions} {stack : Option Nat}

/-- A unit that starts where nothing is left of what was parsed before. -/
theorem linked_unitStart (passage : Passage) (options : ParserOptions) (stack : Option Nat)
    (input : Input) (state : State) {other : State} (rested : Rested passage.offset other) :
    (passage.reading options stack).Linked (.of (unitStart input state)) (.of other)
      (unitStart input state) other :=
  Pairing.Akin.linked
    ⟨remembered_empty passage rested.forgotten, rested.counted, rfl, rested.unreported⟩

theorem rested_of_linked {leadBase trailBase : Pairing.Background} {after final : State}
    {index last : Nat}
    (linked : (passage.reading options stack).Linked leadBase trailBase after final)
    (counted : after.errorCount = 0) (known : passage.last? = some last)
    (beyond : last + passage.offset < index) : Rested index final := by
  have count : final.errorCount = after.errorCount := linked.ledgers.count
  exact ⟨fun stratum start later => linked.memos.beyond stratum start ⟨last, known, by omega⟩,
    count.trans counted, linked.ledgers.trailNone⟩

theorem segment_before (aloneTokens : alone.tokens.toList = front ++ [mark])
    (wholeTokens : whole.tokens.toList = front ++ rest.tokens.toList)
    (nonempty : 0 < front.length) (closed : Closed alone 0 front.length) :
    Segment alone whole 0 (front.length - 1) where
  inside := by
    rw [lastIndex_alone aloneTokens]
    exact Nat.sub_le _ _
  stops := closed.ends nonempty
  ends same := by
    rw [lastIndex_alone aloneTokens] at same
    omega
  longer := by
    have := rest.size_pos
    rw [size_joined aloneTokens, size_joined wholeTokens, List.length_singleton]
    exact Nat.add_le_add_left this _
  closed index inside opens :=
    Nat.le_sub_one_of_lt (closed.blocks index (Nat.zero_le _) (by omega) opens)

theorem get?_before (aloneTokens : alone.tokens.toList = front ++ [mark])
    (wholeTokens : whole.tokens.toList = front ++ rest.tokens.toList) {index : Nat}
    (inside : index < front.length) : whole.get? index = alone.get? index := by
  rw [get?_front aloneTokens inside, get?_front wholeTokens inside]

/-- The tokens of a unit, alone and before another stream. -/
def before (aloneTokens : alone.tokens.toList = front ++ [mark])
    (wholeTokens : whole.tokens.toList = front ++ rest.tokens.toList)
    (nonempty : 0 < front.length) (closed : Closed alone 0 front.length) : Passage where
  leadStream := alone
  trailStream := whole
  shift := .still
  last? := some (front.length - 1)
  kind := kind_still
  lexeme := lexeme_still
  same index inside :=
    have within : index < front.length := Nat.lt_of_le_pred nonempty (inside _ rfl)
    (get?_before aloneTokens wholeTokens within).trans Option.map_id_apply.symm
  whole none := nomatch none
  part _ known := Option.mem_some.mp known ▸ segment_before aloneTokens wholeTokens nonempty closed

theorem segment_behind (wholeTokens : whole.tokens.toList = front ++ rest.tokens.toList) :
    Segment rest whole front.length rest.lastIndex where
  inside := Nat.le_refl _
  stops := by
    rw [rest.kindAt_lastIndex]
    rfl
  ends _ := lastIndex_whole wholeTokens
  longer := by
    rw [size_joined wholeTokens]
    exact Nat.le_add_left _ _
  closed _ inside _ := blockEnd_le inside

/-- A stream, alone and behind the tokens of a unit. -/
def behind (wholeTokens : whole.tokens.toList = front ++ rest.tokens.toList) : Passage where
  leadStream := rest
  trailStream := whole
  shift := .further front.length
  last? := some rest.lastIndex
  same index _ := by
    have same : whole.get? (index + front.length) = rest.get? index := by
      rw [get?_tail wholeTokens, Array.getElem?_toList]
      rfl
    simpa [Shift.further] using same
  whole none := nomatch none
  part _ known := Option.mem_some.mp known ▸ segment_behind wholeTokens

end Passage

section Units

variable {front : List Token} {mark : Token} {alone rest whole : TokenStream}
  {options : ParserOptions} {stack : Option Nat}
  {aloneState aloneAfter restState restAfter : State}

/-- The rounds of a unit without errors are the first rounds over the joined stream. -/
theorem unitItems_prepended (aloneTokens : alone.tokens.toList = front ++ [mark])
    (wholeTokens : whole.tokens.toList = front ++ rest.tokens.toList)
    (closed : Closed alone 0 front.length) {list : Match (List Declaration)}
    (run : unitItems { stream := alone, options, stack } aloneState = .ok list aloneAfter)
    (clean : list.recovered = []) {state : State}
    (sameNesting : state.nesting = aloneState.nesting) :
    ∃ used last, used ≤ front.length ∧ Rested front.length last ∧
      last.nesting = state.nesting ∧
      ∀ fuel, itemsFrom { stream := whole, options, stack }
          (unitItem { stream := whole, options, stack })
          "declaration" whole.lastIndex (fuel + used) 0
          (unitStart { stream := whole, options, stack } state) =
        mapValue (prependItems list.node)
          (itemsFrom { stream := whole, options, stack }
            (unitItem { stream := whole, options, stack })
            "declaration" whole.lastIndex fuel front.length last) := by
  have rounds : Rounds { stream := alone, options, stack }
      (unitItem { stream := alone, options, stack }) "declaration" alone.lastIndex 0
      (unitStart { stream := alone, options, stack } aloneState) list aloneAfter :=
    itemsFrom_rounds (Nat.le_refl _) run
  have aloneLast := lastIndex_alone aloneTokens
  have wholeLast := lastIndex_whole wholeTokens
  rcases Nat.eq_zero_or_pos front.length with none | nonempty
  · have empty : list.node = [] := by
      cases rounds with
      | done => rfl
      | full more => omega
      | kept more => omega
      | skipped more => omega
    refine ⟨0, unitStart { stream := whole, options, stack } state, Nat.zero_le _, ?_, rfl,
      fun fuel => ?_⟩
    · rw [none]
      exact rested_unitStart _ state
    · rw [none, empty]
      exact (mapValue_prependNothing _).symm
  · let passage := Passage.before aloneTokens wholeTokens nonempty closed
    have wholeEq : alone.lastIndex = front.length - 1 + 1 := by omega
    have beyond : alone.lastIndex + 0 ≤ whole.lastIndex := by omega
    have known : passage.last? = some (front.length - 1) := rfl
    have grounds : (passage.reading options stack).Grounds :=
      Passage.reading_grounds (Passage.reading_recovers fun _ => rfl).loops
    have matched := passage.reading_matched options stack options.maxNesting
    have linked := passage.linked_unitStart options stack { stream := alone, options, stack }
      aloneState (rested_unitStart { stream := whole, options, stack } state)
    obtain ⟨used, last, enough, lastLinked, further⟩ :=
      Passage.rounds_prepended known wholeEq beyond
        (fun index => @unitItem_confined (passage.reading options stack).lead index)
        (fun _ within => Pairing.follows_unitItem grounds matched within) rounds (Nat.zero_le _)
        clean rfl sameNesting linked
    have enough : used + 0 ≤ alone.lastIndex := enough
    have counted : aloneAfter.errorCount = 0 := by
      rw [rounds.count, clean]
      rfl
    have behindAll : front.length - 1 + 0 < front.length := by omega
    refine ⟨used, last, by omega, ?_, lastLinked.trailNesting, fun fuel => ?_⟩
    · exact Passage.rested_of_linked lastLinked counted known behindAll
    · have same := further fuel
      rw [show moved passage.shift list.node = list.node from Movable.moved_still _,
        show passage.leadStream.lastIndex = front.length from aloneLast] at same
      exact same

/-- From a state in which nothing is left, the rounds over the rest of the joined stream are
those over the stream that was put there. -/
theorem unitItems_behind (wholeTokens : whole.tokens.toList = front ++ rest.tokens.toList)
    {list : Match (List Declaration)}
    (run : unitItems { stream := rest, options, stack } restState = .ok list restAfter)
    {state : State} (rested : Rested front.length state)
    (sameNesting : state.nesting = restState.nesting) {fuel : Nat} (ample : rest.size + 1 ≤ fuel) :
    ∃ after,
      itemsFrom { stream := whole, options, stack } (unitItem { stream := whole, options, stack })
          "declaration" whole.lastIndex fuel front.length state =
        .ok (moved (.further front.length) list) after := by
  let passage := Passage.behind wholeTokens
  have grounds : (passage.reading options stack).Grounds :=
    Passage.reading_grounds (Passage.reading_recovers fun _ => rfl).loops
  have within : passage.Within rest.lastIndex := by
    intro last known
    cases known
    exact Nat.le_refl _
  have rounds := Pairing.tracks_unitItems grounds (passage.reading_matched options stack _) within
    (.inr ⟨rfl, ample⟩)
  have linked := passage.linked_unitStart options stack { stream := rest, options, stack }
    restState rested
  obtain ⟨after, trailRun, -⟩ :=
    rounds.answered (Passage.reading_allows passage options stack sameNesting) linked run
      Passage.reading_keeps
  exact ⟨after, trailRun⟩

theorem unitItems_of_parse {input : Input} {state after : State} {unit : CompilationUnit}
    (run : parse input state = .ok unit after) :
    ∃ list last, unitItems input state = .ok list last ∧ unit.declarations = list.node ∧
      after.reported = list.recovered.take input.options.maxErrors := by
  rw [parse_run] at run
  cases loop : unitItems input state with
  | error fault last =>
      rw [loop] at run
      cases run
  | ok list last =>
      rw [loop] at run
      cases run
      exact ⟨list, last, rfl, rfl, rfl⟩

/-- The tokens of a unit without errors end a declaration, and its blocks are closed. -/
theorem closed_of_parse {unit : CompilationUnit}
    (run : parse { stream := alone, options, stack } aloneState = .ok unit aloneAfter)
    (clean : aloneAfter.reported = []) : Closed alone 0 alone.lastIndex := by
  cases unit with
  | mk span declarations =>
      cases parse_derives run clean with
      | unit derived => exact derived.closed.2

/-- Units that are put one after the other.  The tokens of a unit without errors may be put
before every stream on which a run ends: the declarations of the joined stream are those of
the unit, unchanged, and then those of the stream, moved behind the unit, and the errors
are those of the stream, moved behind the unit. -/
theorem parse_append (aloneTokens : alone.tokens.toList = front ++ [mark])
    (wholeTokens : whole.tokens.toList = front ++ rest.tokens.toList)
    {unit other : CompilationUnit}
    (aloneRun : parse { stream := alone, options, stack } aloneState = .ok unit aloneAfter)
    (clean : aloneAfter.reported = [])
    (restRun : parse { stream := rest, options, stack } restState = .ok other restAfter)
    (state : State) (aloneNesting : state.nesting = aloneState.nesting)
    (restNesting : state.nesting = restState.nesting) :
    ∃ after,
      parse { stream := whole, options, stack } state =
          .ok
            (.mk (covering 0 whole.lastIndex)
              (unit.declarations ++ moved (.further front.length) other.declarations))
            after ∧
        after.reported = moved (.further front.length) restAfter.reported := by
  have closed := closed_of_parse aloneRun clean
  rw [lastIndex_alone aloneTokens] at closed
  obtain ⟨list, last, aloneItems, unitEq, aloneReported⟩ := unitItems_of_parse aloneRun
  obtain ⟨restList, restLast, restItems, otherEq, restReported⟩ := unitItems_of_parse restRun
  have listClean : list.recovered = [] := by
    have positive := options.maxErrors_pos
    rcases List.take_eq_nil_iff.mp (aloneReported.symm.trans clean) with impossible | empty
    · exact absurd impossible (Nat.ne_of_gt positive)
    · exact empty
  obtain ⟨used, between, enough, rested, sameNesting, further⟩ :=
    unitItems_prepended aloneTokens wholeTokens closed aloneItems listClean aloneNesting
  have wholeSize : whole.size = front.length + rest.size := size_joined wholeTokens
  obtain ⟨after, behind⟩ := unitItems_behind wholeTokens restItems rested
    (sameNesting.trans restNesting) (show rest.size + 1 ≤ whole.size + 1 - used by omega)
  have wholeItems : unitItems { stream := whole, options, stack } state =
      .ok (prependItems list.node (moved (.further front.length) restList)) after := by
    have enoughFuel : whole.size + 1 = whole.size + 1 - used + used := by omega
    change itemsFrom _ _ _ _ (whole.size + 1) _ _ = _
    rw [enoughFuel, further, behind]
    rfl
  have wholeRun := parse_run { stream := whole, options, stack } state
  rw [wholeItems] at wholeRun
  rw [unitEq, otherEq, restReported]
  exact ⟨_, wholeRun, List.map_take.symm⟩

end Units

/-- A function with an empty statement. -/
def calmTokens : List Token :=
  [{ kind := .intWord, lexeme := "int", line := 1 },
    { kind := .identifier, lexeme := "f", line := 1 },
    { kind := .leftParen, lexeme := "(", line := 1 },
    { kind := .rightParen, lexeme := ")", line := 1 },
    { kind := .leftBrace, lexeme := "\x7b", line := 1 },
    { kind := .semicolon, lexeme := ";", line := 1 },
    { kind := .rightBrace, lexeme := "\x7d", line := 1 }]

/-- A stream with an error at its very start, one in its first declaration and none in its
second one. -/
def twiceTokens : List Token :=
  [{ kind := .semicolon, lexeme := ";", line := 2 },
    { kind := .intWord, lexeme := "int", line := 3 },
    { kind := .identifier, lexeme := "a", line := 3 },
    { kind := .equal, lexeme := "=", line := 3 },
    { kind := .semicolon, lexeme := ";", line := 3 },
    { kind := .intWord, lexeme := "int", line := 4 },
    { kind := .identifier, lexeme := "b", line := 4 },
    { kind := .semicolon, lexeme := ";", line := 4 },
    { kind := .endOfInput, lexeme := "", line := 4 }]

def calmStream : TokenStream :=
  { tokens := (calmTokens ++ [({ kind := .endOfInput, lexeme := "", line := 1 } : Token)]).toArray
    terminated := rfl }

def twiceStream : TokenStream :=
  { tokens := twiceTokens.toArray, terminated := rfl }

def joinedStream : TokenStream :=
  { tokens := (calmTokens ++ twiceTokens).toArray, terminated := rfl }

/-- The number of declarations of a parse, and where its errors are. -/
def outlined (result : EStateM.Result Fault State CompilationUnit) :
    Option (Nat × List (Int × Int)) :=
  (answer result).toOption.map fun found =>
    (found.1.declarations.length, found.2.map fun error => (error.position, error.depth))

/-- Behind the function the declaration and the errors are found seven tokens further on. -/
theorem parse_append_twice :
    ∃ (unit other : CompilationUnit) (after : State),
      parse { stream := joinedStream, options := {} } {} =
          .ok (.mk (covering 0 15)
            (unit.declarations ++ moved (.further 7) other.declarations)) after ∧
        unit.declarations.length = 1 ∧ other.declarations.length = 1 ∧
        after.reported.map (fun error => (error.position, error.depth)) =
          [(7, 7), (9, 10)] := by
  have calm : outlined (parse { stream := calmStream, options := {} } {}) = some (1, []) := by
    decide +kernel
  have twice : outlined (parse { stream := twiceStream, options := {} } {}) =
      some (1, [(0, 0), (2, 3)]) := by
    decide +kernel
  cases calmRun : parse { stream := calmStream, options := {} } {} with
  | error fault after =>
      rw [calmRun] at calm
      cases calm
  | ok unit calmAfter =>
      cases twiceRun : parse { stream := twiceStream, options := {} } {} with
      | error fault after =>
          rw [twiceRun] at twice
          cases twice
      | ok other twiceAfter =>
          rw [calmRun] at calm
          rw [twiceRun] at twice
          obtain ⟨one, clean⟩ := Prod.mk.inj (Option.some.inj calm)
          obtain ⟨another, places⟩ := Prod.mk.inj (Option.some.inj twice)
          obtain ⟨after, run, reported⟩ := @parse_append calmTokens _ calmStream twiceStream
            joinedStream {} none _ _ _ _ rfl rfl _ _ calmRun (List.map_eq_nil_iff.mp clean) twiceRun
            {} rfl rfl
          refine ⟨unit, other, after, run, one, another, ?_⟩
          have movedPlaces : (moved (.further 7) twiceAfter.reported).map
                (fun error => (error.position, error.depth)) =
              (twiceAfter.reported.map fun error => (error.position, error.depth)).map
                fun place => (place.1 + 7, place.2 + 7) := by
            rw [List.map_map]
            exact List.map_map
          exact (congrArg _ reported).trans (movedPlaces.trans (congrArg _ places))

end MiniC.Parser
