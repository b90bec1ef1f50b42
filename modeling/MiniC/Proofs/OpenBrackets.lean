import MiniC.Proofs.CompleteDeclarator

/-!
# Brackets that are still open

A scan forward keeps the brackets that are still open.  Between each of them and the next
one the brackets are balanced, and so they are behind the innermost.  Closing brackets put
there, the innermost first, would close them all.  So the bracket that the scan started
from can be closed as long as the scan goes on.  It can be closed no longer, whatever
follows, once the scan meets a bracket that closes another kind than the innermost or a
token that it never passes.
-/

namespace MiniC.Parser

/-- A bracket, the one that closes it, and balanced brackets in between.  No token of the
range stops a scan. -/
structure Bracketed (stream : TokenStream) (bracket : Bracket) (opening closing : Nat) : Prop where
  opens : bracketRole (stream.kindAt opening) = .opens bracket
  inner : Balanced stream (opening + 1) closing
  closes : bracketRole (stream.kindAt closing) = .closes bracket

/-- The bracket at an index can still be closed behind another index: some stream with the same
kinds of tokens up to there has a bracket that closes it. -/
def Closable (stream : TokenStream) (bracket : Bracket) (opening index : Nat) : Prop :=
  ∃ other : TokenStream, (∀ place ≤ index, other.kindAt place = stream.kindAt place) ∧
    ∃ closing, Bracketed other bracket opening closing

/-- Brackets, the innermost first, that are still open before an index.  The outermost of
them is the one at `start`. -/
inductive StillOpen (stream : TokenStream) (bracket : Bracket) (start : Nat) :
    List Pending → Nat → Prop where
  | outermost {index : Nat} :
      bracketRole (stream.kindAt start) = .opens bracket → Balanced stream (start + 1) index →
      StillOpen stream bracket start [⟨start, bracket⟩] index
  | inner {outer : List Pending} {place index : Nat} {nested : Bracket} :
      StillOpen stream bracket start outer place →
      bracketRole (stream.kindAt place) = .opens nested → Balanced stream (place + 1) index →
      StillOpen stream bracket start (⟨place, nested⟩ :: outer) index

/-- A token at which no scan goes on, and the index that is reported for it: a bracket that
closes another kind than the innermost open one, or a token that stops scans. -/
inductive Barrier (stream : TokenStream) (innermost : Pending) : (position depth : Nat) → Prop where
  | crossed {depth : Nat} {bracket : Bracket} :
      bracketRole (stream.kindAt depth) = .closes bracket → bracket ≠ innermost.bracket →
      Barrier stream innermost depth depth
  | stopped {depth : Nat} :
      bracketRole (stream.kindAt depth) = .stops → Barrier stream innermost innermost.index depth

/-! ## What balanced ranges depend on -/

/-- Whether a range is balanced depends on the kinds in it only. -/
theorem Balanced.congr {stream other : TokenStream} {start stop : Nat}
    (balanced : Balanced stream start stop)
    (same : ∀ place, start ≤ place → place < stop → other.kindAt place = stream.kindAt place) :
    Balanced other start stop := by
  induction balanced with
  | nil => exact .nil
  | @token start stop plain rest induction =>
      have later := rest.le
      refine .token ?_ (induction fun place lower => same place (by omega))
      rw [same start (Nat.le_refl _) (by omega), plain]
  | @group start middle stop bracket opens inner closes rest innerInduction induction =>
      have ordered := inner.le
      have later := rest.le
      have opening : bracketRole (other.kindAt start) = .opens bracket := by
        rw [same start (Nat.le_refl _) (by omega), opens]
      have closing : bracketRole (other.kindAt middle) = .closes bracket := by
        rw [same middle (by omega) (by omega), closes]
      exact .group opening (innerInduction fun place lower upper => same place (by omega) (by omega))
        closing (induction fun place lower => same place (by omega))

theorem Bracketed.passed {stream : TokenStream} {bracket : Bracket} {opening closing index : Nat}
    (bracketed : Bracketed stream bracket opening closing) (lower : opening ≤ index)
    (upper : index ≤ closing) : bracketRole (stream.kindAt index) ≠ .stops := by
  rcases Nat.eq_or_lt_of_le lower with rfl | behind
  · rw [bracketed.opens]
    nofun
  · rcases Nat.eq_or_lt_of_le upper with rfl | before
    · rw [bracketed.closes]
      nofun
    · exact bracketed.inner.passed behind before

namespace StillOpen

variable {stream other : TokenStream} {bracket : Bracket} {innermost : Pending}
  {pending outer : List Pending} {start index stop position depth : Nat}

theorem ne_nil (stillOpen : StillOpen stream bracket start pending index) : pending ≠ [] := by
  cases stillOpen <;> nofun

theorem inside (stillOpen : StillOpen stream bracket start pending index) :
    index ≤ stream.lastIndex := by
  cases stillOpen with
  | outermost opens balanced =>
      exact (balanced.reaches (lt_lastIndex_of_role (by rw [opens]; nofun))).inside
  | inner _ opens balanced =>
      exact (balanced.reaches (lt_lastIndex_of_role (by rw [opens]; nofun))).inside

theorem extend (stillOpen : StillOpen stream bracket start pending index)
    (more : Balanced stream index stop) : StillOpen stream bracket start pending stop := by
  cases stillOpen with
  | outermost opens balanced => exact .outermost opens (balanced.append more)
  | inner around opens balanced => exact .inner around opens (balanced.append more)

/-- A bracket that closes the innermost closes all if there is no other, and otherwise the
others are open behind it. -/
theorem close (stillOpen : StillOpen stream bracket start (innermost :: outer) index)
    (closes : bracketRole (stream.kindAt index) = .closes innermost.bracket) :
    Bracketed stream bracket start index ∨ StillOpen stream bracket start outer (index + 1) := by
  cases stillOpen with
  | outermost opens balanced => exact .inl ⟨opens, balanced, closes⟩
  | inner around opens balanced =>
      exact .inr (around.extend (.group opens balanced closes .nil))

theorem congr (stillOpen : StillOpen stream bracket start pending index)
    (same : ∀ place < index, other.kindAt place = stream.kindAt place) :
    StillOpen other bracket start pending index := by
  induction stillOpen with
  | outermost opens balanced =>
      have later := balanced.le
      refine .outermost ?_ (balanced.congr fun place _ => same place)
      rw [same start later, opens]
  | @inner outer place index nested _ opens balanced induction =>
      have later := balanced.le
      refine .inner (induction fun earlier before => same earlier (by omega)) ?_
        (balanced.congr fun place _ => same place)
      rw [same place later, opens]

/-- Brackets that close all that is open, the innermost first, close the outermost. -/
theorem bracketed (stillOpen : StillOpen stream bracket start pending index)
    (closed : ∀ offset : Nat, ∀ known ∈ pending[offset]?,
      bracketRole (stream.kindAt (index + offset)) = .closes known.bracket) :
    ∃ closing, Bracketed stream bracket start closing := by
  induction pending generalizing index with
  | nil => exact absurd rfl stillOpen.ne_nil
  | cons innermost outer induction =>
      rcases stillOpen.close (closed 0 innermost rfl) with done | more
      · exact ⟨index, done⟩
      · refine induction more fun offset known found => ?_
        rw [Nat.add_assoc, Nat.add_comm 1]
        exact closed (offset + 1) known found

/-- What is open is closed in the end, or no scan goes on at some token. -/
theorem ends (stillOpen : StillOpen stream bracket start pending index) :
    (∃ closing, Bracketed stream bracket start closing) ∨
      ∃ innermost outer position depth,
        StillOpen stream bracket start (innermost :: outer) depth ∧
          Barrier stream innermost position depth := by
  induction left : stream.lastIndex - index using Nat.strongRecOn generalizing pending index with
  | ind left induction =>
      have onward {pending : List Pending}
          (passed : bracketRole (stream.kindAt index) ≠ .stops)
          (next : StillOpen stream bracket start pending (index + 1)) := by
        have before := next.inside
        exact induction (stream.lastIndex - (index + 1)) (by omega) next rfl
      obtain ⟨innermost, outer, rfl⟩ := List.exists_cons_of_ne_nil stillOpen.ne_nil
      cases role : bracketRole (stream.kindAt index) with
      | stops => exact .inr ⟨innermost, outer, _, index, stillOpen, .stopped role⟩
      | plain => exact onward (by rw [role]; nofun) (stillOpen.extend (.single role))
      | opens nested => exact onward (by rw [role]; nofun) (.inner stillOpen role .nil)
      | closes other =>
          by_cases same : other = innermost.bracket
          · rcases stillOpen.close (same ▸ role) with done | more
            · exact .inl ⟨index, done⟩
            · exact onward (by rw [role]; nofun) more
          · exact .inr ⟨innermost, outer, _, index, stillOpen, .crossed role same⟩

end StillOpen

/-! ## Brackets that can be closed -/

/-- The kind of the token that closes a bracket. -/
def Bracket.closer : Bracket → Kind
  | .round => .rightParen
  | .square => .rightBracket

theorem Bracket.closes_closer (bracket : Bracket) :
    bracketRole bracket.closer = .closes bracket := by
  cases bracket <;> rfl

/-- A token that closes an open bracket. -/
def Pending.closer (pending : Pending) : Token :=
  { kind := pending.bracket.closer, lexeme := "", line := 1 }

/-- The first tokens of a stream, and then tokens that close brackets. -/
def closedOff (stream : TokenStream) (count : Nat) (pending : List Pending) : TokenStream where
  tokens :=
    (stream.tokens.toList.take count ++ pending.map Pending.closer ++
      [Token.endOfInput 1 0]).toArray
  terminated := by simp [Token.endOfInput]

section ClosedOff

variable {stream : TokenStream} {pending : List Pending} {count : Nat}

theorem kindAt_closedOff_of_lt {index : Nat} (before : index < count)
    (inside : count ≤ stream.size) :
    (closedOff stream count pending).kindAt index = stream.kindAt index := by
  have counted : (stream.tokens.toList.take count).length = count :=
    List.length_take_of_le inside
  simp only [TokenStream.kindAt, closedOff, List.getElem?_toArray, List.append_assoc]
  rw [List.getElem?_append_left (by omega), List.getElem?_take_of_lt before,
    Array.getElem?_toList]

theorem kindAt_closedOff {offset : Nat} {known : Pending} (found : known ∈ pending[offset]?)
    (inside : count ≤ stream.size) :
    (closedOff stream count pending).kindAt (count + offset) = known.bracket.closer := by
  have counted : (stream.tokens.toList.take count).length = count :=
    List.length_take_of_le inside
  have held := (List.getElem?_eq_some_iff.mp found).1
  simp only [TokenStream.kindAt, closedOff, List.getElem?_toArray, List.append_assoc]
  rw [List.getElem?_append_right (by omega), counted, Nat.add_sub_cancel_left,
    List.getElem?_append_left (by simpa using held), List.getElem?_map, found]
  rfl

end ClosedOff

section Closable

variable {stream : TokenStream} {bracket : Bracket} {innermost : Pending}
  {pending outer : List Pending} {start index position depth : Nat}

theorem StillOpen.closable (stillOpen : StillOpen stream bracket start pending index)
    {earlier : Nat} (before : earlier < index) : Closable stream bracket start earlier := by
  have inside : index ≤ stream.size := by
    have := stillOpen.inside
    have := stream.size_eq
    omega
  have same : ∀ place < index,
      (closedOff stream index pending).kindAt place = stream.kindAt place :=
    fun place lower => kindAt_closedOff_of_lt lower inside
  refine ⟨closedOff stream index pending, fun place upper => same place (by omega), ?_⟩
  refine (stillOpen.congr same).bracketed fun offset known found => ?_
  rw [kindAt_closedOff found inside, Bracket.closes_closer]

end Closable

/-! ## The scan forward -/

section Scans

variable {stream : TokenStream} {input : Input} {bracket : Bracket} {innermost : Pending}
  {pending outer : List Pending} {fuel start index position depth : Nat}

theorem StillOpen.scanForward (stillOpen : StillOpen stream bracket start pending index)
    (enough : stream.lastIndex < fuel + start) :
    ∃ less, stream.lastIndex < less + index ∧
      scanForward stream fuel [] start = scanForward stream less pending index := by
  have opened {outer : List Pending} {place index fuel : Nat} {nested : Bracket}
      (opens : bracketRole (stream.kindAt place) = .opens nested)
      (balanced : Balanced stream (place + 1) index) (enough : stream.lastIndex < fuel + place) :
      ∃ less, stream.lastIndex < less + index ∧
        Parser.scanForward stream fuel outer place =
          Parser.scanForward stream less (⟨place, nested⟩ :: outer) index := by
    have before : place < stream.lastIndex := lt_lastIndex_of_role (by rw [opens]; nofun)
    obtain ⟨fuel, rfl, enoughLater⟩ := fuel_positive enough (Nat.le_of_lt before)
    rw [scanForward_opens opens]
    exact balanced.scanForward (List.cons_ne_nil _ _) (enoughLater _ (Nat.lt_succ_self _))
  induction stillOpen with
  | outermost opens balanced => exact opened opens balanced enough
  | inner _ opens balanced induction =>
      obtain ⟨less, enoughLess, same⟩ := induction
      rw [same]
      exact opened opens balanced enoughLess

theorem Barrier.scanForward (barrier : Barrier stream innermost position depth)
    (inside : depth ≤ stream.lastIndex) :
    scanForward stream (fuel + 1) (innermost :: outer) depth =
      .ok (.error (.failure .mismatchedDelimiter position (some depth))) := by
  obtain ⟨token, found⟩ := TokenStream.get?_isSome_of_le inside
  have kindEq := TokenStream.kindAt_of_get? found
  rw [Parser.scanForward]
  cases barrier with
  | crossed closes other =>
      rw [kindEq] at closes
      simp only [found, closes, ne_eq, other.symm, not_false_eq_true, if_true]
      rfl
  | stopped stops =>
      rw [kindEq] at stops
      simp only [found, stops]

/-- A scan forward fails at the first barrier, wherever it starts. -/
theorem StillOpen.matchForward_barrier
    (stillOpen : StillOpen input.stream bracket start (innermost :: outer) depth)
    (barrier : Barrier input.stream innermost position depth) :
    matchForward input start =
      .ok (.error (.failure .mismatchedDelimiter position (some depth))) := by
  obtain ⟨less, enough, same⟩ := stillOpen.scanForward (fuel_ample input start)
  obtain ⟨less, rfl, -⟩ := fuel_positive enough stillOpen.inside
  unfold matchForward
  rw [same, barrier.scanForward stillOpen.inside]

theorem Bracketed.matchForward {closing : Nat}
    (bracketed : Bracketed input.stream bracket start closing) :
    matchForward input start = .ok (.ok closing) :=
  matchForward_eq bracketed.opens bracketed.inner bracketed.closes

theorem matchForward_eq_ok_iff {closing : Nat}
    (opens : bracketRole (input.stream.kindAt start) = .opens bracket) :
    matchForward input start = .ok (.ok closing) ↔
      Bracketed input.stream bracket start closing := by
  refine ⟨fun matched => ?_, Bracketed.matchForward⟩
  have stillOpen : StillOpen input.stream bracket start [⟨start, bracket⟩] (start + 1) :=
    .outermost opens .nil
  obtain ⟨found, bracketed⟩ | ⟨innermost, outer, position, depth, blocked, barrier⟩ :=
    stillOpen.ends
  · rw [bracketed.matchForward] at matched
    cases matched
    exact bracketed
  · rw [blocked.matchForward_barrier barrier] at matched
    cases matched

theorem Barrier.congr {other : TokenStream} (barrier : Barrier stream innermost position depth)
    (same : other.kindAt depth = stream.kindAt depth) : Barrier other innermost position depth := by
  cases barrier with
  | crossed closes different => exact .crossed (by rw [same, closes]) different
  | stopped stops => exact .stopped (by rw [same, stops])

/-- Nothing that follows a barrier closes what is open before it. -/
theorem StillOpen.not_closable
    (stillOpen : StillOpen stream bracket start (innermost :: outer) depth)
    (barrier : Barrier stream innermost position depth) : ¬ Closable stream bracket start depth := by
  rintro ⟨other, same, closing, bracketed⟩
  have found : matchForward { stream := other, options := {} } start = .ok (.ok closing) :=
    bracketed.matchForward
  have blocked : StillOpen other bracket start (innermost :: outer) depth :=
    stillOpen.congr fun place before => same place (Nat.le_of_lt before)
  rw [blocked.matchForward_barrier (barrier.congr (same depth (Nat.le_refl _)))] at found
  cases found

end Scans

end MiniC.Parser
