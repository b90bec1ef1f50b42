import MiniC.Proofs.BracketScan
import MiniC.Proofs.ConfinedExpression

/-!
# Declarators are confined

The bracket scans that delimit a declarator stop at braces and at the end of
input.  So all indices between the start and the end of a declarator are reached
from its start, and whatever is parsed between its brackets is confined to it.
-/

namespace MiniC.Parser

/-- No brace stands between two indices of a stream. -/
structure Clear (stream : TokenStream) (start stop : Nat) : Prop where
  le : start ≤ stop
  inside : stop ≤ stream.lastIndex
  plain : ∀ index, start ≤ index → index < stop → ¬ isBrace (stream.kindAt index)

namespace Clear

variable {stream : TokenStream} {start middle stop : Nat}

theorem refl (inside : start ≤ stream.lastIndex) : Clear stream start start :=
  ⟨Nat.le_refl start, inside, fun _ lower upper => by omega⟩

theorem step (clear : Clear stream start stop) (notEnd : stream.kindAt stop ≠ .endOfInput)
    (plain : ¬ isBrace (stream.kindAt stop)) : Clear stream start (stop + 1) := by
  refine ⟨by have := clear.le; omega, TokenStream.lt_lastIndex_of_kindAt notEnd, ?_⟩
  intro index lower upper
  rcases Nat.lt_or_eq_of_le (Nat.le_of_lt_succ upper) with before | same
  · exact clear.plain index lower before
  · rw [same]
    exact plain

theorem reaches (clear : Clear stream start stop) (lower : start ≤ middle)
    (upper : middle ≤ stop) : Reaches stream start middle := by
  induction middle with
  | zero =>
      have zero : start = 0 := by omega
      subst zero
      exact .refl (by omega)
  | succ middle induction =>
      have inside := clear.inside
      rcases Nat.lt_or_eq_of_le lower with before | same
      · have reached := induction (by omega) (by omega)
        have level : blockEnd stream (middle + 1) = blockEnd stream middle :=
          blockEnd_plain (by omega) (clear.plain middle (by omega) (by omega))
        exact ⟨lower, by omega, level.trans reached.level⟩
      · rw [same]
        exact .refl (by omega)

theorem reaches_stop (clear : Clear stream start stop) : Reaches stream start stop :=
  clear.reaches clear.le (Nat.le_refl stop)

end Clear

section Scans

variable {input : Input} {start index : Nat}

private theorem plain_of_bracketRole {kind : Kind} (notStop : bracketRole kind ≠ .stops) :
    kind ≠ .endOfInput ∧ ¬ isBrace kind := by
  refine ⟨?_, ?_⟩
  · rintro rfl
    exact notStop rfl
  · rintro (rfl | rfl) <;> exact notStop rfl

private theorem Clear.token {stream : TokenStream} {token : Token}
    (clear : Clear stream start index) (found : stream.get? index = some token)
    (notStop : bracketRole token.kind ≠ .stops) : Clear stream start (index + 1) := by
  have kindEq : stream.kindAt index = token.kind := TokenStream.kindAt_of_get? found
  obtain ⟨notEnd, plain⟩ := plain_of_bracketRole notStop
  exact clear.step (by rw [kindEq]; exact notEnd) (by rw [kindEq]; exact plain)

/-- What a scan answers when it is confined to a start: an index up to which no
brace stands, or a failure. -/
def ScanConfined (stream : TokenStream) (start : Nat) (Ends : Nat → Prop) : Scanned → Prop
  | .ok (.ok index) => Ends index
  | .ok (.error failure) => Within stream start failure
  | .error _ => False

theorem ScanConfined.mono {stream : TokenStream} {start : Nat} {Ends Wider : Nat → Prop}
    {scanned : Scanned} (confined : ScanConfined stream start Ends scanned)
    (wider : ∀ index, Ends index → Wider index) : ScanConfined stream start Wider scanned :=
  match scanned with
  | .ok (.ok index) => wider index confined
  | .ok (.error _) => confined
  | .error _ => confined

/-- A forward scan never runs past its stops, so it ends with the bracket that
closes all, or fails at the innermost bracket that is open. -/
theorem scanForward_confined {stream : TokenStream} {fuel : Nat} {opened : List Pending}
    (clear : Clear stream start index)
    (openedInside : ∀ pending ∈ opened, start ≤ pending.index ∧ pending.index ≤ index)
    (started : opened ≠ [] ∨ ∃ bracket, bracketRole (stream.kindAt index) = .opens bracket)
    (enough : stream.lastIndex < index + fuel) :
    ScanConfined stream start (fun close => index ≤ close ∧ Clear stream start (close + 1))
      (scanForward stream fuel opened index) := by
  induction fuel generalizing opened index with
  | zero =>
      have := clear.inside
      omega
  | succ fuel induction =>
      obtain ⟨token, found⟩ := TokenStream.get?_isSome_of_le clear.inside
      have kindEq : stream.kindAt index = token.kind := TokenStream.kindAt_of_get? found
      have onward : ∀ opened : List Pending, opened ≠ [] →
          (∀ pending ∈ opened, start ≤ pending.index ∧ pending.index ≤ index) →
          bracketRole token.kind ≠ .stops →
          ScanConfined stream start
            (fun close => index ≤ close ∧ Clear stream start (close + 1))
            (scanForward stream fuel opened (index + 1)) := by
        intro opened nonempty inside notStop
        have rest := induction (clear.token found notStop)
          (fun pending member => by have := inside pending member; omega)
          (.inl nonempty) (by omega)
        exact rest.mono fun close ends => ⟨Nat.le_of_succ_le ends.1, ends.2⟩
      have anyOpen : (∀ bracket, bracketRole token.kind ≠ .opens bracket) → opened ≠ [] := by
        intro notOpening
        rcases started with nonempty | ⟨bracket, opens⟩
        · exact nonempty
        · exact absurd (kindEq ▸ opens) (notOpening bracket)
      unfold scanForward
      simp only [found]
      cases role : bracketRole token.kind with
      | opens bracket =>
          refine onward (⟨index, bracket⟩ :: opened) (by simp) ?_ (by simp [role])
          intro pending member
          rcases List.mem_cons.mp member with rfl | member
          · exact ⟨clear.le, Nat.le_refl _⟩
          · exact openedInside pending member
      | closes bracket =>
          have notStop : bracketRole token.kind ≠ .stops := by simp [role]
          cases opened with
          | nil => exact absurd rfl (anyOpen (by simp [role]))
          | cons innermost outer =>
              dsimp only
              split
              · exact Within.failure_at clear.reaches_stop _ none
              · split
                · exact ⟨Nat.le_refl _, clear.token found notStop⟩
                · rename_i nonempty
                  refine onward outer (by simpa using nonempty) ?_ notStop
                  intro pending member
                  exact openedInside pending (by simp [member])
      | stops =>
          cases opened with
          | nil => exact absurd rfl (anyOpen (by simp [role]))
          | cons innermost outer =>
              have inside := openedInside innermost (by simp)
              exact Within.failure_between (clear.reaches inside.1 inside.2) inside.2
                clear.reaches_stop.le_blockEnd _
      | plain =>
          exact onward opened (anyOpen (by simp [role])) openedInside (by simp [role])

theorem findEndFrom_confined {fuel : Nat} (clear : Clear input.stream start index)
    (enough : input.stream.lastIndex < index + fuel) :
    ScanConfined input.stream start
      (fun stop => index ≤ stop ∧ Clear input.stream start stop)
      (findEndFrom input fuel index) := by
  induction fuel generalizing index with
  | zero =>
      have := clear.inside
      omega
  | succ fuel induction =>
      obtain ⟨token, found⟩ := TokenStream.get?_isSome_of_le clear.inside
      have kindEq : input.stream.kindAt index = token.kind := TokenStream.kindAt_of_get? found
      have onward : ∀ {next : Nat}, index < next → Clear input.stream start next →
          ScanConfined input.stream start
            (fun stop => index ≤ stop ∧ Clear input.stream start stop)
            (findEndFrom input fuel next) := by
        intro next later nextClear
        exact (induction nextClear (by omega)).mono fun stop ends =>
          ⟨Nat.le_trans (Nat.le_of_lt later) ends.1, ends.2⟩
      unfold findEndFrom
      simp only [found]
      split
      · rename_i identifier
        exact onward (Nat.lt_succ_self index) (clear.token found (by rw [identifier]; decide))
      · cases role : bracketRole token.kind with
        | opens bracket =>
            have scanned :
                ScanConfined input.stream start
                  (fun close => index ≤ close ∧ Clear input.stream start (close + 1))
                  (scanForward input.stream input.fuel [] index) :=
              scanForward_confined clear (by simp) (.inr ⟨bracket, by rw [kindEq, role]⟩)
                (fuel_enough input index)
            dsimp only
            unfold matchForward
            cases result : scanForward input.stream input.fuel [] index with
            | error fault =>
                rw [result] at scanned
                exact scanned
            | ok answer =>
                rw [result] at scanned
                cases answer with
                | error failure => exact scanned
                | ok close => exact onward (by have := scanned.1; omega) scanned.2
        | closes bracket => exact ⟨Nat.le_refl _, clear⟩
        | stops => exact ⟨Nat.le_refl _, clear⟩
        | plain => exact ⟨Nat.le_refl _, clear⟩

theorem findEnd_confined (inside : start ≤ input.stream.lastIndex) :
    ScanConfined input.stream start
      (fun stop => start ≤ stop ∧ Clear input.stream start stop) (findEnd input start) :=
  findEndFrom_confined (.refl inside) (fuel_enough input start)

theorem scanBackward_confined {stream : TokenStream} {close count : Nat} {closed : List Pending}
    (clear : Clear stream start (close + 1)) (ordered : start ≤ close)
    (bound : start + count ≤ close + 1) (nonempty : closed ≠ []) :
    ScanConfined stream start (fun opening => start ≤ opening ∧ opening < start + count)
      (scanBackward stream close start closed count) := by
  induction count generalizing closed with
  | zero => exact Within.failure_at (clear.reaches ordered (by omega)) _ none
  | succ count induction =>
      have clearInside := clear.inside
      have inside : start + count ≤ stream.lastIndex := by omega
      obtain ⟨token, found⟩ := TokenStream.get?_isSome_of_le inside
      have onward : ∀ closed : List Pending, closed ≠ [] →
          ScanConfined stream start
            (fun opening => start ≤ opening ∧ opening < start + (count + 1))
            (scanBackward stream close start closed count) := by
        intro closed nonempty
        exact (induction (by omega) nonempty).mono fun opening ends =>
          ⟨ends.1, Nat.lt_succ_of_lt ends.2⟩
      unfold scanBackward
      simp only [found]
      cases role : bracketRole token.kind with
      | closes bracket => exact onward _ (by simp)
      | opens bracket =>
          cases closed with
          | nil => exact absurd rfl nonempty
          | cons innermost outer =>
              dsimp only
              split
              · exact Within.failure_between (clear.reaches (by omega) (by omega)) (by omega)
                  (clear.reaches ordered (by omega)).le_blockEnd _
              · split
                · exact ⟨by omega, by omega⟩
                · rename_i outerNonempty
                  exact onward outer (by simpa using outerNonempty)
      | stops => exact onward closed nonempty
      | plain => exact onward closed nonempty

theorem matchBackward_confined {close : Nat} {bracket : Bracket}
    (clear : Clear input.stream start (close + 1)) (ordered : start ≤ close)
    (closes : bracketRole (input.stream.kindAt close) = .closes bracket) :
    ScanConfined input.stream start (fun opening => start ≤ opening ∧ opening < close)
      (matchBackward input close start) := by
  rw [matchBackward_closes ordered closes]
  have rest : ScanConfined input.stream start
      (fun opening => start ≤ opening ∧ opening < start + (close - start))
      (scanBackward input.stream close start [⟨close, bracket⟩] (close - start)) :=
    scanBackward_confined clear ordered (by omega) (by simp)
  rwa [Nat.add_sub_cancel' ordered] at rest

theorem attempt_confined {scanned : Scanned} {Ends : Nat → Prop}
    (confined : ScanConfined input.stream start Ends scanned) :
    Confined input.stream start scanned.attempt Ends := by
  unfold Scanned.attempt
  cases scanned with
  | error fault => exact confined.elim
  | ok answer =>
      cases answer with
      | error failure => exact .throw confined
      | ok index => exact .pure confined

end Scans

/-- Shapes of declarators in clear ranges, which they fill. -/
def ResolverConfined (input : Input) (resolver : Resolver) : Prop :=
  ∀ start stop, Clear input.stream start stop →
    Confined input.stream start (resolver start stop)
      fun found => found.stop = stop ∧ start < stop

section Shape

variable {input : Input} {resolver : Resolver} {nested : Nested} {start : Nat}

theorem declaratorAt_confined (resolverConfined : ResolverConfined input resolver)
    (inside : start ≤ input.stream.lastIndex) :
    Confined input.stream start (declaratorAt input resolver start)
      (Spans input.stream start) := by
  refine supervise_confined inside (fun _ spans => spans) ?_
  refine Confined.bind (attempt_confined (findEnd_confined inside)) fun stop ends => ?_
  obtain ⟨ordered, clear⟩ := ends
  split
  · exact .throw (.failure_at (.refl inside) _ none)
  · refine Confined.bind (resolverConfined start stop clear) fun resolved _ => ?_
    exact .pure (.of_stop (by omega) clear.reaches_stop rfl)

theorem arraySize_confined (nestedConfined : NestedConfined input nested)
    {opening closing : Nat} (reached : Reaches input.stream start (opening + 1)) :
    Confined input.stream start (arraySize nested opening closing) fun _ => True := by
  unfold arraySize
  split
  · exact .pure trivial
  · refine Confined.bind (nestedConfined.expr .assignment reached) fun size spans => ?_
    split
    · exact .pure trivial
    · exact .throw (.missing_at (reached.trans spans.reaches) _ [])

theorem parametersFrom_confined (resolverConfined : ResolverConfined input resolver)
    {closing fuel index : Nat} (reached : Reaches input.stream start index)
    (enough : input.stream.lastIndex < index + fuel) :
    Confined input.stream start (parametersFrom input resolver closing fuel index)
      fun _ => True := by
  induction fuel generalizing index with
  | zero =>
      have := reached.inside
      omega
  | succ fuel induction =>
      unfold parametersFrom
      refine Confined.bind ((specifiers_confined reached.inside).from_later reached)
        fun types typesSpans => ?_
      have afterTypes := reached.trans typesSpans.reaches
      refine Confined.bind
        ((declaratorAt_confined resolverConfined afterTypes.inside).from_later afterTypes)
        fun declarator declaratorSpans => ?_
      have afterDeclarator := afterTypes.trans declaratorSpans.reaches
      have later := typesSpans.lt
      have evenLater := declaratorSpans.lt
      dsimp only
      split
      · exact .pure trivial
      · split
        · rename_i comma
          refine Confined.bind (induction (afterDeclarator.next comma rfl) (by omega)) fun _ _ => ?_
          exact .pure trivial
        · exact .throw (.missing_at afterDeclarator _ _)

theorem parameters_confined (resolverConfined : ResolverConfined input resolver)
    {opening closing : Nat} (reached : Reaches input.stream start (opening + 1)) :
    Confined input.stream start (parameters input resolver opening closing) fun _ => True := by
  unfold parameters
  split
  · exact .pure trivial
  · exact parametersFrom_confined resolverConfined reached (fuel_enough input _)

theorem shape_confined (resolverConfined : ResolverConfined input resolver)
    (nestedConfined : NestedConfined input nested) {stop : Nat}
    (clear : Clear input.stream start stop) :
    Confined input.stream start (shape input resolver nested start stop)
      fun found => found.stop = stop ∧ start < stop := by
  have inside : start ≤ input.stream.lastIndex := Nat.le_trans clear.le clear.inside
  unfold shape
  split
  · exact .throw (.failure_at (.refl inside) _ none)
  · rename_i nonempty
    have positive : start < stop := by omega
    have stopInside := clear.inside
    refine Confined.bind (tokenAt_confined (by omega)) fun last found => ?_
    have kindEq : input.stream.kindAt (stop - 1) = last.kind := TokenStream.kindAt_of_get? found
    split
    · rename_i bracket closes
      have closeEq : stop - 1 + 1 = stop := by omega
      have scan : ScanConfined input.stream start
          (fun opening => start ≤ opening ∧ opening < stop - 1)
          (matchBackward input (stop - 1) start) :=
        matchBackward_confined (by rw [closeEq]; exact clear) (by omega)
          (by rw [kindEq]; exact closes)
      refine Confined.bind (attempt_confined scan) fun opening bounds => ?_
      obtain ⟨lower, upper⟩ := bounds
      split
      · exact .throw (.failure_at (.refl inside) _ none)
      · have baseClear : Clear input.stream start opening :=
          ⟨lower, by omega, fun index first last => clear.plain index first (by omega)⟩
        have reached : Reaches input.stream start (opening + 1) :=
          clear.reaches (by omega) (by omega)
        refine Confined.bind (resolverConfined start opening baseClear) fun base _ => ?_
        split
        · refine Confined.bind (arraySize_confined nestedConfined reached) fun size _ => ?_
          exact .pure ⟨rfl, positive⟩
        · refine Confined.bind (parameters_confined resolverConfined reached) fun list _ => ?_
          exact .pure ⟨rfl, positive⟩
    · split
      · exact .pure ⟨rfl, positive⟩
      · exact .throw (.failure_at (.refl inside) _ none)

end Shape

theorem resolve_confined (input : Input) (budget : Nat) :
    ResolverConfined input (resolve input budget) := by
  have spans : ∀ {start stop : Nat}, Clear input.stream start stop →
      ∀ found : Match Declarator, found.stop = stop ∧ start < stop →
        Spans input.stream start found := by
    intro start stop clear found ends
    exact .of_stop ends.2 clear.reaches_stop ends.1
  induction budget with
  | zero =>
      intro start stop clear
      have inside : start ≤ input.stream.lastIndex := Nat.le_trans clear.le clear.inside
      exact supervise_confined inside (spans clear)
        (guarded_confined inside (tooDeep_confined inside))
  | succ budget induction =>
      intro start stop clear
      have inside : start ≤ input.stream.lastIndex := Nat.le_trans clear.le clear.inside
      exact supervise_confined inside (spans clear)
        (guarded_confined inside (shape_confined induction (expression_confined input budget) clear))

/-- Declarators are confined, from every start in the stream. -/
def DeclaratorsConfined (input : Input) (declared : Nat → Attempt (Match Declarator)) : Prop :=
  ∀ start, start ≤ input.stream.lastIndex →
    Confined input.stream start (declared start) (Spans input.stream start)

theorem declarator_confined (input : Input) (budget : Nat) :
    DeclaratorsConfined input (declarator input budget) :=
  fun _ inside => declaratorAt_confined (resolve_confined input budget) inside

end MiniC.Parser
