import MiniC.Proofs.BracketScan
import MiniC.Proofs.CompleteExpression

/-!
# Derived declarators are matched

The end of a declarator is found by a scan forward over whole groups, and its last
group by a scan backward.  Both scans pass over the balanced ranges of a derivation, so
they find the groups that it has.
-/

namespace MiniC.Parser

section Scans

variable {stream : TokenStream} {start middle stop : Nat}

theorem Balanced.scanForward (balanced : Balanced stream start stop) {opened : List Pending}
    (nonempty : opened ≠ []) {fuel : Nat} (enough : stream.lastIndex < fuel + start) :
    ∃ less, stream.lastIndex < less + stop ∧
      scanForward stream fuel opened start = scanForward stream less opened stop := by
  induction balanced generalizing opened fuel with
  | nil => exact ⟨fuel, enough, rfl⟩
  | token plain _ induction =>
      obtain ⟨token, found, -⟩ := get?_of_role (by rw [plain]; nofun)
      obtain ⟨fuel, rfl, enoughLater⟩ := fuel_positive enough (TokenStream.le_of_get? found)
      rw [scanForward_plain plain]
      exact induction nonempty (enoughLater _ (Nat.lt_succ_self _))
  | @group start middle stop bracket opens _ closes _ innerInduction induction =>
      obtain ⟨token, found, -⟩ := get?_of_role (by rw [opens]; nofun)
      obtain ⟨closing, closingFound, -⟩ := get?_of_role (by rw [closes]; nofun)
      obtain ⟨fuel, rfl, enoughLater⟩ := fuel_positive enough (TokenStream.le_of_get? found)
      obtain ⟨less, enoughLess, innerSame⟩ := innerInduction
        (List.cons_ne_nil (Pending.mk start bracket) opened) (enoughLater _ (Nat.lt_succ_self _))
      obtain ⟨less, rfl, lessLater⟩ :=
        fuel_positive enoughLess (TokenStream.le_of_get? closingFound)
      rw [scanForward_opens opens, innerSame, scanForward_closes closes,
        if_neg (by simpa using nonempty)]
      exact induction nonempty (lessLater _ (Nat.lt_succ_self _))

/-- The bracket that closes a balanced range is found from the one that opens it. -/
theorem matchForward_eq {input : Input} {bracket : Bracket}
    (opens : bracketRole (input.stream.kindAt start) = .opens bracket)
    (balanced : Balanced input.stream (start + 1) stop)
    (closes : bracketRole (input.stream.kindAt stop) = .closes bracket) :
    matchForward input start = .ok (.ok stop) := by
  obtain ⟨token, found, -⟩ := get?_of_role (by rw [opens]; nofun)
  obtain ⟨closing, closingFound, -⟩ := get?_of_role (by rw [closes]; nofun)
  obtain ⟨fuel, fuelEq, enoughLater⟩ :=
    fuel_positive (fuel_ample input start) (TokenStream.le_of_get? found)
  obtain ⟨less, enoughLess, same⟩ := balanced.scanForward
    (List.cons_ne_nil (Pending.mk start bracket) []) (enoughLater _ (Nat.lt_succ_self _))
  obtain ⟨less, rfl, -⟩ := fuel_positive enoughLess (TokenStream.le_of_get? closingFound)
  unfold matchForward
  rw [fuelEq, scanForward_opens opens, same, scanForward_closes closes]
  rfl

theorem Balanced.scanBackward (balanced : Balanced stream middle stop) {close : Nat}
    {closed : List Pending} (nonempty : closed ≠ []) (le : start ≤ middle) :
    scanBackward stream close start closed (stop - start) =
      scanBackward stream close start closed (middle - start) := by
  induction balanced generalizing closed with
  | nil => rfl
  | token plain _ induction =>
      rw [induction nonempty (Nat.le_succ_of_le le), Nat.succ_sub le,
        scanBackward_plain (Nat.add_sub_cancel' le) plain]
  | @group middle inner stop bracket opens innerBalanced closes _ innerInduction induction =>
      have later := innerBalanced.le
      have innerLe : start ≤ inner := by omega
      rw [induction nonempty (Nat.le_succ_of_le innerLe), Nat.succ_sub innerLe,
        scanBackward_closes (Nat.add_sub_cancel' innerLe) closes,
        innerInduction (List.cons_ne_nil _ _) (Nat.le_succ_of_le le), Nat.succ_sub le,
        scanBackward_opening (Nat.add_sub_cancel' le) opens, if_neg (by simpa using nonempty)]

/-- The bracket that opens a balanced range is found from the one that closes it. -/
theorem matchBackward_eq {input : Input} {opening close : Nat} {bracket : Bracket}
    (le : start ≤ opening) (opens : bracketRole (input.stream.kindAt opening) = .opens bracket)
    (balanced : Balanced input.stream (opening + 1) close)
    (closes : bracketRole (input.stream.kindAt close) = .closes bracket) :
    matchBackward input close start = .ok (.ok opening) := by
  have later := balanced.le
  have closeLe : start ≤ close := by omega
  rw [matchBackward_closes closeLe closes,
    balanced.scanBackward (List.cons_ne_nil _ _) (Nat.le_succ_of_le le), Nat.succ_sub le,
    scanBackward_opening (Nat.add_sub_cancel' le) opens]
  rfl

end Scans

section Ends

variable {input : Input} {start opening closing stop : Nat}

theorem findEndFrom_name {fuel : Nat} {token : Token}
    (found : input.stream.get? start = some token) (isName : token.kind = .identifier) :
    findEndFrom input (fuel + 1) start = findEndFrom input fuel (start + 1) := by
  rw [findEndFrom]
  simp only [found, isName, if_true]

/-- The end of a declarator is looked for behind a whole group. -/
theorem findEndFrom_group {fuel : Nat} {bracket : Bracket}
    (opens : bracketRole (input.stream.kindAt opening) = .opens bracket)
    (balanced : Balanced input.stream (opening + 1) closing)
    (closes : bracketRole (input.stream.kindAt closing) = .closes bracket) :
    findEndFrom input (fuel + 1) opening = findEndFrom input fuel (closing + 1) := by
  obtain ⟨token, found, role⟩ := get?_of_role (by rw [opens]; nofun)
  rw [opens] at role
  have notName : token.kind ≠ .identifier := by
    intro isName
    rw [isName] at role
    cases role
  rw [findEndFrom]
  simp only [found, if_neg notName, role, matchForward_eq opens balanced closes]

/-- Nothing follows that continues a declarator. -/
structure EndsDeclarator (stream : TokenStream) (index : Nat) : Prop where
  unsuffixed : Unsuffixed stream index
  unnamed : stream.kindAt index ≠ .identifier

theorem findEndFrom_end {fuel : Nat} (ends : EndsDeclarator input.stream stop)
    (inside : stop ≤ input.stream.lastIndex) :
    findEndFrom input (fuel + 1) stop = .ok (.ok stop) := by
  obtain ⟨token, found⟩ := TokenStream.get?_isSome_of_le inside
  have kindEq := TokenStream.kindAt_of_get? found
  have unnamed := ends.unnamed
  rw [kindEq] at unnamed
  rw [findEndFrom]
  simp only [found, if_neg unnamed]
  split
  · rename_i bracket opens
    rw [← kindEq] at opens
    cases bracket with
    | round => exact absurd (kind_of_opens opens) ends.unsuffixed.1
    | square => exact absurd (kind_of_opens opens) ends.unsuffixed.2
  · rfl

theorem Declares.findEndFrom {shape : Shape} (declared : Declares input.stream shape start stop)
    {tree : Declarator} (isDeclarator : shape = .declarator tree) {fuel : Nat}
    (enough : input.stream.lastIndex < fuel + start) :
    ∃ less, input.stream.lastIndex < less + stop ∧
      findEndFrom input fuel start = findEndFrom input less stop := by
  have group : ∀ {start opening closing fuel : Nat} {bracket : Bracket},
      bracketRole (input.stream.kindAt opening) = .opens bracket →
      Balanced input.stream (opening + 1) closing →
      bracketRole (input.stream.kindAt closing) = .closes bracket →
      (∃ less, input.stream.lastIndex < less + opening ∧
        Parser.findEndFrom input fuel start = Parser.findEndFrom input less opening) →
      ∃ less, input.stream.lastIndex < less + (closing + 1) ∧
        Parser.findEndFrom input fuel start = Parser.findEndFrom input less (closing + 1) := by
    rintro start opening closing fuel bracket opens balanced closes ⟨less, enoughLess, same⟩
    obtain ⟨token, found, -⟩ := get?_of_role (by rw [opens]; nofun)
    obtain ⟨less, rfl, lessLater⟩ := fuel_positive enoughLess (TokenStream.le_of_get? found)
    have later := balanced.le
    refine ⟨less, lessLater _ (by omega), ?_⟩
    rw [same, findEndFrom_group opens balanced closes]
  induction declared generalizing tree fuel with
  | name found isName =>
      obtain ⟨fuel, rfl, enoughLater⟩ := fuel_positive enough (TokenStream.le_of_get? found)
      exact ⟨fuel, enoughLater _ (Nat.lt_succ_self _), findEndFrom_name found isName⟩
  | array _ opens closes induction =>
      exact group (by rw [opens]; rfl) .nil (by rw [closes]; rfl) (induction rfl enough)
  | sizedArray _ opens size closes induction =>
      exact group (by rw [opens]; rfl) size.balanced (by rw [closes]; rfl) (induction rfl enough)
  | function _ opens closes induction =>
      exact group (by rw [opens]; rfl) .nil (by rw [closes]; rfl) (induction rfl enough)
  | functionOf _ opens parameters closes induction _ =>
      exact group (by rw [opens]; rfl) parameters.balanced (by rw [closes]; rfl)
        (induction rfl enough)
  | lastParameter => cases isDeclarator
  | moreParameters => cases isDeclarator

theorem Declares.starts {stream : TokenStream} {shape : Shape}
    (declared : Declares stream shape start stop) {tree : Declarator}
    (isDeclarator : shape = .declarator tree) : stream.kindAt start = .identifier := by
  induction declared generalizing tree with
  | name found isName => rw [TokenStream.kindAt_of_get? found, isName]
  | array _ _ _ induction => exact induction rfl
  | sizedArray _ _ _ _ induction => exact induction rfl
  | function _ _ _ induction => exact induction rfl
  | functionOf _ _ _ _ induction _ => exact induction rfl
  | lastParameter => cases isDeclarator
  | moreParameters => cases isDeclarator

theorem Declares.inside {stream : TokenStream} {tree : Declarator}
    (declared : Declares stream (.declarator tree) start stop) : stop ≤ stream.lastIndex := by
  have before : start < stream.lastIndex :=
    TokenStream.lt_lastIndex_of_kindAt (by rw [declared.starts rfl]; decide)
  exact (declared.balanced.reaches (Nat.le_of_lt before)).inside

theorem Declares.findEnd {tree : Declarator}
    (declared : Declares input.stream (.declarator tree) start stop)
    (ends : EndsDeclarator input.stream stop) : findEnd input start = .ok (.ok stop) := by
  obtain ⟨less, enoughLess, same⟩ := declared.findEndFrom rfl (fuel_ample input start)
  obtain ⟨less, rfl, -⟩ := fuel_positive enoughLess declared.inside
  unfold Parser.findEnd
  rw [same, findEndFrom_end ends declared.inside]

end Ends

section Shapes

variable {input : Input} {start opening closing stop : Nat}

/-- What a shape that is derived leads to, within enough nesting. -/
def CompletesShape (input : Input) (start stop : Nat) : Shape → Prop
  | .declarator tree =>
      ∀ budget, 3 * (input.stream.lastIndex - start) + (stop - start) ≤ budget →
        Builds input budget Declarator.withoutSpans (resolve input budget start stop) tree stop
  | .parameters trees =>
      input.stream.kindAt stop = .rightParen →
        ∀ budget, 3 * (input.stream.lastIndex - start) + (stop - start) ≤ budget →
          ∀ fuel, input.stream.lastIndex < fuel + start →
            ∃ list, DeclarationRoot.listWithoutSpans list = trees ∧
              Gives input budget (parametersFrom input (resolve input budget) stop fuel start)
                (.ok list)

theorem resolve_gives (forgetful : Forgetful input) {budget : Nat} {outcome : Outcome Declarator}
    (gives : Gives input budget
      (shape input (resolve input budget) (expression input budget) start stop) outcome) :
    Gives input (budget + 1) (resolve input (budget + 1) start stop) outcome :=
  gives.guarded.supervise forgetful

/-- A declarator with a group behind its base answers as what is made of the group. -/
theorem resolve_group (forgetful : Forgetful input) {budget : Nat} {bracket : Bracket}
    {base : Declarator} {outcome : Outcome Declarator}
    (baseGives : Gives input budget (resolve input budget start opening)
      (.ok { node := base, stop := opening }))
    (lt : start < opening) (opens : bracketRole (input.stream.kindAt opening) = .opens bracket)
    (balanced : Balanced input.stream (opening + 1) closing)
    (closes : bracketRole (input.stream.kindAt closing) = .closes bracket)
    (rest : Gives input budget
      (match bracket with
        | .square => do
            let size ← arraySize (expression input budget) opening closing
            return {
              node := .array (covering start (closing + 1)) base size
              stop := closing + 1
            }
        | .round => do
            let list ← parameters input (resolve input budget) opening closing
            return {
              node := .function (covering start (closing + 1)) base list
              stop := closing + 1
            }) outcome) :
    Gives input (budget + 1) (resolve input (budget + 1) start (closing + 1)) outcome := by
  have later := balanced.le
  obtain ⟨last, found, role⟩ := get?_of_role (by rw [closes]; nofun)
  rw [closes] at role
  apply resolve_gives forgetful
  unfold shape
  rw [if_neg (by omega)]
  apply Gives.bind (.tokenAt found)
  rw [role, Nat.add_sub_cancel, matchBackward_eq (Nat.le_of_lt lt) opens balanced closes]
  apply Gives.bind .pure
  rw [if_neg (Nat.ne_of_gt lt)]
  exact baseGives.bind rest

theorem completes_name (forgetful : Forgetful input) {token : Token}
    (found : input.stream.get? start = some token) (isName : token.kind = .identifier) :
    CompletesShape input start (start + 1) (.declarator (.name none token)) := by
  intro budget room
  obtain ⟨budget, rfl⟩ : ∃ less, budget = less + 1 := ⟨budget - 1, by omega⟩
  refine ⟨.name (covering start (start + 1)) token, rfl, resolve_gives forgetful ?_⟩
  unfold shape
  rw [if_neg (by omega)]
  apply Gives.bind (.tokenAt found)
  rw [isName]
  change Gives _ _ (if start + 1 = start + 1 ∧ Kind.identifier = .identifier then _ else _) _
  rw [if_pos ⟨rfl, rfl⟩]
  exact .pure

variable {base : Declarator}

theorem completes_array (forgetful : Forgetful input)
    (completes : CompletesShape input start opening (.declarator base)) (lt : start < opening)
    (opens : input.stream.kindAt opening = .leftBracket)
    (closes : input.stream.kindAt (opening + 1) = .rightBracket) :
    CompletesShape input start (opening + 2) (.declarator (.array none base none)) := by
  intro budget room
  obtain ⟨budget, rfl⟩ : ∃ less, budget = less + 1 := ⟨budget - 1, by omega⟩
  obtain ⟨node, rfl, gives⟩ := completes budget (by omega)
  refine ⟨.array (covering start (opening + 2)) node none, rfl, ?_⟩
  apply resolve_group forgetful gives lt (by rw [opens]; rfl) .nil (by rw [closes]; rfl)
  unfold arraySize
  rw [if_pos rfl]
  exact Gives.pure.bind .pure

theorem completes_sizedArray (forgetful : Forgetful input) {size : Expr}
    (completes : CompletesShape input start opening (.declarator base)) (lt : start < opening)
    (opens : input.stream.kindAt opening = .leftBracket)
    (sizeDerived : Derives input.stream (.expr .assignment size) (opening + 1) closing)
    (closes : input.stream.kindAt closing = .rightBracket) :
    CompletesShape input start (closing + 1) (.declarator (.array none base (some size))) := by
  intro budget room
  have later := sizeDerived.lt
  obtain ⟨budget, rfl⟩ : ∃ less, budget = less + 1 := ⟨budget - 1, by omega⟩
  obtain ⟨node, rfl, gives⟩ := completes budget (by omega)
  have inside := sizeDerived.inside
  obtain ⟨sizeNode, rfl, sizeGives⟩ : Builds input budget Expr.withoutSpans
      (expression input budget .assignment (opening + 1)) size closing :=
    sizeDerived.found forgetful (by rw [closes]; rfl) (by omega)
  refine ⟨.array (covering start (closing + 1)) node (some sizeNode), rfl, ?_⟩
  apply resolve_group forgetful gives lt (by rw [opens]; rfl) sizeDerived.balanced
    (by rw [closes]; rfl)
  have measured : Gives input budget (arraySize (expression input budget) opening closing)
      (.ok (some sizeNode)) := by
    unfold arraySize
    rw [if_neg (by omega)]
    apply sizeGives.bind
    rw [if_pos rfl]
    exact .pure
  exact measured.bind .pure

theorem completes_function (forgetful : Forgetful input)
    (completes : CompletesShape input start opening (.declarator base)) (lt : start < opening)
    (opens : input.stream.kindAt opening = .leftParen)
    (closes : input.stream.kindAt (opening + 1) = .rightParen) :
    CompletesShape input start (opening + 2) (.declarator (.function none base [])) := by
  intro budget room
  obtain ⟨budget, rfl⟩ : ∃ less, budget = less + 1 := ⟨budget - 1, by omega⟩
  obtain ⟨node, rfl, gives⟩ := completes budget (by omega)
  refine ⟨.function (covering start (opening + 2)) node [], rfl, ?_⟩
  apply resolve_group forgetful gives lt (by rw [opens]; rfl) .nil (by rw [closes]; rfl)
  unfold parameters
  rw [if_pos rfl]
  exact Gives.pure.bind .pure

theorem completes_functionOf (forgetful : Forgetful input) {trees : List DeclarationRoot}
    (completes : CompletesShape input start opening (.declarator base)) (lt : start < opening)
    (opens : input.stream.kindAt opening = .leftParen)
    (parametersComplete : CompletesShape input (opening + 1) closing (.parameters trees))
    (balanced : Balanced input.stream (opening + 1) closing) (later : opening + 1 < closing)
    (closes : input.stream.kindAt closing = .rightParen) :
    CompletesShape input start (closing + 1) (.declarator (.function none base trees)) := by
  intro budget room
  obtain ⟨budget, rfl⟩ : ∃ less, budget = less + 1 := ⟨budget - 1, by omega⟩
  obtain ⟨node, rfl, gives⟩ := completes budget (by omega)
  obtain ⟨list, rfl, listGives⟩ := parametersComplete closes budget (by omega) input.fuel
    (fuel_ample input (opening + 1))
  refine ⟨.function (covering start (closing + 1)) node list, rfl, ?_⟩
  apply resolve_group forgetful gives lt (by rw [opens]; rfl) balanced (by rw [closes]; rfl)
  unfold parameters
  rw [if_neg (by omega)]
  exact listGives.bind .pure

theorem declaratorAt_builds (forgetful : Forgetful input) {tree : Declarator} {budget : Nat}
    (declared : Declares input.stream (.declarator tree) start stop)
    (completes : CompletesShape input start stop (.declarator tree))
    (ends : EndsDeclarator input.stream stop)
    (room : 3 * (input.stream.lastIndex - start) + (stop - start) ≤ budget) :
    Builds input budget Declarator.withoutSpans (declaratorAt input (resolve input budget) start)
      tree stop := by
  obtain ⟨node, rfl, gives⟩ := completes budget room
  refine ⟨node, rfl, ?_⟩
  apply Gives.supervise forgetful
  rw [declared.findEnd ends]
  apply Gives.bind .pure
  rw [if_neg (Nat.ne_of_gt declared.lt)]
  exact gives.bind .pure

/-- Kinds of tokens that declarators stand before. -/
def delimitsDeclarator : Kind → Bool
  | .rightParen | .comma | .assign | .semicolon | .leftBrace => true
  | _ => false

theorem endsDeclarator_of_delimits {stream : TokenStream} {index : Nat}
    (delimiter : delimitsDeclarator (stream.kindAt index) = true) :
    EndsDeclarator stream index := by
  refine ⟨⟨?_, ?_⟩, ?_⟩ <;> intro isKind <;> rw [isKind] at delimiter <;> cases delimiter

theorem not_specifier_of_declarator {stream : TokenStream} {tree : Declarator}
    (declared : Declares stream (.declarator tree) start stop) :
    (stream.kindAt start).isTypeSpecifier = false := by
  rw [declared.starts rfl]
  rfl

theorem completes_lastParameter (forgetful : Forgetful input) {specifiers : List Token}
    {tree : Declarator} {middle : Nat} (specified : Specifiers input.stream specifiers start middle)
    (declared : Declares input.stream (.declarator tree) middle stop)
    (completes : CompletesShape input middle stop (.declarator tree)) :
    CompletesShape input start stop (.parameters [.single none specifiers tree]) := by
  intro closes budget room fuel enough
  have first := specified.lt
  have last := declared.lt
  have inside := declared.inside
  obtain ⟨fuel, rfl, -⟩ := fuel_positive enough (by omega)
  have ends : EndsDeclarator input.stream stop := endsDeclarator_of_delimits (by rw [closes]; rfl)
  obtain ⟨node, rfl, gives⟩ : Builds input budget Declarator.withoutSpans
      (declaratorAt input (resolve input budget) middle) tree stop :=
    declaratorAt_builds forgetful declared completes ends (by omega)
  refine ⟨[.single (covering start stop) specifiers node], rfl, ?_⟩
  unfold parametersFrom
  apply (specifiers_gives forgetful specified (not_specifier_of_declarator declared)).bind
  apply gives.bind
  rw [if_pos rfl]
  exact .pure

theorem completes_moreParameters (forgetful : Forgetful input) {specifiers : List Token}
    {tree : Declarator} {middle last : Nat} {rest : List DeclarationRoot}
    (specified : Specifiers input.stream specifiers start middle)
    (declared : Declares input.stream (.declarator tree) middle stop)
    (completes : CompletesShape input middle stop (.declarator tree))
    (comma : input.stream.kindAt stop = .comma)
    (restCompletes : CompletesShape input (stop + 1) last (.parameters rest))
    (later : stop < last) :
    CompletesShape input start last (.parameters (.single none specifiers tree :: rest)) := by
  intro closes budget room fuel enough
  have first := specified.lt
  have second := declared.lt
  have inside := declared.inside
  obtain ⟨fuel, rfl, enoughLater⟩ := fuel_positive enough (by omega)
  have ends : EndsDeclarator input.stream stop := endsDeclarator_of_delimits (by rw [comma]; rfl)
  obtain ⟨node, rfl, gives⟩ : Builds input budget Declarator.withoutSpans
      (declaratorAt input (resolve input budget) middle) tree stop :=
    declaratorAt_builds forgetful declared completes ends (by omega)
  obtain ⟨nodes, rfl, restGives⟩ :=
    restCompletes closes budget (by omega) fuel (enoughLater _ (by omega))
  refine ⟨.single (covering start stop) specifiers node :: nodes, rfl, ?_⟩
  unfold parametersFrom
  apply (specifiers_gives forgetful specified (not_specifier_of_declarator declared)).bind
  apply gives.bind
  dsimp only
  rw [if_neg (Nat.ne_of_lt later), Input.kindAt, if_pos comma]
  exact restGives.bind .pure

/-- Every derived shape is found, within enough nesting. -/
theorem Declares.completes (forgetful : Forgetful input) {shape : Shape}
    (declared : Declares input.stream shape start stop) :
    CompletesShape input start stop shape := by
  induction declared with
  | name found isName => exact completes_name forgetful found isName
  | array base opens closes induction =>
      exact completes_array forgetful induction base.lt opens closes
  | sizedArray base opens size closes induction =>
      exact completes_sizedArray forgetful induction base.lt opens size closes
  | function base opens closes induction =>
      exact completes_function forgetful induction base.lt opens closes
  | functionOf base opens parameters closes induction parametersInduction =>
      exact completes_functionOf forgetful induction base.lt opens parametersInduction
        parameters.balanced parameters.lt closes
  | lastParameter specified declared induction =>
      exact completes_lastParameter forgetful specified declared induction
  | moreParameters specified declared comma rest induction restInduction =>
      exact completes_moreParameters forgetful specified declared induction comma restInduction
        (Nat.lt_of_succ_lt rest.lt)

theorem Declares.found (forgetful : Forgetful input) {tree : Declarator} {budget : Nat}
    (declared : Declares input.stream (.declarator tree) start stop)
    (delimiter : delimitsDeclarator (input.stream.kindAt stop) = true)
    (room : 4 * (input.stream.lastIndex - start) ≤ budget) :
    Builds input budget Declarator.withoutSpans (declarator input budget start) tree stop := by
  have inside := declared.inside
  exact declaratorAt_builds forgetful declared (declared.completes forgetful)
    (endsDeclarator_of_delimits delimiter) (by omega)

end Shapes

end MiniC.Parser
