import MiniC.Proofs.BlockRecovery
import MiniC.Proofs.CompleteDeclarator

/-!
# Derived statements and units are matched

The first token of a statement decides its form, and every form before it fails at
that token.  A declaration fails where a statement stands, and at the brace of a
function body.  So the loops over the items of blocks and units keep every item of a
derivation, and no error is met.
-/

namespace MiniC.Parser

section Declarations

variable {input : Input} {start middle stop : Nat}

/-- Kinds of tokens that end a declarator with its initial value. -/
def delimitsItem : Kind → Bool
  | .comma | .semicolon => true
  | _ => false

theorem delimits_of_item {kind : Kind} (delimiter : delimitsItem kind = true) :
    delimits kind = true ∧ delimitsDeclarator kind = true ∧ kind ≠ .assign := by
  unfold delimitsItem at delimiter
  split at delimiter <;> first | exact ⟨rfl, rfl, nofun⟩ | cases delimiter

theorem initialValue_gives (forgetful : Forgetful input) (budget : Nat) {value : Option Expr}
    (derived : DerivesInitial input.stream value start stop)
    (delimiter : delimitsItem (input.stream.kindAt stop) = true)
    (room : 3 * (input.stream.lastIndex - start) ≤ budget) :
    ∃ node : Option Expr, node.map Expr.withoutSpans = value ∧
      Gives input budget (initialValue input (expression input budget) start)
        (.ok (node, stop)) := by
  obtain ⟨delimiterExpr, -, notAssign⟩ := delimits_of_item delimiter
  cases derived with
  | none =>
      refine ⟨none, rfl, ?_⟩
      unfold initialValue Input.kindAt
      rw [if_neg notAssign]
      exact .pure
  | some assigns derived =>
      have before : start < input.stream.lastIndex :=
        TokenStream.lt_lastIndex_of_kindAt_eq assigns (by decide)
      obtain ⟨node, rfl, gives⟩ : Builds input budget Expr.withoutSpans
          (expression input budget .assignment (start + 1)) _ stop :=
        derived.found forgetful delimiterExpr (by omega)
      refine ⟨some node, rfl, ?_⟩
      unfold initialValue Input.kindAt
      rw [if_pos assigns]
      exact gives.bind .pure

theorem delimits_initial {stream : TokenStream} {value : Option Expr}
    (derived : DerivesInitial stream value start stop)
    (delimiter : delimitsItem (stream.kindAt stop) = true) :
    delimitsDeclarator (stream.kindAt start) = true := by
  cases derived with
  | none => exact (delimits_of_item delimiter).2.1
  | some assigns _ => rw [assigns]; rfl

theorem initDeclarators_builds (forgetful : Forgetful input) (budget : Nat)
    {items : List InitDeclarator} {fuel : Nat}
    (derived : DerivesItems input.stream items start stop)
    (semicolon : input.stream.kindAt stop = .semicolon)
    (room : 4 * (input.stream.lastIndex - start) ≤ budget)
    (enough : input.stream.lastIndex < fuel + start) :
    Builds input budget InitDeclarator.listWithoutSpans
      (initDeclarators input (expression input budget) (declarator input budget) fuel start) items
      stop := by
  induction derived generalizing fuel with
  | @last start middle stop tree value declared initial =>
      have delimiter : delimitsItem (input.stream.kindAt stop) = true := by rw [semicolon]; rfl
      have inside := declared.inside
      have first := declared.lt
      obtain ⟨fuel, rfl, -⟩ := fuel_positive enough (by omega)
      obtain ⟨node, rfl, gives⟩ :=
        declared.found forgetful (delimits_initial initial delimiter) room
      obtain ⟨value, rfl, valueGives⟩ :=
        initialValue_gives forgetful budget initial delimiter (by omega)
      refine ⟨[.mk node value], ?_, ?_⟩
      · simp [InitDeclarator.listWithoutSpans, InitDeclarator.withoutSpans]
      · unfold initDeclarators
        apply gives.bind
        apply valueGives.bind
        dsimp only
        rw [Input.kindAt, semicolon, if_neg (by decide)]
        exact .pure
  | @more start middle stop last tree value rest declared initial comma _ induction =>
      have delimiter : delimitsItem (input.stream.kindAt stop) = true := by rw [comma]; rfl
      have inside := declared.inside
      have first := declared.lt
      have second := initial.le
      obtain ⟨fuel, rfl, enoughLater⟩ := fuel_positive enough (by omega)
      obtain ⟨node, rfl, gives⟩ :=
        declared.found forgetful (delimits_initial initial delimiter) room
      obtain ⟨value, rfl, valueGives⟩ :=
        initialValue_gives forgetful budget initial delimiter (by omega)
      obtain ⟨nodes, rfl, restGives⟩ :=
        induction semicolon (by omega) (enoughLater _ (by omega))
      refine ⟨.mk node value :: nodes, ?_, ?_⟩
      · simp [InitDeclarator.listWithoutSpans, InitDeclarator.withoutSpans]
      · unfold initDeclarators
        apply gives.bind
        apply valueGives.bind
        dsimp only
        rw [Input.kindAt, if_pos comma]
        exact restGives.bind .pure

theorem DerivesItems.starts {stream : TokenStream} {items : List InitDeclarator}
    (derived : DerivesItems stream items start stop) : stream.kindAt start = .identifier := by
  cases derived with
  | last declared _ => exact declared.starts rfl
  | more declared _ _ _ => exact declared.starts rfl

theorem declaration_builds (forgetful : Forgetful input) (budget : Nat) {tree : Declaration}
    (derived : DerivesDeclaration input.stream tree start stop)
    (room : 4 * (input.stream.lastIndex - start) ≤ budget) :
    Builds input budget Declaration.withoutSpans (declaration input budget start) tree stop := by
  cases derived with
  | @bare _ stop specifiers specified semicolon =>
      refine ⟨.mk (covering start (stop + 1)) (.mk (covering start stop) specifiers []) none,
        ?_, ?_⟩
      · simp [Declaration.withoutSpans, DeclarationRoot.withoutSpans,
          InitDeclarator.listWithoutSpans, Block.optionWithoutSpans]
      · apply Gives.supervise forgetful
        apply (specifiers_gives forgetful specified (by rw [semicolon]; rfl)).bind
        have listed : Gives input budget
            (declaredItems input (expression input budget) (declarator input budget) stop)
            (.ok { node := [], stop }) := by
          unfold declaredItems Input.kindAt
          rw [if_pos semicolon]
          exact .pure
        exact listed.bind ((Gives.expect semicolon).bind .pure)
  | @declared _ middle stop specifiers items specified derived semicolon =>
      have first := specified.lt
      obtain ⟨nodes, rfl, gives⟩ := initDeclarators_builds forgetful budget derived semicolon
        (by omega) (fuel_ample input middle)
      refine ⟨.mk (covering start (stop + 1)) (.mk (covering start stop) specifiers nodes) none,
        ?_, ?_⟩
      · simp [Declaration.withoutSpans, DeclarationRoot.withoutSpans, Block.optionWithoutSpans]
      · apply Gives.supervise forgetful
        apply (specifiers_gives forgetful specified (by rw [derived.starts]; rfl)).bind
        have listed : Gives input budget
            (declaredItems input (expression input budget) (declarator input budget) middle)
            (.ok { node := nodes, stop }) := by
          unfold declaredItems Input.kindAt
          rw [derived.starts, if_neg (by decide)]
          exact gives
        exact listed.bind ((Gives.expect semicolon).bind .pure)

/-- No declaration starts with a token that is no type specifier. -/
theorem specifiers_refuses (forgetful : Forgetful input)
    (inside : start ≤ input.stream.lastIndex)
    (unspecified : (input.stream.kindAt start).isTypeSpecifier = false) :
    Refuses input budget (specifiers input start) := by
  obtain ⟨token, found⟩ := TokenStream.get?_isSome_of_le inside
  apply Refuses.supervise forgetful
  apply Refuses.after (.tokenAt found)
  simp only [specifierRun_end unspecified, List.isEmpty_nil, if_true]
  exact .throw nofun

end Declarations

section Loops

variable {α : Type} {input : Input} {item : Nat → Attempt (Match α)} {description : String}
  {budget limit fuel index next : Nat}

/-- A loop over items keeps them all, from every fresh state in which a budget of guarded
rules is admitted. -/
def LoopGives (input : Input) (budget : Nat) (compute : Engine (Match (List α)))
    (nodes : List α) (stop : Nat) : Prop :=
  ∀ active before, Admits input active budget → Fresh active before →
    ∃ after, compute before = .ok { node := nodes, stop } after ∧ Fresh active after

theorem LoopGives.done :
    LoopGives input budget (itemsFrom input item description limit (fuel + 1) limit) [] limit :=
  fun _ before _ fresh => ⟨before, itemsFrom_done (Nat.le_refl limit), fresh⟩

theorem LoopGives.keep {node : α} {nodes : List α} (more : index < limit)
    (gives : Gives input budget (item index) (.ok { node, stop := next }))
    (rest : LoopGives input budget (itemsFrom input item description limit fuel next) nodes
      limit) :
    LoopGives input budget (itemsFrom input item description limit (fuel + 1) index)
      (node :: nodes) limit := by
  intro active before admits fresh
  have below : limitReached input before = false := by
    have positive := input.options.maxErrors_pos
    simp only [limitReached, fresh.count, fresh.reported, decide_eq_false_iff_not]
    simp only [List.length_nil]
    omega
  obtain ⟨between, ran, betweenFresh⟩ := gives active { before with noted := [] } admits
    ⟨fresh.nesting, fresh.unfelt, fresh.count, fresh.reported⟩
  obtain ⟨after, restRan, afterFresh⟩ := rest active
    { between with noted := before.noted, errorCount := before.errorCount + 0 } admits
    ⟨betweenFresh.nesting, betweenFresh.unfelt, fresh.count, betweenFresh.reported⟩
  refine ⟨after, ?_, afterFresh⟩
  rw [itemsFrom_kept (Nat.not_le_of_lt more) below ran]
  dsimp only [List.length_nil]
  rw [restRan]
  rfl

end Loops

section Statements

variable {input : Input} {start middle stop : Nat}

/-- What a clause that is derived leads to, within enough nesting. -/
def CompletesClause (input : Input) (start stop : Nat) : Clause → Prop
  | .statement tree =>
      ∀ budget, 4 * (input.stream.lastIndex - start) + 4 ≤ budget →
        Builds input budget Statement.withoutSpans (statement input budget start) tree stop
  | .items trees =>
      input.stream.kindAt stop = .rightBrace →
        ∀ budget, 4 * (input.stream.lastIndex - start) + 4 ≤ budget →
          ∀ fuel, input.stream.lastIndex < fuel + start →
            ∃ nodes, Statement.listWithoutSpans nodes = trees ∧
              LoopGives input budget
                (itemsFrom input (blockItem (statement input budget) (declaration input budget))
                  "declaration or statement" stop fuel start) nodes stop
  | .block tree =>
      ∀ budget, 4 * (input.stream.lastIndex - start) ≤ budget →
        Builds input budget Block.withoutSpans (block input budget start) tree stop

theorem Gives.describe {α : Type} {attempt : Attempt α} {handle : Diagnostic → Diagnostic}
    {value : α} (gives : Gives input budget attempt (.ok value)) :
    Gives input budget (tryCatch attempt fun failure => MonadExcept.throw (handle failure))
      (.ok value) := by
  intro active before admits fresh
  obtain ⟨after, ran, afterFresh⟩ := gives active before admits fresh
  exact ⟨after, describe_run ran, afterFresh⟩

theorem Refuses.word {α : Type} {word : Kind} {next : Nat → Attempt (Match α)}
    (forgetful : Forgetful input) (different : input.stream.kindAt start ≠ word) :
    Refuses input budget (Parser.supervise input start (Parser.expect input word start >>= next)) :=
  (Refuses.expect different).bind.supervise forgetful

theorem statement_gives (forgetful : Forgetful input) {budget : Nat} {found : Match Statement}
    (gives : Gives input budget (anyForm input (expression input budget) (statement input budget)
      (declaration input budget) start) (.ok found)) :
    Gives input (budget + 1) (statement input (budget + 1) start) (.ok found) :=
  gives.describe.guarded.supervise forgetful

theorem condition_builds (forgetful : Forgetful input) {budget : Nat} {test : Expr}
    (opens : input.stream.kindAt start = .leftParen)
    (derived : Derives input.stream (.expr .assignment test) (start + 1) middle)
    (closes : input.stream.kindAt middle = .rightParen)
    (room : 3 * (input.stream.lastIndex - start) ≤ budget) :
    Builds input budget Expr.withoutSpans (condition input (expression input budget) start) test
      (middle + 1) := by
  have before : start < input.stream.lastIndex :=
    TokenStream.lt_lastIndex_of_kindAt_eq opens (by decide)
  obtain ⟨node, rfl, gives⟩ : Builds input budget Expr.withoutSpans
      (expression input budget .assignment (start + 1)) test middle :=
    derived.found forgetful (by rw [closes]; rfl) (by omega)
  refine ⟨node, rfl, ?_⟩
  apply Gives.supervise forgetful
  exact (Gives.expect opens).bind (gives.bind ((Gives.expect closes).bind .pure))

theorem completes_ifOnly (forgetful : Forgetful input) {test : Expr} {thenBranch : Statement}
    (word : input.stream.kindAt start = .ifWord)
    (opens : input.stream.kindAt (start + 1) = .leftParen)
    (derived : Derives input.stream (.expr .assignment test) (start + 2) middle)
    (closes : input.stream.kindAt middle = .rightParen)
    (completes : CompletesClause input (middle + 1) stop (.statement thenBranch))
    (alone : input.stream.kindAt stop ≠ .elseWord) :
    CompletesClause input start stop (.statement (.ifElse none test thenBranch none)) := by
  intro budget room
  have later := derived.lt
  have inside := derived.inside
  obtain ⟨budget, rfl⟩ : ∃ less, budget = less + 1 := ⟨budget - 1, by omega⟩
  obtain ⟨testNode, rfl, testGives⟩ : Builds input budget Expr.withoutSpans
      (condition input (expression input budget) (start + 1)) test (middle + 1) :=
    condition_builds forgetful opens derived closes (by omega)
  obtain ⟨thenNode, rfl, thenGives⟩ := completes budget (by omega)
  refine ⟨.ifElse (covering start stop) testNode thenNode none, ?_, statement_gives forgetful ?_⟩
  · simp only [Statement.withoutSpans, Statement.optionWithoutSpans]
  · apply Gives.firstOf
    apply Gives.supervise forgetful
    apply (Gives.expect word).bind
    apply testGives.bind
    apply thenGives.bind
    rw [Input.kindAt, if_neg alone]
    exact .pure

theorem completes_ifElse (forgetful : Forgetful input) {test : Expr} {between : Nat}
    {thenBranch elseBranch : Statement} (word : input.stream.kindAt start = .ifWord)
    (opens : input.stream.kindAt (start + 1) = .leftParen)
    (derived : Derives input.stream (.expr .assignment test) (start + 2) middle)
    (closes : input.stream.kindAt middle = .rightParen)
    (completes : CompletesClause input (middle + 1) between (.statement thenBranch))
    (advances : middle + 1 < between) (alternative : input.stream.kindAt between = .elseWord)
    (elseCompletes : CompletesClause input (between + 1) stop (.statement elseBranch)) :
    CompletesClause input start stop
      (.statement (.ifElse none test thenBranch (some elseBranch))) := by
  intro budget room
  have later := derived.lt
  have inside := derived.inside
  obtain ⟨budget, rfl⟩ : ∃ less, budget = less + 1 := ⟨budget - 1, by omega⟩
  obtain ⟨testNode, rfl, testGives⟩ : Builds input budget Expr.withoutSpans
      (condition input (expression input budget) (start + 1)) test (middle + 1) :=
    condition_builds forgetful opens derived closes (by omega)
  obtain ⟨thenNode, rfl, thenGives⟩ := completes budget (by omega)
  obtain ⟨elseNode, rfl, elseGives⟩ := elseCompletes budget (by omega)
  refine ⟨.ifElse (covering start stop) testNode thenNode (some elseNode), ?_,
    statement_gives forgetful ?_⟩
  · simp only [Statement.withoutSpans, Statement.optionWithoutSpans]
  · apply Gives.firstOf
    apply Gives.supervise forgetful
    apply (Gives.expect word).bind
    apply testGives.bind
    apply thenGives.bind
    dsimp only
    rw [Input.kindAt, if_pos alternative]
    exact elseGives.bind .pure

theorem completes_whileLoop (forgetful : Forgetful input) {test : Expr} {body : Statement}
    (word : input.stream.kindAt start = .whileWord)
    (opens : input.stream.kindAt (start + 1) = .leftParen)
    (derived : Derives input.stream (.expr .assignment test) (start + 2) middle)
    (closes : input.stream.kindAt middle = .rightParen)
    (completes : CompletesClause input (middle + 1) stop (.statement body)) :
    CompletesClause input start stop (.statement (.whileLoop none test body)) := by
  intro budget room
  have later := derived.lt
  have inside := derived.inside
  obtain ⟨budget, rfl⟩ : ∃ less, budget = less + 1 := ⟨budget - 1, by omega⟩
  obtain ⟨testNode, rfl, testGives⟩ : Builds input budget Expr.withoutSpans
      (condition input (expression input budget) (start + 1)) test (middle + 1) :=
    condition_builds forgetful opens derived closes (by omega)
  obtain ⟨bodyNode, rfl, bodyGives⟩ := completes budget (by omega)
  refine ⟨.whileLoop (covering start stop) testNode bodyNode, ?_, statement_gives forgetful ?_⟩
  · simp only [Statement.withoutSpans]
  · apply Gives.firstOf_later (.word forgetful (by rw [word]; decide))
    apply Selects.here
    apply Gives.supervise forgetful
    exact (Gives.expect word).bind (testGives.bind (bodyGives.bind .pure))

/-- A statement that is no loop and no condition, after the forms for those. -/
theorem statement_simple (forgetful : Forgetful input) {budget : Nat} {found : Match Statement}
    (notIf : input.stream.kindAt start ≠ .ifWord)
    (notWhile : input.stream.kindAt start ≠ .whileWord)
    (selects : Selects input budget
      [returnStatement input (expression input budget) start,
       wordStatement input .breakWord .breakLoop start,
       wordStatement input .continueWord .continueLoop start,
       (do
          let found ← block input budget start
          return found.map .compound),
       emptyStatement input start,
       expressionStatement input (expression input budget) start] found) :
    Gives input (budget + 1) (statement input (budget + 1) start) (.ok found) :=
  statement_gives forgetful
    (.firstOf_later (.word forgetful notIf) (.next (.word forgetful notWhile) selects))

theorem completes_returnNothing (forgetful : Forgetful input)
    (word : input.stream.kindAt start = .returnWord)
    (semicolon : input.stream.kindAt (start + 1) = .semicolon) :
    CompletesClause input start (start + 2) (.statement (.returnValue none none)) := by
  intro budget room
  obtain ⟨budget, rfl⟩ : ∃ less, budget = less + 1 := ⟨budget - 1, by omega⟩
  refine ⟨.returnValue (covering start (start + 2)) none, by simp [Statement.withoutSpans], ?_⟩
  apply statement_simple forgetful (by rw [word]; decide) (by rw [word]; decide)
  apply Selects.here
  apply Gives.supervise forgetful
  apply (Gives.expect word).bind
  rw [Input.kindAt, if_pos semicolon]
  exact .pure

theorem completes_returnValue (forgetful : Forgetful input) {value : Expr}
    (word : input.stream.kindAt start = .returnWord)
    (derived : Derives input.stream (.expr .assignment value) (start + 1) stop)
    (semicolon : input.stream.kindAt stop = .semicolon) :
    CompletesClause input start (stop + 1) (.statement (.returnValue none (some value))) := by
  intro budget room
  obtain ⟨budget, rfl⟩ : ∃ less, budget = less + 1 := ⟨budget - 1, by omega⟩
  obtain ⟨node, rfl, gives⟩ : Builds input budget Expr.withoutSpans
      (expression input budget .assignment (start + 1)) value stop :=
    derived.found forgetful (by rw [semicolon]; rfl) (by omega)
  refine ⟨.returnValue (covering start (stop + 1)) (some node),
    by simp [Statement.withoutSpans], ?_⟩
  apply statement_simple forgetful (by rw [word]; decide) (by rw [word]; decide)
  apply Selects.here
  apply Gives.supervise forgetful
  apply (Gives.expect word).bind
  have starts := derived.startsExpression
  have different : input.stream.kindAt (start + 1) ≠ .semicolon := by
    intro impossible
    rw [impossible] at starts
    cases starts
  rw [Input.kindAt, if_neg different]
  apply gives.bind
  dsimp only
  rw [Input.kindAt, if_pos semicolon]
  exact .pure

theorem wordStatement_gives (forgetful : Forgetful input) {word : Kind}
    (build : Option Span → Statement) (isWord : input.stream.kindAt start = word)
    (semicolon : input.stream.kindAt (start + 1) = .semicolon) :
    Gives input budget (wordStatement input word build start)
      (.ok { node := build (covering start (start + 2)), stop := start + 2 }) := by
  apply Gives.supervise forgetful
  exact (Gives.expect isWord).bind ((Gives.expect semicolon).bind .pure)

theorem completes_breakLoop (forgetful : Forgetful input)
    (word : input.stream.kindAt start = .breakWord)
    (semicolon : input.stream.kindAt (start + 1) = .semicolon) :
    CompletesClause input start (start + 2) (.statement (.breakLoop none)) := by
  intro budget room
  obtain ⟨budget, rfl⟩ : ∃ less, budget = less + 1 := ⟨budget - 1, by omega⟩
  refine ⟨.breakLoop (covering start (start + 2)), by simp [Statement.withoutSpans], ?_⟩
  apply statement_simple forgetful (by rw [word]; decide) (by rw [word]; decide)
  apply Selects.next (.word forgetful (by rw [word]; decide))
  exact .here (wordStatement_gives forgetful .breakLoop word semicolon)

theorem completes_continueLoop (forgetful : Forgetful input)
    (word : input.stream.kindAt start = .continueWord)
    (semicolon : input.stream.kindAt (start + 1) = .semicolon) :
    CompletesClause input start (start + 2) (.statement (.continueLoop none)) := by
  intro budget room
  obtain ⟨budget, rfl⟩ : ∃ less, budget = less + 1 := ⟨budget - 1, by omega⟩
  refine ⟨.continueLoop (covering start (start + 2)), by simp [Statement.withoutSpans], ?_⟩
  apply statement_simple forgetful (by rw [word]; decide) (by rw [word]; decide)
  apply Selects.next (.word forgetful (by rw [word]; decide))
  apply Selects.next (.word forgetful (by rw [word]; decide))
  exact .here (wordStatement_gives forgetful .continueLoop word semicolon)

theorem completes_compound (forgetful : Forgetful input) {tree : Block}
    (opens : input.stream.kindAt start = .leftBrace)
    (completes : CompletesClause input start stop (.block tree)) :
    CompletesClause input start stop (.statement (.compound tree)) := by
  intro budget room
  obtain ⟨budget, rfl⟩ : ∃ less, budget = less + 1 := ⟨budget - 1, by omega⟩
  obtain ⟨node, rfl, gives⟩ := completes budget (by omega)
  refine ⟨.compound node, by simp [Statement.withoutSpans], ?_⟩
  apply statement_simple forgetful (by rw [opens]; decide) (by rw [opens]; decide)
  apply Selects.next (.word forgetful (by rw [opens]; decide))
  apply Selects.next (.word forgetful (by rw [opens]; decide))
  apply Selects.next (.word forgetful (by rw [opens]; decide))
  exact .here (gives.bind .pure)

theorem completes_empty (forgetful : Forgetful input)
    (semicolon : input.stream.kindAt start = .semicolon) :
    CompletesClause input start (start + 1) (.statement (.empty none)) := by
  intro budget room
  obtain ⟨budget, rfl⟩ : ∃ less, budget = less + 1 := ⟨budget - 1, by omega⟩
  refine ⟨.empty (covering start (start + 1)), by simp [Statement.withoutSpans], ?_⟩
  apply statement_simple forgetful (by rw [semicolon]; decide) (by rw [semicolon]; decide)
  apply Selects.next (.word forgetful (by rw [semicolon]; decide))
  apply Selects.next (.word forgetful (by rw [semicolon]; decide))
  apply Selects.next (.word forgetful (by rw [semicolon]; decide))
  apply Selects.next
  · exact Refuses.bind (.word forgetful (by rw [semicolon]; decide))
  apply Selects.here
  apply Gives.supervise forgetful
  exact (Gives.expect semicolon).bind .pure

theorem completes_expression (forgetful : Forgetful input) {tree : Expr}
    (derived : Derives input.stream (.expr .assignment tree) start stop)
    (semicolon : input.stream.kindAt stop = .semicolon) :
    CompletesClause input start (stop + 1) (.statement (.expression none tree)) := by
  intro budget room
  obtain ⟨budget, rfl⟩ : ∃ less, budget = less + 1 := ⟨budget - 1, by omega⟩
  obtain ⟨node, rfl, gives⟩ : Builds input budget Expr.withoutSpans
      (expression input budget .assignment start) tree stop :=
    derived.found forgetful (by rw [semicolon]; rfl) (by omega)
  have starts := derived.startsExpression
  have other : ∀ word, startsExpression word = false → input.stream.kindAt start ≠ word := by
    rintro word hopeless rfl
    rw [hopeless] at starts
    cases starts
  refine ⟨.expression (covering start (stop + 1)) node, by simp [Statement.withoutSpans], ?_⟩
  apply statement_simple forgetful (other _ rfl) (other _ rfl)
  apply Selects.next (.word forgetful (other _ rfl))
  apply Selects.next (.word forgetful (other _ rfl))
  apply Selects.next (.word forgetful (other _ rfl))
  apply Selects.next
  · exact Refuses.bind (.word forgetful (other _ rfl))
  apply Selects.next (.word forgetful (other _ rfl))
  apply Selects.here
  apply Gives.supervise forgetful
  exact gives.bind ((Gives.expect semicolon).bind .pure)

/-- A token that starts a statement starts no declaration and ends no block. -/
theorem startsStatement_cases {kind : Kind} (starts : startsStatement kind = true) :
    kind.isTypeSpecifier = false ∧ kind ≠ .rightBrace ∧ kind ≠ .endOfInput := by
  refine ⟨?_, ?_, ?_⟩
  · cases specifies : kind.isTypeSpecifier with
    | false => rfl
    | true =>
        unfold Kind.isTypeSpecifier at specifies
        split at specifies <;> first | cases starts | cases specifies
  · rintro rfl
    cases starts
  · rintro rfl
    cases starts

theorem completes_declarationItem (forgetful : Forgetful input) {tree : Declaration}
    {rest : List Statement} (derived : DerivesDeclaration input.stream tree start middle)
    (completes : CompletesClause input middle stop (.items rest)) (le : middle ≤ stop) :
    CompletesClause input start stop (.items (.declaration tree :: rest)) := by
  intro closes budget room fuel enough
  have lt := derived.lt
  have inside : stop < input.stream.lastIndex :=
    TokenStream.lt_lastIndex_of_kindAt_eq closes (by decide)
  obtain ⟨fuel, rfl, enoughLater⟩ := fuel_positive enough (by omega)
  obtain ⟨node, rfl, gives⟩ := declaration_builds forgetful budget derived (by omega)
  obtain ⟨nodes, rfl, restGives⟩ :=
    completes closes budget (by omega) fuel (enoughLater _ lt)
  refine ⟨.declaration node :: nodes, by simp [Statement.listWithoutSpans, Statement.withoutSpans],
    restGives.keep (by omega) ?_⟩
  exact .firstOf (gives.bind .pure)

theorem completes_statementItem (forgetful : Forgetful input) {tree : Statement}
    {rest : List Statement} (completes : CompletesClause input start middle (.statement tree))
    (starts : startsStatement (input.stream.kindAt start) = true) (lt : start < middle)
    (restCompletes : CompletesClause input middle stop (.items rest)) (le : middle ≤ stop) :
    CompletesClause input start stop (.items (tree :: rest)) := by
  intro closes budget room fuel enough
  have inside : stop < input.stream.lastIndex :=
    TokenStream.lt_lastIndex_of_kindAt_eq closes (by decide)
  obtain ⟨fuel, rfl, enoughLater⟩ := fuel_positive enough (by omega)
  obtain ⟨node, rfl, gives⟩ := completes budget room
  obtain ⟨nodes, rfl, restGives⟩ :=
    restCompletes closes budget (by omega) fuel (enoughLater _ lt)
  refine ⟨node :: nodes, by simp [Statement.listWithoutSpans], restGives.keep (by omega) ?_⟩
  have refuses : Refuses input budget (declaration input budget start) :=
    (specifiers_refuses forgetful (by omega) (startsStatement_cases starts).1).bind.supervise
      forgetful
  exact .firstOf_later refuses.bind (.here gives)

theorem completes_block (forgetful : Forgetful input) {trees : List Statement}
    (opens : input.stream.kindAt start = .leftBrace)
    (completes : CompletesClause input (start + 1) stop (.items trees))
    (reaches : Reaches input.stream (start + 1) stop)
    (closes : input.stream.kindAt stop = .rightBrace) :
    CompletesClause input start (stop + 1) (.block (.mk none trees)) := by
  intro budget room
  have before : start < input.stream.lastIndex :=
    TokenStream.lt_lastIndex_of_kindAt_eq opens (by decide)
  have limitEq : blockEnd input.stream (start + 1) = stop := by
    rw [← reaches.level, blockEnd_close closes]
  obtain ⟨nodes, rfl, loop⟩ := completes closes budget (by omega) input.fuel
    (fuel_ample input (start + 1))
  refine ⟨.mk (covering start (stop + 1)) nodes, by simp [Block.withoutSpans], ?_⟩
  intro active state admits fresh
  obtain ⟨after, ran, afterFresh⟩ := loop active state admits fresh
  refine ⟨after, ?_, afterFresh⟩
  have items : blockItems input budget start state = .ok { node := nodes, stop } after := by
    rw [blockItems_eq opens, limitEq]
    exact ran
  rw [block_run forgetful.unsupervised opens items, blockMatch, Input.kindAt, if_pos closes]

/-- Every derived clause is found, within enough nesting. -/
theorem Forms.completes (forgetful : Forgetful input) {clause : Clause}
    (forms : Forms input.stream .nearest clause start stop) :
    CompletesClause input start stop clause := by
  induction forms with
  | ifOnly word opens derived closes _ alone induction =>
      exact completes_ifOnly forgetful word opens derived closes induction (alone rfl)
  | ifElse word opens derived closes thenForms alternative _ thenInduction elseInduction =>
      exact completes_ifElse forgetful word opens derived closes thenInduction thenForms.advances
        alternative elseInduction
  | whileLoop word opens derived closes _ induction =>
      exact completes_whileLoop forgetful word opens derived closes induction
  | returnNothing word semicolon => exact completes_returnNothing forgetful word semicolon
  | returnValue word derived semicolon =>
      exact completes_returnValue forgetful word derived semicolon
  | breakLoop word semicolon => exact completes_breakLoop forgetful word semicolon
  | continueLoop word semicolon => exact completes_continueLoop forgetful word semicolon
  | compound block induction => exact completes_compound forgetful block.starts induction
  | empty semicolon => exact completes_empty forgetful semicolon
  | expression derived semicolon => exact completes_expression forgetful derived semicolon
  | @noItems start =>
      intro closes budget room fuel enough
      have inside : start < input.stream.lastIndex :=
        TokenStream.lt_lastIndex_of_kindAt_eq closes (by decide)
      obtain ⟨fuel, rfl, -⟩ := fuel_positive enough (Nat.le_of_lt inside)
      exact ⟨[], by simp [Statement.listWithoutSpans], .done⟩
  | declarationItem derived rest induction =>
      exact completes_declarationItem forgetful derived induction rest.advances
  | statementItem first rest induction restInduction =>
      exact completes_statementItem forgetful induction first.starts first.advances restInduction
        rest.advances
  | @block start stop trees opens items closes induction =>
      have before : start < input.stream.lastIndex :=
        TokenStream.lt_lastIndex_of_kindAt_eq opens (by decide)
      exact completes_block forgetful opens induction (items.reaches before) closes

end Statements

section Units

variable {input : Input} {start stop : Nat}

/-- A function definition is no declaration: no semicolon follows its declarator. -/
theorem declaration_refuses (forgetful : Forgetful input) {specifiers : List Token}
    {tree : Declarator} {middle opening budget : Nat}
    (specified : Specifiers input.stream specifiers start middle)
    (declared : Declares input.stream (.declarator tree) middle opening)
    (opens : input.stream.kindAt opening = .leftBrace)
    (room : 4 * (input.stream.lastIndex - start) ≤ budget) :
    Refuses input budget (declaration input budget start) := by
  have first := specified.lt
  have second := declared.inside
  have third := declared.lt
  obtain ⟨node, -, gives⟩ := declared.found forgetful (by rw [opens]; rfl)
    (show 4 * (input.stream.lastIndex - middle) ≤ budget by omega)
  apply Refuses.supervise forgetful
  apply Refuses.after (specifiers_gives forgetful specified (not_specifier_of_declarator declared))
  have listed : Gives input budget
      (declaredItems input (expression input budget) (declarator input budget) middle)
      (.ok { node := [.mk node none], stop := opening }) := by
    obtain ⟨fuel, fuelEq, -⟩ := fuel_positive (fuel_ample input middle) (by omega)
    unfold declaredItems
    rw [Input.kindAt, declared.starts rfl, if_neg (by decide), fuelEq, initDeclarators]
    apply gives.bind
    have initial : Gives input budget (initialValue input (expression input budget) opening)
        (.ok (none, opening)) := by
      unfold initialValue
      rw [Input.kindAt, opens, if_neg (by decide)]
      exact .pure
    apply initial.bind
    dsimp only
    rw [Input.kindAt, opens, if_neg (by decide)]
    exact .pure
  apply Refuses.after listed
  apply Refuses.bind
  exact .expect (by rw [opens]; decide)

theorem functionDefinition_builds (forgetful : Forgetful input) {tree : Declaration}
    {budget : Nat} (derived : DerivesDefinition input.stream .nearest tree start stop)
    (room : 4 * (input.stream.lastIndex - start) ≤ budget) :
    Refuses input budget (declaration input budget start) ∧
      Builds input budget Declaration.withoutSpans (functionDefinition input budget start) tree
        stop := by
  cases derived with
  | @define _ middle opening _ specifiers declarator body specified declared isFunction forms =>
      have opens : input.stream.kindAt opening = .leftBrace := forms.starts
      refine ⟨declaration_refuses forgetful specified declared opens room, ?_⟩
      have first := specified.lt
      have second := declared.inside
      have third := declared.lt
      obtain ⟨node, rfl, gives⟩ := declared.found forgetful (by rw [opens]; rfl)
        (show 4 * (input.stream.lastIndex - middle) ≤ budget by omega)
      obtain ⟨bodyNode, rfl, bodyGives⟩ : Builds input budget Block.withoutSpans
        (block input budget opening) body stop := forms.completes forgetful budget (by omega)
      refine ⟨.mk (covering start stop) (.single (covering start opening) specifiers node)
        (some bodyNode), ?_, ?_⟩
      · simp [Declaration.withoutSpans, DeclarationRoot.single, DeclarationRoot.withoutSpans,
          InitDeclarator.listWithoutSpans, InitDeclarator.withoutSpans, Block.optionWithoutSpans]
      · apply Gives.supervise forgetful
        apply (specifiers_gives forgetful specified (not_specifier_of_declarator declared)).bind
        apply gives.bind
        dsimp only
        rw [if_pos (by simpa using isFunction)]
        exact bodyGives.bind .pure

theorem DerivesDefinition.lt {tree : Declaration}
    (derived : DerivesDefinition input.stream .nearest tree start stop) : start < stop := by
  cases derived with
  | @define _ _ opening _ _ _ _ specified declared _ forms =>
      have body : opening < stop := forms.advances
      exact Nat.lt_trans (Nat.lt_trans specified.lt declared.lt) body

theorem DerivesDeclarations.le {trees : List Declaration}
    (derived : DerivesDeclarations input.stream .nearest trees start stop) : start ≤ stop := by
  induction derived with
  | nil => exact Nat.le_refl _
  | declaration first _ induction => exact Nat.le_trans (Nat.le_of_lt first.lt) induction
  | definition first _ induction => exact Nat.le_trans (Nat.le_of_lt first.lt) induction

/-- The loop over a unit finds every derived declaration in turn. -/
theorem DerivesDeclarations.completes (forgetful : Forgetful input) {trees : List Declaration}
    (derived : DerivesDeclarations input.stream .nearest trees start stop)
    (whole : stop = input.stream.lastIndex)
    (room : 4 * (input.stream.lastIndex - start) ≤ input.options.maxNesting) :
    ∀ fuel, input.stream.lastIndex < fuel + start →
      ∃ nodes, Declaration.listWithoutSpans nodes = trees ∧
        LoopGives input input.options.maxNesting
          (itemsFrom input (unitItem input) "declaration" input.stream.lastIndex fuel start)
          nodes input.stream.lastIndex := by
  induction derived with
  | nil =>
      subst whole
      intro fuel enough
      obtain ⟨fuel, rfl, -⟩ := fuel_positive enough (Nat.le_refl _)
      exact ⟨[], by simp [Declaration.listWithoutSpans], .done⟩
  | @declaration start middle stop tree rest first more induction =>
      intro fuel enough
      have lt := first.lt
      have le := more.le
      obtain ⟨fuel, rfl, enoughLater⟩ := fuel_positive enough (by omega)
      obtain ⟨node, rfl, gives⟩ := declaration_builds forgetful _ first room
      obtain ⟨nodes, rfl, loop⟩ := induction whole (by omega) fuel (enoughLater _ lt)
      refine ⟨node :: nodes, by simp [Declaration.listWithoutSpans], ?_⟩
      exact loop.keep (by omega) (.firstOf gives)
  | @definition start middle stop tree rest first more induction =>
      intro fuel enough
      have lt := first.lt
      have le := more.le
      obtain ⟨fuel, rfl, enoughLater⟩ := fuel_positive enough (by omega)
      obtain ⟨refuses, node, rfl, gives⟩ := functionDefinition_builds forgetful first room
      obtain ⟨nodes, rfl, loop⟩ := induction whole (by omega) fuel (enoughLater _ lt)
      refine ⟨node :: nodes, by simp [Declaration.listWithoutSpans], ?_⟩
      exact loop.keep (by omega) (.firstOf_later refuses (.here gives))

end Units

end MiniC.Parser
