import MiniC.Proofs.Confinement
import MiniC.Proofs.Grammar

/-!
# Derivations

What the tokens of a derivation look like, whatever its tree is: which tokens it
starts with, that it takes at least one token, and that its brackets and braces are
balanced.  A unit that is derived with any attachment of its `else` branches is also
derived with every `else` at the nearest `if`.
-/

namespace MiniC.Parser

section Starts

variable {stream : TokenStream} {start stop : Nat}

/-- Kinds of tokens that primary expressions start with. -/
def startsPrimary : Kind → Bool
  | .identifier | .integerConstant | .doubleConstant | .charConstant | .stringLiteral
  | .leftParen => true
  | _ => false

/-- A parenthesis with an expression in it. -/
def OpensExpression (stream : TokenStream) (start : Nat) : Prop :=
  stream.kindAt start = .leftParen → startsExpression (stream.kindAt (start + 1)) = true

/-- What a phrase starts with. -/
def Phrase.Starts (stream : TokenStream) (start : Nat) : Phrase → Prop
  | .expr .primary _ | .expr .suffixed _ =>
      startsPrimary (stream.kindAt start) = true ∧ OpensExpression stream start
  | .expr .unary _ =>
      startsExpression (stream.kindAt start) = true ∧ OpensExpression stream start
  | _ => startsExpression (stream.kindAt start) = true

theorem startsExpression_of_primary {kind : Kind} (starts : startsPrimary kind = true) :
    startsExpression kind = true := by
  unfold startsPrimary at starts
  split at starts <;> first | rfl | cases starts

theorem startsExpression_of_operator {kind : Kind} {operator : UnaryOperator}
    (denotes : UnaryOperator.ofKind? kind = some operator) :
    startsExpression kind = true ∧ kind ≠ .leftParen := by
  unfold UnaryOperator.ofKind? at denotes
  split at denotes <;> first | exact ⟨rfl, nofun⟩ | cases denotes

theorem startsPrimary_of_numeric {kind : Kind} (numeric : isNumeric kind = true) :
    startsPrimary kind = true ∧ kind ≠ .leftParen := by
  unfold isNumeric at numeric
  split at numeric <;> first | exact ⟨rfl, nofun⟩ | cases numeric

theorem Derives.starts {phrase : Phrase} (derived : Derives stream phrase start stop) :
    phrase.Starts stream start := by
  induction derived with
  | identifier found isName =>
      rw [← TokenStream.kindAt_of_get? found] at isName
      exact ⟨by rw [isName]; rfl, fun opens => by cases isName.symm.trans opens⟩
  | number found numeric value =>
      rw [← TokenStream.kindAt_of_get? found] at numeric
      obtain ⟨starts, notOpen⟩ := startsPrimary_of_numeric numeric
      exact ⟨starts, fun opens => absurd opens notOpen⟩
  | string found isString =>
      rw [← TokenStream.kindAt_of_get? found] at isString
      exact ⟨by rw [isString]; rfl, fun opens => by cases isString.symm.trans opens⟩
  | paren opens inner _ induction => exact ⟨by rw [opens]; rfl, fun _ => induction⟩
  | bare _ induction => exact induction
  | subscript _ _ _ _ induction _ => exact induction
  | emptyCall _ _ _ induction => exact induction
  | call _ _ _ _ induction _ => exact induction
  | lastArgument _ induction => exact induction
  | moreArguments _ _ _ induction _ => exact induction
  | unsigned _ induction => exact ⟨startsExpression_of_primary induction.1, induction.2⟩
  | unary denotes _ _ =>
      obtain ⟨starts, notOpen⟩ := startsExpression_of_operator denotes
      exact ⟨starts, fun opens => absurd opens notOpen⟩
  | uncast _ induction => exact induction.1
  | cast opens _ _ _ _ =>
      change startsExpression _ = true
      rw [opens]
      rfl
  | operand _ induction => exact induction
  | tighter _ induction => exact induction
  | binary _ _ _ induction _ => exact induction
  | unassigned _ induction => exact induction
  | assign _ _ _ induction _ => exact induction.1

theorem Derives.startsExpression {rank : Rank} {tree : Expr}
    (derived : Derives stream (.expr rank tree) start stop) :
    startsExpression (stream.kindAt start) = true := by
  have starts := derived.starts
  cases rank with
  | primary => exact startsExpression_of_primary starts.1
  | suffixed => exact startsExpression_of_primary starts.1
  | unary => exact starts.1
  | assignment => exact starts
  | level => exact starts
  | cast => exact starts

theorem Specifiers.lt {list : List Token} (specified : Specifiers stream list start stop) :
    start < stop := by
  induction specified <;> omega

theorem Derives.lt {phrase : Phrase} (derived : Derives stream phrase start stop) :
    start < stop := by
  induction derived with
  | cast _ specified _ _ _ =>
      have := specified.lt
      omega
  | _ => omega

theorem Declares.lt {shape : Shape} (declared : Declares stream shape start stop) :
    start < stop := by
  induction declared with
  | sizedArray _ _ size _ _ =>
      have := size.lt
      omega
  | lastParameter specified _ _ =>
      have := specified.lt
      omega
  | moreParameters specified _ _ _ _ _ =>
      have := specified.lt
      omega
  | _ => omega

end Starts

section Brackets

variable {stream : TokenStream} {start middle stop : Nat}

/-- The brackets of a range are balanced, and nothing in it stops a scan. -/
inductive Balanced (stream : TokenStream) : Nat → Nat → Prop where
  | nil {start : Nat} : Balanced stream start start
  | token {start stop : Nat} :
      bracketRole (stream.kindAt start) = .plain → Balanced stream (start + 1) stop →
      Balanced stream start stop
  | group {start middle stop : Nat} {bracket : Bracket} :
      bracketRole (stream.kindAt start) = .opens bracket → Balanced stream (start + 1) middle →
      bracketRole (stream.kindAt middle) = .closes bracket → Balanced stream (middle + 1) stop →
      Balanced stream start stop

theorem Balanced.append (first : Balanced stream start middle)
    (second : Balanced stream middle stop) : Balanced stream start stop := by
  induction first with
  | nil => exact second
  | token plain _ induction => exact .token plain (induction second)
  | group opens inner closes _ _ induction => exact .group opens inner closes (induction second)

theorem Balanced.single (plain : bracketRole (stream.kindAt start) = .plain) :
    Balanced stream start (start + 1) :=
  .token plain .nil

theorem Balanced.then_group {bracket : Bracket} (first : Balanced stream start middle)
    (opens : bracketRole (stream.kindAt middle) = .opens bracket)
    (inner : Balanced stream (middle + 1) stop)
    (closes : bracketRole (stream.kindAt stop) = .closes bracket) :
    Balanced stream start (stop + 1) :=
  first.append (.group opens inner closes .nil)

theorem Balanced.le (balanced : Balanced stream start stop) : start ≤ stop := by
  induction balanced <;> omega

theorem Balanced.passed (balanced : Balanced stream start stop) {index : Nat}
    (lower : start ≤ index) (upper : index < stop) :
    bracketRole (stream.kindAt index) ≠ .stops := by
  induction balanced with
  | nil => omega
  | @token start stop plain _ induction =>
      rcases Nat.eq_or_lt_of_le lower with rfl | behind
      · rw [plain]
        nofun
      · exact induction behind upper
  | @group start middle stop bracket opens _ closes _ innerInduction induction =>
      rcases Nat.eq_or_lt_of_le lower with rfl | behind
      · rw [opens]
        nofun
      · rcases Nat.lt_trichotomy index middle with inner | rfl | later
        · exact innerInduction behind inner
        · rw [closes]
          nofun
        · exact induction later upper

/-- A balanced range holds no braces. -/
theorem Balanced.reaches (balanced : Balanced stream start stop)
    (inside : start ≤ stream.lastIndex) : Reaches stream start stop := by
  have plain : ∀ {index : Nat}, bracketRole (stream.kindAt index) ≠ .stops →
      Reaches stream index (index + 1) := by
    intro index notStop
    have notEnd : stream.kindAt index ≠ .endOfInput := fun isEnd => notStop (by rw [isEnd]; rfl)
    have before := TokenStream.lt_lastIndex_of_kindAt notEnd
    apply (Reaches.refl (Nat.le_of_lt before)).step notEnd
    rintro (brace | brace) <;> exact notStop (by rw [brace]; rfl)
  induction balanced with
  | nil => exact .refl inside
  | token isPlain _ induction =>
      have first := plain (by rw [isPlain]; nofun)
      exact first.trans (induction first.inside)
  | group opens _ closes _ innerInduction induction =>
      have first := plain (by rw [opens]; nofun)
      have inner := first.trans (innerInduction first.inside)
      have last := inner.trans (plain (by rw [closes]; nofun))
      exact last.trans (induction last.inside)

theorem plain_of_binary {kind : Kind} {operator : BinaryOperator}
    (denotes : BinaryOperator.ofKind? kind = some operator) : bracketRole kind = .plain := by
  unfold BinaryOperator.ofKind? at denotes
  split at denotes <;> first | rfl | cases denotes

theorem plain_of_assign {kind : Kind} {operator : AssignOperator}
    (denotes : AssignOperator.ofKind? kind = some operator) : bracketRole kind = .plain := by
  unfold AssignOperator.ofKind? at denotes
  split at denotes <;> first | rfl | cases denotes

theorem plain_of_unary {kind : Kind} {operator : UnaryOperator}
    (denotes : UnaryOperator.ofKind? kind = some operator) : bracketRole kind = .plain := by
  unfold UnaryOperator.ofKind? at denotes
  split at denotes <;> first | rfl | cases denotes

theorem plain_of_numeric {kind : Kind} (numeric : isNumeric kind = true) :
    bracketRole kind = .plain := by
  unfold isNumeric at numeric
  split at numeric <;> first | rfl | cases numeric

theorem plain_of_specifier {kind : Kind} (specifies : kind.isTypeSpecifier = true) :
    bracketRole kind = .plain := by
  unfold Kind.isTypeSpecifier at specifies
  split at specifies <;> first | rfl | cases specifies

theorem Specifiers.balanced {list : List Token} (specified : Specifiers stream list start stop) :
    Balanced stream start stop := by
  induction specified with
  | last found specifies =>
      rw [Token.isTypeSpecifier, ← TokenStream.kindAt_of_get? found] at specifies
      exact .single (plain_of_specifier specifies)
  | more found specifies _ induction =>
      rw [Token.isTypeSpecifier, ← TokenStream.kindAt_of_get? found] at specifies
      exact .token (plain_of_specifier specifies) induction

theorem Derives.balanced {phrase : Phrase} (derived : Derives stream phrase start stop) :
    Balanced stream start stop := by
  induction derived with
  | identifier found isName =>
      rw [← TokenStream.kindAt_of_get? found] at isName
      exact .single (by rw [isName]; rfl)
  | number found numeric value =>
      rw [← TokenStream.kindAt_of_get? found] at numeric
      exact .single (plain_of_numeric numeric)
  | string found isString =>
      rw [← TokenStream.kindAt_of_get? found] at isString
      exact .single (by rw [isString]; rfl)
  | paren opens _ closes inner =>
      exact Balanced.nil.then_group (by rw [opens]; rfl) inner (by rw [closes]; rfl)
  | bare _ induction => exact induction
  | subscript _ opens _ closes array index =>
      exact array.then_group (by rw [opens]; rfl) index (by rw [closes]; rfl)
  | emptyCall _ opens closes callee =>
      exact callee.then_group (by rw [opens]; rfl) .nil (by rw [closes]; rfl)
  | call _ opens _ closes callee arguments =>
      exact callee.then_group (by rw [opens]; rfl) arguments (by rw [closes]; rfl)
  | lastArgument _ induction => exact induction
  | moreArguments _ comma _ first rest =>
      exact first.append (.token (by rw [comma]; rfl) rest)
  | unsigned _ induction => exact induction
  | unary denotes _ operand => exact .token (plain_of_unary denotes) operand
  | uncast _ induction => exact induction
  | cast opens specified closes _ operand =>
      exact .group (by rw [opens]; rfl) specified.balanced (by rw [closes]; rfl) operand
  | operand _ induction => exact induction
  | tighter _ induction => exact induction
  | binary _ denotes _ left right => exact left.append (.token (plain_of_binary denotes) right)
  | unassigned _ induction => exact induction
  | assign _ denotes _ target value =>
      exact target.append (.token (plain_of_assign denotes) value)

theorem Declares.balanced {shape : Shape} (declared : Declares stream shape start stop) :
    Balanced stream start stop := by
  induction declared with
  | name found isName =>
      rw [← TokenStream.kindAt_of_get? found] at isName
      exact .single (by rw [isName]; rfl)
  | array _ opens closes base =>
      exact base.then_group (by rw [opens]; rfl) .nil (by rw [closes]; rfl)
  | sizedArray _ opens size closes base =>
      exact base.then_group (by rw [opens]; rfl) size.balanced (by rw [closes]; rfl)
  | function _ opens closes base =>
      exact base.then_group (by rw [opens]; rfl) .nil (by rw [closes]; rfl)
  | functionOf _ opens _ closes base parameters =>
      exact base.then_group (by rw [opens]; rfl) parameters (by rw [closes]; rfl)
  | lastParameter specified _ declarator => exact specified.balanced.append declarator
  | moreParameters specified _ comma _ declarator rest =>
      exact (specified.balanced.append declarator).append (.token (by rw [comma]; rfl) rest)

theorem DerivesInitial.balanced {value : Option Expr}
    (derived : DerivesInitial stream value start stop) : Balanced stream start stop := by
  cases derived with
  | none => exact .nil
  | some assigns value => exact .token (by rw [assigns]; rfl) value.balanced

theorem DerivesItems.balanced {items : List InitDeclarator}
    (derived : DerivesItems stream items start stop) : Balanced stream start stop := by
  induction derived with
  | last declared initial => exact declared.balanced.append initial.balanced
  | more declared initial comma _ induction =>
      exact (declared.balanced.append initial.balanced).append
        (.token (by rw [comma]; rfl) induction)

end Brackets

section Statements

variable {stream : TokenStream} {attachment : Attachment} {start stop : Nat}

/-- Kinds of tokens that statements start with. -/
def startsStatement : Kind → Bool
  | .ifWord | .whileWord | .returnWord | .breakWord | .continueWord | .leftBrace | .semicolon =>
      true
  | kind => startsExpression kind

/-- What a clause starts with; there may be no items at all. -/
def Clause.Starts (stream : TokenStream) (start stop : Nat) : Clause → Prop
  | .statement _ => startsStatement (stream.kindAt start) = true
  | .items _ =>
      start = stop ∨ startsStatement (stream.kindAt start) = true ∨
        (stream.kindAt start).isTypeSpecifier = true
  | .block _ => stream.kindAt start = .leftBrace

theorem startsStatement_of_expression {kind : Kind} (starts : startsExpression kind = true) :
    startsStatement kind = true := by
  unfold startsStatement
  split
  all_goals first | rfl | exact starts

theorem Specifiers.starts {list : List Token} (specified : Specifiers stream list start stop) :
    (stream.kindAt start).isTypeSpecifier = true := by
  cases specified with
  | last found specifies =>
      rwa [TokenStream.kindAt_of_get? found]
  | more found specifies _ =>
      rwa [TokenStream.kindAt_of_get? found]

theorem DerivesDeclaration.starts {tree : Declaration}
    (derived : DerivesDeclaration stream tree start stop) :
    (stream.kindAt start).isTypeSpecifier = true := by
  cases derived with
  | bare specified _ => exact specified.starts
  | declared specified _ _ => exact specified.starts

theorem DerivesDeclaration.reaches {tree : Declaration}
    (derived : DerivesDeclaration stream tree start stop) (inside : start ≤ stream.lastIndex) :
    Reaches stream start stop := by
  cases derived with
  | bare specified semicolon => exact (specified.balanced.reaches inside).next semicolon rfl
  | declared specified items semicolon =>
      exact ((specified.balanced.append items.balanced).reaches inside).next semicolon rfl

theorem Forms.starts {clause : Clause} (forms : Forms stream attachment clause start stop) :
    clause.Starts stream start stop := by
  induction forms with
  | ifOnly word => exact congrArg startsStatement word
  | ifElse word => exact congrArg startsStatement word
  | whileLoop word => exact congrArg startsStatement word
  | returnNothing word => exact congrArg startsStatement word
  | returnValue word => exact congrArg startsStatement word
  | breakLoop word => exact congrArg startsStatement word
  | continueLoop word => exact congrArg startsStatement word
  | compound _ opens => exact congrArg startsStatement opens
  | empty semicolon => exact congrArg startsStatement semicolon
  | expression derived => exact startsStatement_of_expression derived.startsExpression
  | noItems => exact .inl rfl
  | declarationItem derived => exact .inr (.inr derived.starts)
  | statementItem _ _ induction _ => exact .inr (.inl induction)
  | block opens => exact opens

/-- A clause takes at least one token, unless it is items, of which there may be none. -/
def Clause.Advances (start stop : Nat) : Clause → Prop
  | .items _ => start ≤ stop
  | _ => start < stop

theorem DerivesInitial.le {value : Option Expr} (derived : DerivesInitial stream value start stop) :
    start ≤ stop :=
  derived.balanced.le

theorem DerivesItems.lt {items : List InitDeclarator}
    (derived : DerivesItems stream items start stop) : start < stop := by
  induction derived with
  | last declared initial => exact Nat.lt_of_lt_of_le declared.lt initial.le
  | more declared initial _ _ induction =>
      have first := Nat.lt_of_lt_of_le declared.lt initial.le
      exact Nat.lt_trans first (Nat.lt_of_succ_lt induction)

theorem DerivesDeclaration.lt {tree : Declaration}
    (derived : DerivesDeclaration stream tree start stop) : start < stop := by
  cases derived with
  | bare specified _ => exact Nat.lt_succ_of_lt specified.lt
  | declared specified items _ => exact Nat.lt_succ_of_lt (Nat.lt_trans specified.lt items.lt)

theorem Forms.advances {clause : Clause} (forms : Forms stream attachment clause start stop) :
    clause.Advances start stop := by
  induction forms with
  | ifOnly _ _ derived _ _ _ induction =>
      have := derived.lt
      simp only [Clause.Advances] at induction ⊢
      omega
  | ifElse _ _ derived _ _ _ _ thenInduction elseInduction =>
      have := derived.lt
      simp only [Clause.Advances] at thenInduction elseInduction ⊢
      omega
  | whileLoop _ _ derived _ _ induction =>
      have := derived.lt
      simp only [Clause.Advances] at induction ⊢
      omega
  | returnValue _ derived _ => exact Nat.lt_succ_of_lt (Nat.lt_of_succ_lt derived.lt)
  | compound _ induction => exact induction
  | expression derived _ => exact Nat.lt_succ_of_lt derived.lt
  | noItems => exact Nat.le_refl _
  | declarationItem derived _ induction =>
      exact Nat.le_of_lt (Nat.lt_of_lt_of_le derived.lt induction)
  | statementItem _ _ first rest => exact Nat.le_of_lt (Nat.lt_of_lt_of_le first rest)
  | block _ _ _ induction => exact Nat.lt_succ_of_lt induction
  | _ =>
      simp only [Clause.Advances]
      omega

/-- A clause takes whole blocks only. -/
theorem Forms.reaches {clause : Clause} (forms : Forms stream attachment clause start stop)
    (inside : start ≤ stream.lastIndex) : Reaches stream start stop := by
  have condition : ∀ {word : Kind} {test : Expr} {start middle : Nat}, start ≤ stream.lastIndex →
      isInner word = true →
      stream.kindAt start = word → stream.kindAt (start + 1) = .leftParen →
      Derives stream (.expr .assignment test) (start + 2) middle →
      stream.kindAt middle = .rightParen → Reaches stream start (middle + 1) := by
    intro word test start middle inside inner isWord opens derived closes
    have opened := ((Reaches.refl inside).next isWord inner).next opens rfl
    exact (opened.trans (derived.balanced.reaches opened.inside)).next closes rfl
  induction forms with
  | ifOnly word opens derived closes _ _ induction =>
      have tested := condition inside rfl word opens derived closes
      exact tested.trans (induction tested.inside)
  | ifElse word opens derived closes _ alternative _ thenInduction elseInduction =>
      have tested := condition inside rfl word opens derived closes
      have between := (tested.trans (thenInduction tested.inside)).next alternative rfl
      exact between.trans (elseInduction between.inside)
  | whileLoop word opens derived closes _ induction =>
      have tested := condition inside rfl word opens derived closes
      exact tested.trans (induction tested.inside)
  | returnNothing word semicolon => exact ((Reaches.refl inside).next word rfl).next semicolon rfl
  | returnValue word derived semicolon =>
      have first := (Reaches.refl inside).next word rfl
      exact (first.trans (derived.balanced.reaches first.inside)).next semicolon rfl
  | breakLoop word semicolon => exact ((Reaches.refl inside).next word rfl).next semicolon rfl
  | continueLoop word semicolon => exact ((Reaches.refl inside).next word rfl).next semicolon rfl
  | compound _ induction => exact induction inside
  | empty semicolon => exact (Reaches.refl inside).next semicolon rfl
  | expression derived semicolon => exact (derived.balanced.reaches inside).next semicolon rfl
  | noItems => exact .refl inside
  | declarationItem derived _ induction =>
      have first := derived.reaches inside
      exact first.trans (induction first.inside)
  | statementItem _ _ induction restInduction =>
      have first := induction inside
      exact first.trans (restInduction first.inside)
  | @block start stop trees opens _ closes induction =>
      have opened : start < stream.lastIndex :=
        TokenStream.lt_lastIndex_of_kindAt_eq opens (by decide)
      have closed : stop < stream.lastIndex :=
        TokenStream.lt_lastIndex_of_kindAt_eq closes (by decide)
      have items := induction opened
      have itemsEnd : blockEnd stream (start + 1) = stop := by
        rw [← items.level, blockEnd_close closes]
      refine ⟨Nat.le_of_lt (Nat.lt_succ_of_le (Nat.le_of_succ_le items.le)), closed, ?_⟩
      rw [blockEnd_open opens, itemsEnd, if_pos closed]

end Statements

section Attachment

variable {stream : TokenStream} {start stop : Nat}

/-- A statement in which an `if` without an alternative could still take an `else` that
follows. -/
inductive EndsOpen : Statement → Prop where
  | alone {test : Expr} {thenBranch : Statement} : EndsOpen (.ifElse none test thenBranch none)
  | thenBranch {test : Expr} {thenBranch elseBranch : Statement} :
      EndsOpen thenBranch → EndsOpen (.ifElse none test thenBranch (some elseBranch))
  | elseBranch {test : Expr} {thenBranch elseBranch : Statement} :
      EndsOpen elseBranch → EndsOpen (.ifElse none test thenBranch (some elseBranch))
  | body {test : Expr} {body : Statement} : EndsOpen body → EndsOpen (.whileLoop none test body)

/-- A statement that ends open takes an `else` branch that follows it. -/
theorem Forms.absorb {tree other : Statement} {between : Nat} (ends : EndsOpen tree)
    (forms : Forms stream .any (.statement tree) start between)
    (alternative : stream.kindAt between = .elseWord)
    (follows : Forms stream .any (.statement other) (between + 1) stop) :
    ∃ whole, Forms stream .any (.statement whole) start stop := by
  induction ends generalizing start between stop other with
  | alone =>
      cases forms with
      | ifOnly word opens derived closes thenForms _ =>
          exact ⟨_, .ifElse word opens derived closes thenForms alternative follows⟩
  | thenBranch _ induction =>
      cases forms with
      | ifElse word opens derived closes thenForms inner elseForms =>
          -- the branch takes its own alternative, and the statement takes the one that follows
          obtain ⟨_, whole⟩ := induction thenForms inner elseForms
          exact ⟨_, .ifElse word opens derived closes whole alternative follows⟩
  | elseBranch _ induction =>
      cases forms with
      | ifElse word opens derived closes thenForms inner elseForms =>
          obtain ⟨_, whole⟩ := induction elseForms alternative follows
          exact ⟨_, .ifElse word opens derived closes thenForms inner whole⟩
  | body _ induction =>
      cases forms with
      | whileLoop word opens derived closes bodyForms =>
          obtain ⟨_, whole⟩ := induction bodyForms alternative follows
          exact ⟨_, .whileLoop word opens derived closes whole⟩

/-- The statements of a length up to a bound can be derived with every `else` at the
nearest `if`, unless a following `else` could still be taken. -/
def Attaches (stream : TokenStream) (bound : Nat) : Prop :=
  ∀ tree start stop, stop - start < bound → Forms stream .any (.statement tree) start stop →
    stream.kindAt stop ≠ .elseWord ∨ ¬ EndsOpen tree →
      ∃ other, Forms stream .nearest (.statement other) start stop

theorem not_else_of_starts {kind : Kind}
    (starts : startsStatement kind = true ∨ kind.isTypeSpecifier = true) : kind ≠ .elseWord := by
  rintro rfl
  rcases starts with impossible | impossible <;> cases impossible

theorem Attaches.items {bound : Nat} (attaches : Attaches stream bound) {trees : List Statement}
    (short : stop - start < bound) (forms : Forms stream .any (.items trees) start stop)
    (ends : stream.kindAt stop ≠ .elseWord) :
    ∃ others, Forms stream .nearest (.items others) start stop := by
  induction trees generalizing start with
  | nil =>
      cases forms with
      | noItems => exact ⟨[], .noItems⟩
  | cons tree trees induction =>
      cases forms with
      | declarationItem derived rest =>
          have := derived.lt
          obtain ⟨others, restNearest⟩ := induction (by omega) rest
          exact ⟨_, .declarationItem derived restNearest⟩
      | @statementItem _ middle _ _ _ first rest =>
          have firstAdvances : start < middle := first.advances
          have restAdvances : middle ≤ stop := rest.advances
          have notElse : stream.kindAt middle ≠ .elseWord := by
            rcases rest.starts with same | starts
            · rwa [same]
            · exact not_else_of_starts starts
          obtain ⟨others, restNearest⟩ := induction (by omega) rest
          obtain ⟨other, firstNearest⟩ :=
            attaches tree start middle (by omega) first (.inl notElse)
          exact ⟨_, .statementItem firstNearest restNearest⟩

theorem Attaches.block {bound : Nat} (attaches : Attaches stream bound) {tree : Block}
    (short : stop - start ≤ bound) (forms : Forms stream .any (.block tree) start stop) :
    ∃ other, Forms stream .nearest (.block other) start stop := by
  cases forms with
  | @block _ closing trees opens items closes =>
      have advances : start + 1 ≤ closing := items.advances
      obtain ⟨others, nearest⟩ := attaches.items (by omega) items (by rw [closes]; decide)
      exact ⟨_, .block opens nearest closes⟩

/-- Every statement can be derived with every `else` at the nearest `if`, by induction on its
length: an alternative of a branch that could take it goes to that branch. -/
theorem attaches (stream : TokenStream) (bound : Nat) : Attaches stream bound := by
  induction bound with
  | zero => exact fun _ _ _ impossible => absurd impossible (Nat.not_lt_zero _)
  | succ bound induction =>
      intro tree start stop short forms ends
      cases forms with
      | ifOnly word opens derived closes thenForms _ =>
          have := derived.lt
          have advances := thenForms.advances
          simp only [Clause.Advances] at advances
          have notElse : stream.kindAt stop ≠ .elseWord :=
            ends.resolve_right fun closed => closed .alone
          obtain ⟨other, nearest⟩ := induction _ _ _ (by omega) thenForms (.inl notElse)
          exact ⟨_, .ifOnly word opens derived closes nearest fun _ => notElse⟩
      | @ifElse _ _ _ _ _ thenBranch elseBranch word opens derived closes thenForms alternative
          elseForms =>
          have := derived.lt
          have thenAdvances := thenForms.advances
          have elseAdvances := elseForms.advances
          simp only [Clause.Advances] at thenAdvances elseAdvances
          by_cases thenOpen : EndsOpen thenBranch
          · have notElse : stream.kindAt stop ≠ .elseWord :=
              ends.resolve_right fun closed => closed (.thenBranch thenOpen)
            obtain ⟨whole, wholeForms⟩ := thenForms.absorb thenOpen alternative elseForms
            obtain ⟨other, nearest⟩ := induction _ _ _ (by omega) wholeForms (.inl notElse)
            exact ⟨_, .ifOnly word opens derived closes nearest fun _ => notElse⟩
          · obtain ⟨_, thenNearest⟩ := induction _ _ _ (by omega) thenForms (.inr thenOpen)
            obtain ⟨_, elseNearest⟩ := induction _ _ _ (by omega) elseForms
              (ends.imp_right fun closed inner => closed (.elseBranch inner))
            exact ⟨_, .ifElse word opens derived closes thenNearest alternative elseNearest⟩
      | whileLoop word opens derived closes bodyForms =>
          have := derived.lt
          have advances := bodyForms.advances
          simp only [Clause.Advances] at advances
          obtain ⟨other, nearest⟩ := induction _ _ _ (by omega) bodyForms
            (ends.imp_right fun closed inner => closed (.body inner))
          exact ⟨_, .whileLoop word opens derived closes nearest⟩
      | returnNothing word semicolon => exact ⟨_, .returnNothing word semicolon⟩
      | returnValue word derived semicolon => exact ⟨_, .returnValue word derived semicolon⟩
      | breakLoop word semicolon => exact ⟨_, .breakLoop word semicolon⟩
      | continueLoop word semicolon => exact ⟨_, .continueLoop word semicolon⟩
      | compound block =>
          obtain ⟨_, nearest⟩ := induction.block (by omega) block
          exact ⟨_, .compound nearest⟩
      | empty semicolon => exact ⟨_, .empty semicolon⟩
      | expression derived semicolon => exact ⟨_, .expression derived semicolon⟩

theorem DerivesDeclarations.nearest {trees : List Declaration}
    (derived : DerivesDeclarations stream .any trees start stop) :
    ∃ others, DerivesDeclarations stream .nearest others start stop := by
  induction derived with
  | nil => exact ⟨[], .nil⟩
  | declaration first _ induction =>
      obtain ⟨others, rest⟩ := induction
      exact ⟨_, .declaration first rest⟩
  | definition first _ induction =>
      obtain ⟨others, rest⟩ := induction
      cases first with
      | define specified declared isFunction body =>
          obtain ⟨other, nearest⟩ := (attaches stream _).block (Nat.le_refl _) body
          exact ⟨_, .definition (.define specified declared isFunction nearest) rest⟩

/-- A unit that is derived with some attachment of its `else` branches is derived with every
`else` at the nearest `if`. -/
theorem DerivesUnit.nearest {tree : CompilationUnit} (derived : DerivesUnit stream .any tree) :
    ∃ other, DerivesUnit stream .nearest other := by
  cases derived with
  | unit declarations =>
      obtain ⟨others, nearest⟩ := declarations.nearest
      exact ⟨_, .unit nearest⟩

/-- The nearest `if` is one of those that an `else` may belong to. -/
theorem Forms.any {clause : Clause} (forms : Forms stream .nearest clause start stop) :
    Forms stream .any clause start stop := by
  induction forms with
  | ifOnly word opens derived closes _ _ induction =>
      exact .ifOnly word opens derived closes induction nofun
  | ifElse word opens derived closes _ alternative _ thenInduction elseInduction =>
      exact .ifElse word opens derived closes thenInduction alternative elseInduction
  | whileLoop word opens derived closes _ induction =>
      exact .whileLoop word opens derived closes induction
  | returnNothing word semicolon => exact .returnNothing word semicolon
  | returnValue word derived semicolon => exact .returnValue word derived semicolon
  | breakLoop word semicolon => exact .breakLoop word semicolon
  | continueLoop word semicolon => exact .continueLoop word semicolon
  | compound _ induction => exact .compound induction
  | empty semicolon => exact .empty semicolon
  | expression derived semicolon => exact .expression derived semicolon
  | noItems => exact .noItems
  | declarationItem derived _ induction => exact .declarationItem derived induction
  | statementItem _ _ first rest => exact .statementItem first rest
  | block opens _ closes induction => exact .block opens induction closes

theorem DerivesDeclarations.any {trees : List Declaration}
    (derived : DerivesDeclarations stream .nearest trees start stop) :
    DerivesDeclarations stream .any trees start stop := by
  induction derived with
  | nil => exact .nil
  | declaration first _ induction => exact .declaration first induction
  | definition first _ induction =>
      cases first with
      | define specified declared isFunction body =>
          exact .definition (.define specified declared isFunction body.any) induction

theorem DerivesUnit.any {tree : CompilationUnit} (derived : DerivesUnit stream .nearest tree) :
    DerivesUnit stream .any tree := by
  cases derived with
  | unit declarations => exact .unit declarations.any

end Attachment

end MiniC.Parser
