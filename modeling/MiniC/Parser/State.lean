import MiniC.Parser.Memo
import MiniC.Parser.Options
import MiniC.Token.Stream

/-!
# The state of a parser

What a parser carries from rule to rule: remembered results, the failures of
alternatives that lost to a later success, the rules that are active one inside
another, whether they were ever too many, the number of errors among the items
kept so far, the errors recorded by the last complete parse, and a trace of what
happened.

The rules of the recursion are guarded.  A guarded rule counts as active until it
is left, also by a fault, and it fails when too many are active already, or when
the stack of the interpreter has no room for another one.

Rules can be supervised.  A supervised rule breaks off the run when it is
started or answers outside the stream, so a supervised run that ends as the
plain one does shows that no rule ever leaves the stream.  The state also keeps
every failure that a supervised rule answers with, or that comes back with a
remembered result.
-/

namespace MiniC.Parser

/-- What a parser reads: a stream, and the settings of the parse. -/
structure Input where
  stream : TokenStream
  options : ParserOptions
  /-- Whether remembered results are used again. -/
  caching : Bool := true
  /-- Whether rules are supervised. -/
  supervised : Bool := false
  /-- How many guarded rules, one inside another, the stack of the interpreter has room
  for, if that is known. -/
  stack : Option Nat := none

namespace Input

/-- The kind of the token at an index. -/
def kindAt (input : Input) (index : Nat) : Kind :=
  input.stream.kindAt index

/-- A bound on the length of every loop over the stream. -/
def fuel (input : Input) : Nat :=
  input.stream.size + 1

end Input

/-- What happened during a parse. -/
inductive Event where
  | started (tokens : Nat) (filename : String)
  | limitReached (start stop : Nat)
  | recovered (kind : DiagnosticKind) (position : Int) (start stop : Nat)
  | finished (declarations errors : Nat)
  deriving DecidableEq, Repr

/-- The wording of an event. -/
def Event.message : Event → String
  | .started tokens filename => s!"Parsing {tokens} tokens from {filename}"
  | .limitReached start stop => s!"Error limit reached, skipping tokens {start} to {stop}"
  | .recovered kind position start stop =>
      s!"Recovered from {kind.name} at token {position}, skipping tokens {start} to {stop}"
  | .finished declarations errors =>
      s!"Parsed {declarations} top-level declarations with {errors} errors"

/-- The deepest of the failures that were noted, the latest of them first. -/
def deepestNoted : List Diagnostic → Option Diagnostic
  | [] => none
  | failure :: earlier =>
      some (match deepestNoted earlier with
        | none => failure
        | some known => known.deepest failure)

/-- The state of a parser. -/
structure State where
  memo : Memo := .empty
  /-- The failures of alternatives that lost to a later success, the latest first. -/
  noted : List Diagnostic := []
  /-- The number of guarded rules that are active. -/
  nesting : Nat := 0
  /-- The largest number of guarded rules that were active at a time. -/
  peak : Nat := 0
  /-- Whether a guarded rule was refused. -/
  limitFelt : Bool := false
  /-- The number of errors among the items kept so far. -/
  errorCount : Nat := 0
  /-- The errors recorded by the last complete parse. -/
  reported : List Diagnostic := []
  trace : Array Event := #[]
  /-- The failures met under supervision, the latest first. -/
  met : List Diagnostic := []

/-- The deepest failure of an alternative that lost to a later success. -/
def State.superseded (state : State) : Option Diagnostic :=
  deepestNoted state.noted

/-- Computations on the state of a parser.  The state survives a fault. -/
abbrev Engine := EStateM Fault State

/-- A step of a rule, which may fail with a diagnostic. -/
abbrev Attempt := ExceptT Diagnostic Engine

/-- Break off the run. -/
def abort {α : Type} (fault : Fault) : Engine α :=
  throw fault

/-- Add an event to the trace. -/
def record (event : Event) : Engine Unit :=
  modify fun state => { state with trace := state.trace.push event }

/-- Take a failure into account that lost to a later success. -/
def note (failure : Diagnostic) : Engine Unit :=
  modify fun state => { state with noted := failure :: state.noted }

/-- Keep failures that were met under supervision. -/
def meet (failures : List Diagnostic) : Engine Unit :=
  modify fun state => { state with met := failures ++ state.met }

/-- Take a failure into account, if there is one. -/
def noteAny : Option Diagnostic → Engine Unit
  | some failure => note failure
  | none => pure ()

/-- Ordered choice between rules. -/
def firstOf {α : Type} (first : Attempt (Match α)) (others : List (Attempt (Match α))) :
    Attempt (Match α) :=
  ExceptT.mk (Choice.firstOf note first.run (others.map ExceptT.run))

/-- The token at an index of the stream. -/
def tokenAt (input : Input) (index : Nat) : Engine Token :=
  match input.stream.get? index with
  | some token => pure token
  | none => abort .pastEnd

/-- Match a single token of the given kind; the answer is the index after it. -/
def expect (input : Input) (kind : Kind) (index : Nat) : Attempt Nat :=
  if input.kindAt index = kind then pure (index + 1)
  else throw (.missing index (.kind kind))

/-- Whether the answer of a rule that was started at an index stays inside the
stream: a match takes at least one token, and a failure is noticed not before
the start and refers to a token not further back than the one before it. -/
def Outcome.Inside {α : Type} (stream : TokenStream) (start : Nat) : Outcome α → Prop
  | .ok found => start < found.stop ∧ found.stop ≤ stream.lastIndex
  | .error failure =>
      (start ≤ failure.depth ∧ failure.depth ≤ stream.lastIndex) ∧
        max ((start : Int) - 1) 0 ≤ failure.position ∧ failure.position ≤ failure.depth

instance {α : Type} (stream : TokenStream) (start : Nat) (outcome : Outcome α) :
    Decidable (Outcome.Inside stream start outcome) :=
  match outcome with
  | .ok _ => inferInstanceAs (Decidable (_ ∧ _))
  | .error _ => inferInstanceAs (Decidable ((_ ∧ _) ∧ _ ∧ _))

/-- The failure of an outcome, unless it is a match. -/
def failure? {α : Type} : Except Diagnostic α → Option Diagnostic
  | .ok _ => none
  | .error failure => some failure

/-- Run a rule from a start index.  When rules are supervised, the run breaks off
unless the rule starts inside the stream and its answer stays there, and a failure
is kept. -/
def supervise {α : Type} (input : Input) (start : Nat) (rule : Attempt (Match α)) :
    Attempt (Match α) :=
  if input.supervised then
    ExceptT.mk do
      if input.stream.lastIndex < start then
        abort .pastEnd
      else
        let outcome ← rule.run
        if Outcome.Inside input.stream start outcome then
          meet (failure? outcome).toList
          return outcome
        else
          abort .pastEnd
  else
    rule

/-- Put a plain description in the place of a failure that noticed nothing
beyond the start. -/
def describeAt (start : Nat) (description : String) (failure : Diagnostic) : Diagnostic :=
  if failure.depth ≤ start ∧ failure.kind ≠ .nestingTooDeep then
    .missing start (.construct description)
  else
    failure

/-- The failure of constructs that nest deeper than so many levels. -/
def nestingFailure (start levels : Nat) : Diagnostic :=
  .failure .nestingTooDeep start none (some s!"nesting deeper than {levels} levels")

/-- Fail because constructs nest too deep. -/
def tooDeep {α : Type} (start levels : Nat) : Attempt α := do
  modify fun state => { state with limitFelt := true }
  throw (nestingFailure start levels)

/-- The number of levels a guarded rule is refused for while so many are active.  The
nesting limit comes first.  Where the stack of the interpreter ends before it, the rule
is broken off, and fails with the level it was started from. -/
def refusal? (input : Input) (active : Nat) : Option Nat :=
  if input.options.maxNesting ≤ active then some input.options.maxNesting
  else if input.stack.any (· ≤ active) then some active
  else none

/-- A state with one more guarded rule active. -/
def State.entered (state : State) : State :=
  { state with nesting := state.nesting + 1, peak := max state.peak (state.nesting + 1) }

/-- A state with one guarded rule less active. -/
def State.left (state : State) : State :=
  { state with nesting := state.nesting - 1 }

/-- Run a computation with one more guarded rule active, which is left afterwards, also
after a fault. -/
def deeper {α : Type} (compute : Engine α) : Engine α := fun state =>
  match compute state.entered with
  | .ok value after => .ok value after.left
  | .error fault after => .error fault after.left

/-- Run a rule of the recursion, unless too many of them are active. -/
def guarded {α : Type} (input : Input) (start : Nat) (rule : Attempt (Match α)) :
    Attempt (Match α) :=
  ExceptT.mk do
    let state ← get
    match refusal? input state.nesting with
    | some levels => (tooDeep start levels).run
    | none => deeper rule.run

/-- The result of a computation run on its own: what it answered, the deepest
failure it noted and whether a guarded rule was refused. -/
structure Isolated (α : Type) where
  value : α
  superseded : Option Diagnostic
  limitFelt : Bool

/-- Run a computation with no failure noted and no rule refused before, and put
what was known before back afterwards, also after a fault. -/
def isolated {α : Type} (compute : Engine α) : Engine (Isolated α) := fun state =>
  match compute { state with noted := [], limitFelt := false } with
  | .ok value after =>
      .ok ⟨value, after.superseded, after.limitFelt⟩
        { after with
          noted := state.noted
          limitFelt := state.limitFelt || after.limitFelt }
  | .error fault after =>
      .error fault
        { after with
          noted := state.noted
          limitFelt := state.limitFelt || after.limitFelt }

/-- The remembered result of a stratum at a start index, if results are used
again. -/
def recalled? (input : Input) (memo : Memo) (stratum : Stratum) (start : Nat) :
    Option Memo.Entry :=
  if input.caching then memo.find? stratum start else none

/-- The result that is recalled in the current state. -/
def lookUp (input : Input) (stratum : Stratum) (start : Nat) : Engine (Option Memo.Entry) := do
  let state ← get
  return recalled? input state.memo stratum start

/-- Run a rule of a stratum and remember its result.  A result for which a guarded rule
was refused depends on the current nesting and is not remembered. -/
def anew (stratum : Stratum) (start : Nat) (compute : Attempt (Match Expr)) :
    Engine (Outcome Expr) := do
  let result ← isolated compute.run
  noteAny result.superseded
  unless result.limitFelt do
    modify fun state =>
      { state with memo := state.memo.insert stratum start ⟨result.value, result.superseded⟩ }
  return result.value

/-- Answer with a remembered result.  The failure noted on the way to it is met again. -/
def replay (input : Input) (entry : Memo.Entry) : Engine (Outcome Expr) := do
  noteAny entry.superseded
  if input.supervised then
    meet entry.superseded.toList
  return entry.outcome

/-- Run a rule of a stratum at most once for each start index. -/
def remembered (input : Input) (stratum : Stratum) (start : Nat) (compute : Attempt (Match Expr)) :
    Attempt (Match Expr) :=
  ExceptT.mk do
    match ← lookUp input stratum start with
    | some entry => replay input entry
    | none => anew stratum start compute

end MiniC.Parser
