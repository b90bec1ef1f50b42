import MiniC.Token.Kind

/-!
# Diagnostics

A diagnostic says what is wrong about a token of a stream.  Its position is the
token the message refers to; its depth is the token where the failure was
noticed, and orders failures between alternatives.
-/

namespace MiniC

/-- What a diagnostic is about. -/
inductive DiagnosticKind where
  | expectedToken
  | mismatchedDelimiter
  | invalidDeclarator
  | expectedExpression
  | nestingTooDeep
  deriving DecidableEq, Repr, Inhabited

/-- How a message relates to the token at its position. -/
inductive Placement where
  | on
  | after
  | before
  deriving DecidableEq, Repr, Inhabited

/-- A single syntax error. -/
structure Diagnostic where
  kind : DiagnosticKind
  /-- Index of the token that the message refers to. -/
  position : Int
  /-- Index of the token where the failure was noticed. -/
  depth : Int
  /-- Descriptions of what was expected, in order. -/
  expected : List String := []
  placement : Placement := .on
  /-- A message of its own; an empty one counts as none. -/
  detail : Option String := none
  deriving DecidableEq, Repr, Inhabited

/-- The identifying name of a kind of diagnostic. -/
def DiagnosticKind.name : DiagnosticKind → String
  | .expectedToken => "expected-token"
  | .mismatchedDelimiter => "mismatched-delimiter"
  | .invalidDeclarator => "invalid-declarator"
  | .expectedExpression => "expected-expression"
  | .nestingTooDeep => "nesting-too-deep"

/-- Every kind of diagnostic. -/
def DiagnosticKind.all : List DiagnosticKind :=
  [.expectedToken, .mismatchedDelimiter, .invalidDeclarator, .expectedExpression,
   .nestingTooDeep]

/-- The word between a message and its token. -/
def Placement.word : Placement → String
  | .on => "at"
  | .after => "after"
  | .before => "before"

/-- Every placement. -/
def Placement.all : List Placement := [.on, .after, .before]

/-- Something that was expected: a kind of token, or a described construct. -/
inductive Expectation where
  | kind (kind : Kind)
  | construct (description : String)
  deriving DecidableEq, Repr

/-- How messages refer to what was expected. -/
def Expectation.describe : Expectation → String
  | .kind expected => expected.describe
  | .construct description => description

/-- Whether a missing token is reported after the token before it. -/
def Kind.isReportedAfter : Kind → Bool
  | .semicolon | .rightParen | .rightBracket | .rightBrace => true
  | _ => false

/-- Whether a missing token is reported before the token in its place. -/
def Kind.isReportedBefore : Kind → Bool
  | .leftParen | .leftBracket | .leftBrace => true
  | _ => false

namespace Diagnostic

/-- The message of its own, unless it is empty. -/
def ownMessage? (diagnostic : Diagnostic) : Option String :=
  diagnostic.detail.filter fun text => !text.isEmpty

/-- The message without the token it refers to. -/
def message (diagnostic : Diagnostic) : String :=
  match diagnostic.ownMessage? with
  | some text => text
  | none =>
      match diagnostic.kind with
      | .expectedToken =>
          match diagnostic.expected with
          | [single] => s!"expected {single}"
          | several => "expected one of " ++ ", ".intercalate several
      | .mismatchedDelimiter => "mismatched delimiter"
      | .invalidDeclarator => "invalid declarator"
      | .expectedExpression => "expected expression"
      | .nestingTooDeep => "nesting too deep"

/-- The failure of a construct at a token; noticed there unless said otherwise. -/
def failure (kind : DiagnosticKind) (position : Int) (depth : Option Int := none)
    (detail : Option String := none) : Diagnostic :=
  { kind, position, depth := depth.getD position, detail }

/-- The failure of a token or construct that is missing at a position.  The
first expectation decides how it is reported: closing punctuation after the
previous token, opening punctuation before the current one. -/
def missing (position : Int) (first : Expectation) (others : List Expectation := [])
    (depth : Option Int := none) : Diagnostic :=
  let (placement, referenced) :=
    match first with
    | .kind kind =>
        if kind.isReportedAfter ∧ 0 < position then (Placement.after, position - 1)
        else if kind.isReportedBefore then (Placement.before, position)
        else (Placement.on, position)
    | .construct _ => (Placement.on, position)
  { kind := .expectedToken
    position := referenced
    depth := depth.getD position
    expected := (first :: others).map Expectation.describe
    placement }

/-- Whether what was expected may be joined with that of another failure: both
miss a token at the same place, without messages of their own. -/
def joins (first second : Diagnostic) : Bool :=
  first.kind = .expectedToken && second.kind = .expectedToken &&
    first.position = second.position && first.placement = second.placement &&
    first.ownMessage?.isNone && second.ownMessage?.isNone

/-- The first failure with what the second expected besides, or nothing when
that adds nothing. -/
def merge? (first second : Diagnostic) : Option Diagnostic :=
  if first.joins second then
    match second.expected.filter fun item => !first.expected.contains item with
    | [] => none
    | added =>
        some
          { kind := first.kind
            position := first.position
            depth := first.depth
            expected := first.expected ++ added
            placement := first.placement }
  else
    none

/-- The first failure, with what the second expected besides if they can be joined. -/
def merge (first second : Diagnostic) : Diagnostic :=
  (first.merge? second).getD first

/-- The failure that got further; of two equally far the first, joined with the
second. -/
def deepest (first second : Diagnostic) : Diagnostic :=
  if first.depth < second.depth then second
  else if second.depth < first.depth then first
  else first.merge second

end Diagnostic

end MiniC
