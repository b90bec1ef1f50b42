import MiniC.Diagnostic.Basic
import MiniC.Diagnostic.Context
import MiniC.Source.Notice
import MiniC.Token.Stream

/-!
# Showing diagnostics

A listing is what a diagnostic is shown against: the tokens of a named source,
at least one, and the lines of the source if they are known.  A position outside
the tokens stands for the nearest token.
-/

namespace MiniC

/-- The tokens of a named source. -/
structure Listing where
  tokens : Array Token
  nonempty : 0 < tokens.size
  filename : String
  /-- The lines of the source, if they are known. -/
  sourceLines : Option (List String)

namespace Listing

/-- The listing of some tokens, if there are any. -/
def ofTokens? (tokens : List Token) (filename : String)
    (sourceLines : Option (List String)) : Option Listing :=
  if nonempty : 0 < tokens.toArray.size then
    some { tokens := tokens.toArray, nonempty, filename, sourceLines }
  else
    none

/-- The listing of a stream. -/
def ofStream (stream : TokenStream) (filename : String)
    (sourceLines : Option (List String)) : Listing :=
  { tokens := stream.tokens, nonempty := stream.size_pos, filename, sourceLines }

/-- The index of the token nearest to a position. -/
def indexOf (listing : Listing) (position : Int) : Fin listing.tokens.size :=
  ⟨min position.toNat (listing.tokens.size - 1), by
    have := listing.nonempty
    omega⟩

/-- The token that a position refers to. -/
def tokenAt (listing : Listing) (position : Int) : Token :=
  listing.tokens[listing.indexOf position]

/-- The line that a diagnostic is about. -/
def location (listing : Listing) (diagnostic : Diagnostic) : Source.Location :=
  { filename := listing.filename, line := (listing.tokenAt diagnostic.position).line }

/-- The source line of the token at a position, with the token's column. -/
def view (listing : Listing) (position : Int) : Context.View :=
  let index := listing.indexOf position
  Context.view listing.sourceLines
    (Context.run listing.tokens.toList index (listing.tokens[index]))

/-- A diagnostic as it is shown. -/
def notice (listing : Listing) (diagnostic : Diagnostic) : Source.Notice :=
  let token := listing.tokenAt diagnostic.position
  let view := listing.view diagnostic.position
  let column :=
    if diagnostic.placement = .after then view.column + token.lexeme.length else view.column
  { message := s!"{diagnostic.message} {diagnostic.placement.word} {token.describe}"
    location := some (listing.location diagnostic)
    sourceLine := some view.text
    caretColumn := some column }

/-- The text of a diagnostic. -/
def format (listing : Listing) (diagnostic : Diagnostic) : String :=
  (listing.notice diagnostic).text

end Listing

end MiniC
