import MiniC.Token.Basic

/-!
# Token streams

A stream is a sequence of tokens whose last one marks the end of input.
Looking beyond the end sees that mark again.
-/

namespace MiniC

/-- Tokens of which the last one is the end of input. -/
structure TokenStream where
  tokens : Array Token
  terminated : tokens.back?.map Token.kind = some .endOfInput

namespace TokenStream

/-- The wording of the refusal of tokens without an end mark. -/
def unterminatedMessage : String :=
  "token stream must end with an EOF token"

/-- The stream of a list of tokens, if its last token marks the end. -/
def ofList? (tokens : List Token) : Option TokenStream :=
  if terminated : tokens.toArray.back?.map Token.kind = some .endOfInput then
    some ⟨tokens.toArray, terminated⟩
  else
    none

/-- The number of tokens, end mark included. -/
def size (stream : TokenStream) : Nat :=
  stream.tokens.size

/-- The index of the end mark. -/
def lastIndex (stream : TokenStream) : Nat :=
  stream.tokens.size - 1

/-- The token at an index of the stream. -/
def get? (stream : TokenStream) (index : Nat) : Option Token :=
  stream.tokens[index]?

/-- The kind of the token at an index; indices beyond the end see the end mark. -/
def kindAt (stream : TokenStream) (index : Nat) : Kind :=
  match stream.tokens[index]? with
  | some token => token.kind
  | none => .endOfInput

/-- A stream holds at least its end mark. -/
theorem size_pos (stream : TokenStream) : 0 < stream.size := by
  have terminated := stream.terminated
  unfold size
  rcases Nat.eq_zero_or_pos stream.tokens.size with empty | positive
  · simp [Array.back?, empty] at terminated
  · exact positive

/-- The last token marks the end of input. -/
theorem kindAt_lastIndex (stream : TokenStream) :
    stream.kindAt stream.lastIndex = .endOfInput := by
  have terminated := stream.terminated
  simp only [Array.back?, Option.map_eq_some_iff] at terminated
  obtain ⟨token, found, kindEq⟩ := terminated
  simp [kindAt, lastIndex, found, kindEq]

end TokenStream

end MiniC
