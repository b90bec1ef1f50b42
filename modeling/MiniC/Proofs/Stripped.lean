import MiniC.Proofs.Moved

/-!
# Kinds and texts alone

A token says more than its kind and its text: where it stands, when it was made, and
whether it was terminated.  The tree that is left when all this is taken from its
tokens is shared by all sources with the same kinds and texts.
-/

namespace MiniC

/-- The kind and the text of a token. -/
def Token.stripped (token : Token) : Token :=
  { kind := token.kind, lexeme := token.lexeme, line := 0 }

/-- Tokens stay where they are, with their kinds and texts alone. -/
def Shift.plain : Shift :=
  { token := Token.stripped }

/-- A compilation unit with the kinds and texts of its tokens alone. -/
def CompilationUnit.stripped (unit : CompilationUnit) : CompilationUnit :=
  unit.moved .plain

/-! ## Streams of kinds and texts -/

namespace TokenStream

variable {stream : TokenStream}

/-- The stream of the kinds and texts of the tokens of another one. -/
def stripped (stream : TokenStream) : TokenStream :=
  { tokens := stream.tokens.map Token.stripped
    terminated := by
      rw [Array.back?_map, Option.map_map]
      exact stream.terminated }

/-- Streams that agree token by token on kinds and texts. -/
def SameText (first second : TokenStream) : Prop :=
  first.tokens.toList.map (fun token => (token.kind, token.lexeme)) =
    second.tokens.toList.map fun token => (token.kind, token.lexeme)

instance (first second : TokenStream) : Decidable (first.SameText second) :=
  inferInstanceAs (Decidable (_ = _))

theorem SameText.stripped_eq {first second : TokenStream} (same : first.SameText second) :
    first.stripped = second.stripped := by
  have tokens := congrArg
    (List.map fun pair : Kind × String => Token.stripped ⟨pair.1, pair.2, 0, true, 0⟩) same
  simp only [List.map_map] at tokens
  unfold stripped
  congr 1
  rw [← Array.toList_inj, Array.toList_map, Array.toList_map]
  exact tokens

@[simp]
theorem size_stripped : stream.stripped.size = stream.size :=
  Array.size_map

@[simp]
theorem lastIndex_stripped : stream.stripped.lastIndex = stream.lastIndex :=
  congrArg (· - 1) stream.size_stripped

@[simp]
theorem get?_stripped (index : Nat) :
    stream.stripped.get? index = (stream.get? index).map Token.stripped :=
  Array.getElem?_map

end TokenStream

end MiniC
