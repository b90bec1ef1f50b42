import MiniC.Token.Stream

/-!
# Looking at streams

Every index up to the last one holds a token, and only the last index and what
lies beyond it is sure to show the end mark.  So a token of any other kind has
a token after it.
-/

namespace MiniC.TokenStream

theorem size_eq (stream : TokenStream) : stream.size = stream.lastIndex + 1 := by
  have positive := stream.size_pos
  unfold size at positive
  simp only [size, lastIndex]
  omega

theorem get?_isSome_of_le {stream : TokenStream} {index : Nat}
    (inside : index ≤ stream.lastIndex) :
    ∃ token, stream.get? index = some token := by
  have bound : index < stream.tokens.size := by
    have sizeEq := stream.size_eq
    unfold size at sizeEq
    omega
  exact ⟨stream.tokens[index], by simp [get?, bound]⟩

theorem kindAt_of_get? {stream : TokenStream} {index : Nat} {token : Token}
    (found : stream.get? index = some token) :
    stream.kindAt index = token.kind := by
  unfold get? at found
  simp [kindAt, found]

theorem le_of_get? {stream : TokenStream} {index : Nat} {token : Token}
    (found : stream.get? index = some token) :
    index ≤ stream.lastIndex := by
  have bound : index < stream.tokens.size := by
    unfold get? at found
    exact (Array.getElem?_eq_some_iff.mp found).1
  have sizeEq := stream.size_eq
  unfold size at sizeEq
  omega

theorem kindAt_of_lastIndex_le {stream : TokenStream} {index : Nat}
    (beyond : stream.lastIndex ≤ index) :
    stream.kindAt index = .endOfInput := by
  rcases Nat.lt_or_eq_of_le beyond with further | same
  · have outside : stream.tokens.size ≤ index := by
      have sizeEq := stream.size_eq
      unfold size at sizeEq
      omega
    simp [kindAt, Array.getElem?_eq_none outside]
  · rw [← same]
    exact stream.kindAt_lastIndex

theorem lt_lastIndex_of_kindAt {stream : TokenStream} {index : Nat}
    (notEnd : stream.kindAt index ≠ .endOfInput) :
    index < stream.lastIndex := by
  by_cases inside : index < stream.lastIndex
  · exact inside
  · exact absurd (kindAt_of_lastIndex_le (Nat.le_of_not_lt inside)) notEnd

theorem lt_lastIndex_of_kindAt_eq {stream : TokenStream} {index : Nat} {kind : Kind}
    (found : stream.kindAt index = kind) (notEnd : kind ≠ .endOfInput) :
    index < stream.lastIndex :=
  lt_lastIndex_of_kindAt (found ▸ notEnd)

end MiniC.TokenStream
