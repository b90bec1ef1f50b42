/-!
# Similar words

How much two words have in common: their longest common block, and what the
parts before it and the parts after it have in common in turn.  Words that
agree in at least three fifths of their characters count as similar.
-/

namespace MiniC.CommandLine.Similar

/-- The number of characters with which both words begin. -/
def commonStart : List Char → List Char → Nat
  | a :: first, b :: second => if a = b then commonStart first second + 1 else 0
  | _, _ => 0

/-- A run of characters that two words share, by its place in each. -/
structure Block where
  first : Nat := 0
  second : Nat := 0
  size : Nat := 0

/-- The blocks that start at every pair of places, in order of the places. -/
def blocks (first second : List Char) : List Block :=
  (List.range first.length).flatMap fun i =>
    (List.range second.length).map fun j =>
      ⟨i, j, commonStart (first.drop i) (second.drop j)⟩

/-- The longest block; of several, the one that starts earliest. -/
def longestBlock (first second : List Char) : Block :=
  (blocks first second).foldl
    (fun best block => if best.size < block.size then block else best) {}

/-- The number of characters that two words have in common. -/
def common (first second : List Char) : Nat :=
  match longestBlock first second with
  | ⟨i, j, size⟩ =>
      if 0 < size ∧ i + size ≤ first.length then
        common (first.take i) (second.take j) + size +
          common (first.drop (i + size)) (second.drop (j + size))
      else
        0
termination_by first.length
decreasing_by
  all_goals
    simp only [List.length_take, List.length_drop]
    omega

/-- A candidate with the characters it shares with a word and the characters of
both. -/
structure Rating where
  candidate : String
  shared : Nat
  total : Nat

/-- Compare a candidate with a word. -/
def rate (word candidate : String) : Rating :=
  { candidate
    shared := common candidate.toList word.toList
    total := candidate.length + word.length }

/-- Whether a candidate shares at least three fifths of the characters. -/
def Rating.isClose (rating : Rating) : Bool :=
  3 * rating.total ≤ 10 * rating.shared

/-- Whether a candidate goes before another: by the part it shares, then by the
later name. -/
def Rating.precedes (rating other : Rating) : Bool :=
  let left := rating.shared * other.total
  let right := other.shared * rating.total
  right < left || (left = right && other.candidate ≤ rating.candidate)

/-- The number of similar words that are suggested. -/
def limit : Nat := 3

/-- Whether a candidate would be close if the shorter of the two words were part of
the longer. -/
def mayBeClose (word candidate : String) : Bool :=
  3 * (candidate.length + word.length) ≤ 10 * min candidate.length word.length

/-- The candidates most similar to a word, in the order of their names. -/
def closest (word : String) (candidates : List String) : List String :=
  let rated := (candidates.filter (mayBeClose word)).map (rate word)
  let close := rated.filter Rating.isClose
  let best := ((close.mergeSort Rating.precedes).take limit).map Rating.candidate
  best.mergeSort fun a b => a ≤ b

end MiniC.CommandLine.Similar
