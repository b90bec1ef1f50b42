import MiniC.Markup.Element
import MiniC.Proofs.Escaping

/-!
# Documents have one reading

The text of an element determines the element, as long as no tag is used both
for leaves and for other elements.  The indentation tells where the children of
an element end, a leaf ends at the first angle bracket after its text, and its
text may hold anything, line breaks and markup included.
-/

namespace MiniC.Markup

/-- Texts that end at the first separator are equal if they are followed by it. -/
theorem append_cons_inj {separator : Char} {first second rest beyond : List Char}
    (left : separator ∉ first) (right : separator ∉ second)
    (same : first ++ separator :: rest = second ++ separator :: beyond) :
    first = second ∧ rest = beyond := by
  induction first generalizing second with
  | nil =>
      cases second with
      | nil => exact ⟨rfl, (List.cons.inj same).2⟩
      | cons c others =>
          exact absurd (List.mem_cons.2 (.inl (List.cons.inj same).1)) right
  | cons c others ih =>
      cases second with
      | nil => exact absurd (List.mem_cons.2 (.inl (List.cons.inj same).1.symm)) left
      | cons d more =>
          obtain ⟨rfl, tails⟩ := List.cons.inj same
          obtain ⟨rfl, rests⟩ :=
            ih (mt (List.mem_cons_of_mem c) left) (mt (List.mem_cons_of_mem c) right) tails
          exact ⟨rfl, rests⟩

namespace Element

mutual

/-- Whether the leaves are the elements with a leaf tag, and no tag holds its own end. -/
def Tagged (isLeafTag : String → Bool) : Element → Prop
  | .leaf tag _ => isLeafTag tag = true ∧ '>' ∉ tag.toList
  | .branch tag children =>
      isLeafTag tag = false ∧ '>' ∉ tag.toList ∧ TaggedList isLeafTag children

/-- Whether each of some elements is tagged. -/
def TaggedList (isLeafTag : String → Bool) : List Element → Prop
  | [] => True
  | element :: rest => Tagged isLeafTag element ∧ TaggedList isLeafTag rest

end

/-- The characters of written lines. -/
def charsOf (written : List String) : List Char :=
  written.flatMap fun line => line.toList ++ ['\n']

/-- The blanks at some depth. -/
def blanks (depth : Nat) : List Char :=
  List.replicate (4 * depth) ' '

theorem toList_render (element : Element) :
    element.render.toList = charsOf (element.lines 0) := by
  rw [render, String.toList_join, List.flatMap_map, charsOf]
  simp

theorem charsOf_leaf (depth : Nat) (tag text : String) :
    charsOf (lines depth (.leaf tag text)) =
      blanks depth ++ '<' :: (tag.toList ++ '>' :: (escape text.toList ++
        '<' :: '/' :: (tag.toList ++ ['>', '\n']))) := by
  simp [charsOf, lines, indentation, openTag, closeTag, escaped, blanks]

theorem charsOf_branch (depth : Nat) (tag : String) (children : List Element) :
    charsOf (lines depth (.branch tag children)) =
      blanks depth ++ '<' :: (tag.toList ++ '>' :: '\n' ::
        (charsOf (linesOfList (depth + 1) children) ++
          (blanks depth ++ '<' :: '/' :: (tag.toList ++ ['>', '\n'])))) := by
  simp [charsOf, lines, indentation, openTag, closeTag, blanks]

theorem charsOf_cons (depth : Nat) (element : Element) (others : List Element) :
    charsOf (linesOfList depth (element :: others)) =
      charsOf (lines depth element) ++ charsOf (linesOfList depth others) := by
  simp [charsOf, linesOfList]

theorem openTag_inj {depth : Nat} {first second : String} {rest beyond : List Char}
    (left : '>' ∉ first.toList) (right : '>' ∉ second.toList)
    (same : blanks depth ++ '<' :: (first.toList ++ '>' :: rest) =
      blanks depth ++ '<' :: (second.toList ++ '>' :: beyond)) :
    first = second ∧ rest = beyond := by
  obtain ⟨tags, rests⟩ :=
    append_cons_inj left right (List.cons.inj (List.append_cancel_left same)).2
  exact ⟨String.toList_inj.1 tags, rests⟩

/-- A closing tag does not look like a child, which is indented further. -/
theorem closing_ne_child {depth : Nat} {element : Element} {closing rest : List Char} :
    blanks depth ++ '<' :: closing ≠ charsOf (lines (depth + 1) element) ++ rest := by
  have deeper : blanks (depth + 1) = blanks depth ++ [' ', ' ', ' ', ' '] := by
    rw [blanks, blanks, Nat.mul_add, ← List.replicate_append_replicate]
    rfl
  intro same
  cases element with
  | leaf tag text =>
      rw [charsOf_leaf, deeper, List.append_assoc, List.append_assoc] at same
      exact absurd (List.cons.inj (List.append_cancel_left same)).1 (by decide)
  | branch tag children =>
      rw [charsOf_branch, deeper, List.append_assoc, List.append_assoc] at same
      exact absurd (List.cons.inj (List.append_cancel_left same)).1 (by decide)

mutual

theorem charsOf_lines_inj {isLeafTag : String → Bool} {depth : Nat} {rest beyond : List Char} :
    (first second : Element) → first.Tagged isLeafTag → second.Tagged isLeafTag →
    charsOf (lines depth first) ++ rest = charsOf (lines depth second) ++ beyond →
    first = second ∧ rest = beyond
  | .leaf tag text, .leaf other words, left, right, same => by
      simp only [charsOf_leaf, List.append_assoc, List.cons_append] at same
      obtain ⟨rfl, inside⟩ := openTag_inj left.2 right.2 same
      obtain ⟨texts, closing⟩ :=
        append_cons_inj (opening_not_mem_escape _) (opening_not_mem_escape _) inside
      obtain rfl := String.toList_inj.1 (escape_injective texts)
      obtain ⟨_, ends⟩ := append_cons_inj left.2 left.2 (List.cons.inj closing).2
      exact ⟨rfl, (List.cons.inj ends).2⟩
  | .leaf tag text, .branch other children, left, right, same => by
      simp only [charsOf_leaf, charsOf_branch, List.append_assoc, List.cons_append] at same
      obtain ⟨rfl, _⟩ := openTag_inj left.2 right.2.1 same
      exact absurd left.1 (by rw [right.1]; decide)
  | .branch tag children, .leaf other words, left, right, same => by
      simp only [charsOf_leaf, charsOf_branch, List.append_assoc, List.cons_append] at same
      obtain ⟨rfl, _⟩ := openTag_inj left.2.1 right.2 same
      exact absurd right.1 (by rw [left.1]; decide)
  | .branch tag children, .branch other parts, left, right, same => by
      simp only [charsOf_branch, List.append_assoc, List.cons_append] at same
      obtain ⟨rfl, inside⟩ := openTag_inj left.2.1 right.2.1 same
      obtain ⟨rfl, closing⟩ :=
        charsOf_linesOfList_inj children parts left.2.2 right.2.2 (List.cons.inj inside).2
      obtain ⟨_, ends⟩ := append_cons_inj left.2.1 left.2.1 (List.cons.inj closing).2
      exact ⟨rfl, (List.cons.inj ends).2⟩

theorem charsOf_linesOfList_inj {isLeafTag : String → Bool} {depth : Nat}
    {rest beyond : List Char} :
    (firsts seconds : List Element) → TaggedList isLeafTag firsts → TaggedList isLeafTag seconds →
    charsOf (linesOfList (depth + 1) firsts) ++ (blanks depth ++ '<' :: rest) =
      charsOf (linesOfList (depth + 1) seconds) ++ (blanks depth ++ '<' :: beyond) →
    firsts = seconds ∧ rest = beyond
  | [], [], _, _, same => by
      exact ⟨rfl, (List.cons.inj (List.append_cancel_left (List.append_cancel_left same))).2⟩
  | [], second :: seconds, _, _, same => by
      rw [charsOf_cons, List.append_assoc] at same
      exact absurd same closing_ne_child
  | first :: firsts, [], _, _, same => by
      rw [charsOf_cons, List.append_assoc] at same
      exact absurd same.symm closing_ne_child
  | first :: firsts, second :: seconds, left, right, same => by
      rw [charsOf_cons, charsOf_cons, List.append_assoc, List.append_assoc] at same
      obtain ⟨rfl, others⟩ := charsOf_lines_inj first second left.1 right.1 same
      obtain ⟨rfl, closing⟩ := charsOf_linesOfList_inj firsts seconds left.2 right.2 others
      exact ⟨rfl, closing⟩

end

theorem render_injective {isLeafTag : String → Bool} {first second : Element}
    (left : first.Tagged isLeafTag) (right : second.Tagged isLeafTag)
    (same : first.render = second.render) : first = second := by
  have chars : charsOf (first.lines 0) ++ [] = charsOf (second.lines 0) ++ [] := by
    rw [← toList_render, ← toList_render, same]
  exact (charsOf_lines_inj first second left right chars).1

end Element

end MiniC.Markup
