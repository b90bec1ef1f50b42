import MiniC.Parser.Bracket
import MiniC.Proofs.Stream

/-!
# Where blocks end

From any index on, the block around it ends at the first closing brace that no
brace after the index opens, or at the end of input.  A rule that takes whole
blocks only stays on its level: the block around its start and the block around
its end are the same, so it never runs past the brace that closes the block it
was started in.
-/

namespace MiniC.Parser

/-- The index of the brace that closes all of `level` open blocks, or the end of
input. -/
def closingFrom (stream : TokenStream) (level index : Nat) : Nat :=
  (closingBrace? stream (stream.lastIndex - index) level index).getD stream.lastIndex

/-- The end of the block around an index. -/
def blockEnd (stream : TokenStream) (index : Nat) : Nat :=
  closingFrom stream 1 index

/-- Whether a kind opens or closes a block. -/
def isBrace (kind : Kind) : Prop :=
  kind = .leftBrace ∨ kind = .rightBrace

instance (kind : Kind) : Decidable (isBrace kind) :=
  inferInstanceAs (Decidable (_ ∨ _))

/-- Whether a kind neither opens nor closes a block and is no end mark. -/
def isInner : Kind → Bool
  | .leftBrace | .rightBrace | .endOfInput => false
  | _ => true

section Closing

variable {stream : TokenStream} {level index : Nat}

private theorem closingBrace?_succ (count : Nat) (level : Int) (index : Nat) :
    closingBrace? stream (count + 1) level index =
      if stream.kindAt index = .leftBrace then
        closingBrace? stream count (level + 1) (index + 1)
      else if stream.kindAt index = .rightBrace then
        if level = 1 then some index else closingBrace? stream count (level - 1) (index + 1)
      else
        closingBrace? stream count level (index + 1) := by
  rw [closingBrace?]
  split <;> simp_all

theorem closingFrom_last (beyond : stream.lastIndex ≤ index) :
    closingFrom stream level index = stream.lastIndex := by
  have none : stream.lastIndex - index = 0 := by omega
  rw [closingFrom, none]
  rfl

private theorem remaining_eq (inside : index < stream.lastIndex) :
    stream.lastIndex - index = (stream.lastIndex - (index + 1)) + 1 := by
  omega

theorem closingFrom_plain (inside : index < stream.lastIndex)
    (plain : ¬ isBrace (stream.kindAt index)) :
    closingFrom stream level index = closingFrom stream level (index + 1) := by
  have notLeft : stream.kindAt index ≠ .leftBrace := fun left => plain (.inl left)
  have notRight : stream.kindAt index ≠ .rightBrace := fun right => plain (.inr right)
  rw [closingFrom, remaining_eq inside, closingBrace?_succ, if_neg notLeft, if_neg notRight]
  rfl

theorem closingFrom_open (opens : stream.kindAt index = .leftBrace) :
    closingFrom stream level index = closingFrom stream (level + 1) (index + 1) := by
  have inside : index < stream.lastIndex :=
    TokenStream.lt_lastIndex_of_kindAt_eq opens (by decide)
  rw [closingFrom, remaining_eq inside, closingBrace?_succ, if_pos opens]
  rfl

theorem closingFrom_close (closes : stream.kindAt index = .rightBrace) :
    closingFrom stream (level + 2) index = closingFrom stream (level + 1) (index + 1) := by
  have inside : index < stream.lastIndex :=
    TokenStream.lt_lastIndex_of_kindAt_eq closes (by decide)
  have levelEq : ((level + 2 : Nat) : Int) - 1 = ((level + 1 : Nat) : Int) := by omega
  have notOne : ((level + 2 : Nat) : Int) ≠ 1 := by omega
  have notLeft : stream.kindAt index ≠ .leftBrace := by simp [closes]
  rw [closingFrom, remaining_eq inside, closingBrace?_succ, if_neg notLeft, if_pos closes,
    if_neg notOne, levelEq]
  rfl

theorem blockEnd_close (closes : stream.kindAt index = .rightBrace) :
    blockEnd stream index = index := by
  have inside : index < stream.lastIndex :=
    TokenStream.lt_lastIndex_of_kindAt_eq closes (by decide)
  have notLeft : stream.kindAt index ≠ .leftBrace := by simp [closes]
  rw [blockEnd, closingFrom, remaining_eq inside, closingBrace?_succ, if_neg notLeft,
    if_pos closes]
  rfl

theorem blockEnd_last (beyond : stream.lastIndex ≤ index) :
    blockEnd stream index = stream.lastIndex :=
  closingFrom_last beyond

theorem blockEnd_plain (inside : index < stream.lastIndex)
    (plain : ¬ isBrace (stream.kindAt index)) :
    blockEnd stream (index + 1) = blockEnd stream index :=
  (closingFrom_plain inside plain).symm

theorem closingFrom_le (level : Nat) (inside : index ≤ stream.lastIndex) :
    index ≤ closingFrom stream (level + 1) index ∧
      closingFrom stream (level + 1) index ≤ stream.lastIndex := by
  -- the distance to the end decides; every step moves one token ahead
  induction distance : stream.lastIndex - index generalizing index level with
  | zero =>
      rw [closingFrom_last (by omega)]
      omega
  | succ distance induction =>
      have before : index < stream.lastIndex := by omega
      by_cases opens : stream.kindAt index = .leftBrace
      · have further : index + 1 ≤ closingFrom stream (level + 1 + 1) (index + 1) ∧
            closingFrom stream (level + 1 + 1) (index + 1) ≤ stream.lastIndex :=
          induction (level + 1) (by omega) (by omega)
        rw [closingFrom_open opens]
        omega
      · by_cases closes : stream.kindAt index = .rightBrace
        · cases level with
          | zero =>
              have here : closingFrom stream 1 index = index := blockEnd_close closes
              rw [here]
              omega
          | succ level =>
              have further : index + 1 ≤ closingFrom stream (level + 1) (index + 1) ∧
                  closingFrom stream (level + 1) (index + 1) ≤ stream.lastIndex :=
                induction level (by omega) (by omega)
              rw [closingFrom_close closes]
              omega
        · have further : index + 1 ≤ closingFrom stream (level + 1) (index + 1) ∧
              closingFrom stream (level + 1) (index + 1) ≤ stream.lastIndex :=
            induction level (by omega) (by omega)
          rw [closingFrom_plain before (by simp [isBrace, opens, closes])]
          omega

theorem le_blockEnd (inside : index ≤ stream.lastIndex) :
    index ≤ blockEnd stream index :=
  (closingFrom_le 0 inside).1

theorem blockEnd_le (inside : index ≤ stream.lastIndex) :
    blockEnd stream index ≤ stream.lastIndex :=
  (closingFrom_le 0 inside).2

/-- Of several open blocks the innermost closes first. -/
theorem closingFrom_succ (level : Nat) (inside : index ≤ stream.lastIndex) :
    closingFrom stream (level + 2) index =
      if blockEnd stream index < stream.lastIndex then
        closingFrom stream (level + 1) (blockEnd stream index + 1)
      else
        stream.lastIndex := by
  induction distance : stream.lastIndex - index using Nat.strongRecOn
    generalizing index level with
  | _ remaining induction =>
      by_cases atEnd : stream.lastIndex ≤ index
      · rw [closingFrom_last atEnd, blockEnd_last atEnd, if_neg (Nat.lt_irrefl _)]
      · by_cases opens : stream.kindAt index = .leftBrace
        · have shorter : stream.lastIndex - (index + 1) < remaining := by omega
          have inner := induction _ shorter (level + 1) (by omega) rfl
          have outer := induction _ shorter 0 (by omega) rfl
          have blockEq : blockEnd stream index = closingFrom stream 2 (index + 1) :=
            closingFrom_open opens
          rw [closingFrom_open opens, inner, blockEq, outer]
          have innerLower : index + 1 ≤ blockEnd stream (index + 1) := le_blockEnd (by omega)
          by_cases closed : blockEnd stream (index + 1) < stream.lastIndex
          · rw [if_pos closed, if_pos closed]
            exact induction _ (by omega) level (by omega) rfl
          · rw [if_neg closed, if_neg closed, if_neg (Nat.lt_irrefl _)]
        · by_cases closes : stream.kindAt index = .rightBrace
          · rw [closingFrom_close closes, blockEnd_close closes, if_pos (by omega)]
          · have plain : ¬ isBrace (stream.kindAt index) := by simp [isBrace, opens, closes]
            rw [closingFrom_plain (by omega) plain, ← blockEnd_plain (by omega) plain]
            exact induction _ (by omega) level (by omega) rfl

/-- A block that is closed leads on to the level of its opening brace. -/
theorem blockEnd_open (opens : stream.kindAt index = .leftBrace) :
    blockEnd stream index =
      if blockEnd stream (index + 1) < stream.lastIndex then
        blockEnd stream (blockEnd stream (index + 1) + 1)
      else
        stream.lastIndex := by
  have inside : index < stream.lastIndex :=
    TokenStream.lt_lastIndex_of_kindAt_eq opens (by decide)
  have stepped : blockEnd stream index = closingFrom stream 2 (index + 1) :=
    closingFrom_open opens
  rw [stepped, closingFrom_succ 0 (by omega)]
  rfl

theorem kindAt_blockEnd (inside : index ≤ stream.lastIndex)
    (closed : blockEnd stream index < stream.lastIndex) :
    stream.kindAt (blockEnd stream index) = .rightBrace := by
  induction distance : stream.lastIndex - index using Nat.strongRecOn
    generalizing index with
  | _ distance induction =>
      by_cases atEnd : stream.lastIndex ≤ index
      · rw [blockEnd_last atEnd] at closed
        omega
      · by_cases opens : stream.kindAt index = .leftBrace
        · rw [blockEnd_open opens] at closed ⊢
          have innerLower : index + 1 ≤ blockEnd stream (index + 1) := le_blockEnd (by omega)
          by_cases innerClosed : blockEnd stream (index + 1) < stream.lastIndex
          · rw [if_pos innerClosed] at closed ⊢
            exact induction _ (by omega) (by omega) closed rfl
          · rw [if_neg innerClosed] at closed
            omega
        · by_cases closes : stream.kindAt index = .rightBrace
          · rw [blockEnd_close closes]
            exact closes
          · have plain : ¬ isBrace (stream.kindAt index) := by simp [isBrace, opens, closes]
            rw [← blockEnd_plain (by omega) plain] at closed ⊢
            exact induction _ (by omega) (by omega) closed rfl

/-- Blocks inside a block end inside it. -/
theorem blockEnd_mono {later : Nat} (ordered : index ≤ later)
    (inside : later ≤ blockEnd stream index) (bound : index ≤ stream.lastIndex) :
    blockEnd stream later ≤ blockEnd stream index := by
  induction distance : stream.lastIndex - index using Nat.strongRecOn
    generalizing index with
  | _ distance induction =>
      by_cases same : index = later
      · subst same
        exact Nat.le_refl _
      · have upper : later ≤ stream.lastIndex := Nat.le_trans inside (blockEnd_le bound)
        by_cases opens : stream.kindAt index = .leftBrace
        · rw [blockEnd_open opens] at inside ⊢
          have innerLower : index + 1 ≤ blockEnd stream (index + 1) := le_blockEnd (by omega)
          by_cases innerClosed : blockEnd stream (index + 1) < stream.lastIndex
          · rw [if_pos innerClosed] at inside ⊢
            have outerLower :
                blockEnd stream (index + 1) + 1 ≤
                  blockEnd stream (blockEnd stream (index + 1) + 1) :=
              le_blockEnd (by omega)
            by_cases within : later ≤ blockEnd stream (index + 1)
            · have nested : blockEnd stream later ≤ blockEnd stream (index + 1) :=
                induction _ (by omega) (by omega) within (by omega) rfl
              omega
            · exact induction _ (by omega) (by omega) inside (by omega) rfl
          · rw [if_neg innerClosed] at inside ⊢
            exact blockEnd_le inside
        · by_cases closes : stream.kindAt index = .rightBrace
          · rw [blockEnd_close closes] at inside
            omega
          · have plain : ¬ isBrace (stream.kindAt index) := by simp [isBrace, opens, closes]
            rw [← blockEnd_plain (by omega) plain] at inside ⊢
            exact induction _ (by omega) (by omega) inside (by omega) rfl

theorem matchingBrace_eq {input : Input}
    (opens : input.kindAt index = .leftBrace) :
    matchingBrace input index = blockEnd input.stream (index + 1) :=
  closingFrom_open opens

end Closing

/-- An index is reached from another one without leaving its block. -/
structure Reaches (stream : TokenStream) (start stop : Nat) : Prop where
  le : start ≤ stop
  inside : stop ≤ stream.lastIndex
  level : blockEnd stream stop = blockEnd stream start

namespace Reaches

variable {stream : TokenStream} {start middle stop : Nat}

theorem refl (inside : start ≤ stream.lastIndex) : Reaches stream start start :=
  ⟨Nat.le_refl start, inside, rfl⟩

theorem trans (first : Reaches stream start middle) (second : Reaches stream middle stop) :
    Reaches stream start stop :=
  ⟨Nat.le_trans first.le second.le, second.inside, second.level.trans first.level⟩

theorem step (first : Reaches stream start stop)
    (notEnd : stream.kindAt stop ≠ .endOfInput)
    (plain : ¬ isBrace (stream.kindAt stop)) :
    Reaches stream start (stop + 1) := by
  have inside : stop < stream.lastIndex := TokenStream.lt_lastIndex_of_kindAt notEnd
  exact ⟨by have := first.le; omega, inside, (blockEnd_plain inside plain).trans first.level⟩

theorem next {kind : Kind} (reached : Reaches stream start stop)
    (kindEq : stream.kindAt stop = kind) (inner : isInner kind = true) :
    Reaches stream start (stop + 1) := by
  subst kindEq
  apply reached.step
  · intro atEnd
    rw [atEnd] at inner
    cases inner
  · rintro (left | right)
    · rw [left] at inner
      cases inner
    · rw [right] at inner
      cases inner

theorem le_blockEnd (reached : Reaches stream start stop) : stop ≤ blockEnd stream start := by
  rw [← reached.level]
  exact Parser.le_blockEnd reached.inside

end Reaches

/-- The block around an index lies inside the block around an earlier one. -/
structure Encloses (stream : TokenStream) (start index : Nat) : Prop where
  le : start ≤ index
  end_le : blockEnd stream index ≤ blockEnd stream start

theorem Reaches.encloses {stream : TokenStream} {start stop : Nat}
    (reached : Reaches stream start stop) : Encloses stream start stop :=
  ⟨reached.le, Nat.le_of_eq reached.level⟩

end MiniC.Parser
