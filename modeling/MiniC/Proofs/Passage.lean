import MiniC.Parser.Declarator
import MiniC.Proofs.Brace
import MiniC.Proofs.Moved

/-!
# The same tokens in another stream

The tokens of one stream, all of them or those up to some token that ends a declaration,
a block or the stream, may stand again in another stream: as they are, with less said of
them, or further on.  No rule that is started among them looks beyond them, and what it
finds there it finds again in the other stream.
-/

namespace MiniC.Parser

/-- Kinds of tokens that end a declaration, a block or a stream. -/
def endsPart : Kind → Bool
  | .semicolon | .rightBrace | .endOfInput => true
  | _ => false

/-- A part of a stream, from its start up to a last token, that stands again in another
stream so much further on. -/
structure Segment (leadStream trailStream : TokenStream) (offset last : Nat) : Prop where
  inside : last ≤ leadStream.lastIndex
  stops : endsPart (leadStream.kindAt last) = true
  ends : last = leadStream.lastIndex → trailStream.lastIndex = last + offset
  longer : leadStream.size ≤ trailStream.size
  /-- The blocks of the part end in it. -/
  closed : ∀ index < last, leadStream.kindAt index = .leftBrace →
    blockEnd leadStream (index + 1) ≤ last

theorem kind_still (token : Token) : (Shift.still.token token).kind = token.kind :=
  rfl

theorem lexeme_still (token : Token) : (Shift.still.token token).lexeme = token.lexeme :=
  rfl

/-- Tokens of the leading stream that stand again in the trailing one. -/
structure Passage where
  leadStream : TokenStream
  trailStream : TokenStream
  shift : Shift := .still
  /-- The index of the last of them, if they are a part of the stream only. -/
  last? : Option Nat := none
  kind : ∀ token, (shift.token token).kind = token.kind := by intros; rfl
  lexeme : ∀ token, (shift.token token).lexeme = token.lexeme := by intros; rfl
  same : ∀ index, (∀ last ∈ last?, index ≤ last) →
    trailStream.get? (index + shift.offset) = (leadStream.get? index).map shift.token
  whole : last? = none → shift.offset = 0 ∧ trailStream.size = leadStream.size
  part : ∀ last ∈ last?, Segment leadStream trailStream shift.offset last

namespace Passage

/-- A stream beside itself. -/
def itself (stream : TokenStream) : Passage where
  leadStream := stream
  trailStream := stream
  shift := .still
  last? := none
  kind := kind_still
  lexeme := lexeme_still
  same _ _ := by simp
  whole _ := ⟨rfl, rfl⟩
  part _ known := nomatch known

/-- How much further on the tokens stand. -/
abbrev offset (passage : Passage) : Nat :=
  passage.shift.offset

/-- The tokens are a part of the leading stream only. -/
def Partial (passage : Passage) : Prop :=
  passage.last?.isSome = true

theorem itself_whole (stream : TokenStream) : ¬ (itself stream).Partial :=
  nofun

/-- An index of one of the tokens, or beyond the end of a stream that stands again as a
whole. -/
def Within (passage : Passage) (index : Nat) : Prop :=
  ∀ last ∈ passage.last?, index ≤ last

/-- An index inside a block of the part, after its opening brace. -/
def Enclosed (passage : Passage) (index : Nat) : Prop :=
  ∀ last ∈ passage.last?, 0 < index ∧ index ≤ passage.leadStream.lastIndex ∧
    blockEnd passage.leadStream index ≤ last

/-- Bounds of a loop over the leading and of one over the trailing stream.  They differ
only if a part of the leading stream stands in a longer one. -/
def Fuelled (passage : Passage) (fuel other : Nat) : Prop :=
  other = fuel ∨ passage.Partial ∧ fuel ≤ other

theorem next_moved (offset index : Nat) : index + offset + 1 = index + 1 + offset :=
  Nat.add_right_comm index offset 1

section Extent

variable {passage : Passage} {index later : Nat}

theorem partial_iff : passage.Partial ↔ ∃ last, last ∈ passage.last? :=
  Option.isSome_iff_exists

theorem unmoved (whole : ¬ passage.Partial) : passage.offset = 0 :=
  (passage.whole (by simpa [Partial] using whole)).1

theorem size_whole (passage : Passage) (whole : ¬ passage.Partial) :
    passage.trailStream.size = passage.leadStream.size :=
  (passage.whole (by simpa [Partial] using whole)).2

theorem within_of_whole (whole : ¬ passage.Partial) : passage.Within index :=
  fun last known => absurd (partial_iff.mpr ⟨last, known⟩) whole

theorem within_of_partial (within : passage.Partial → passage.Within index) :
    passage.Within index :=
  fun last known => within (partial_iff.mpr ⟨last, known⟩) last known

/-- What is missing at the very start of a part matters only if it is a part. -/
theorem placed (passage : Passage) {kind : Kind}
    (placed : passage.Partial → 0 < index ∨ kind.isReportedAfter = false) :
    passage.shift.offset = 0 ∨ 0 < index ∨ kind.isReportedAfter = false := by
  by_cases part : passage.Partial
  · exact .inr (placed part)
  · exact .inl (unmoved part)

theorem Within.mono (within : passage.Within later) (ordered : index ≤ later) :
    passage.Within index :=
  fun last known => Nat.le_trans ordered (within last known)

/-- No token but those that end declarations, blocks and streams is the last one. -/
theorem Within.next (within : passage.Within index)
    (inner : endsPart (passage.leadStream.kindAt index) = false) :
    passage.Within (index + 1) := by
  intro last known
  rcases Nat.lt_or_eq_of_le (within last known) with before | same
  · exact before
  · have stops := (passage.part last known).stops
    rw [← same, inner] at stops
    cases stops

theorem Within.after {kind : Kind} (within : passage.Within index)
    (found : passage.leadStream.kindAt index = kind) (inner : endsPart kind = false) :
    passage.Within (index + 1) :=
  within.next (found ▸ inner)

theorem Within.operator {α : Type} {operators : Kind → Option α} {operator : α}
    (within : passage.Within index)
    (denotes : operators (passage.leadStream.kindAt index) = some operator)
    (none : operators .semicolon = none ∧ operators .rightBrace = none ∧
      operators .endOfInput = none) :
    passage.Within (index + 1) := by
  obtain ⟨semicolonNone, braceNone, endNone⟩ := none
  refine within.next ?_
  unfold endsPart
  split
  case h_1 semicolon =>
    rw [semicolon, semicolonNone] at denotes
    cases denotes
  case h_2 brace =>
    rw [brace, braceNone] at denotes
    cases denotes
  case h_3 atEnd =>
    rw [atEnd, endNone] at denotes
    cases denotes
  case h_4 => rfl

/-- The whole stream, or its end mark if that is the last token. -/
theorem lastIndex_moved (within : passage.Within passage.leadStream.lastIndex) :
    passage.trailStream.lastIndex = passage.leadStream.lastIndex + passage.offset := by
  cases known : passage.last? with
  | none =>
      obtain ⟨unmoved, sameSize⟩ := passage.whole known
      rw [passage.trailStream.size_eq, passage.leadStream.size_eq] at sameSize
      unfold offset
      omega
  | some last =>
      have part := passage.part last known
      have atEnd := Nat.le_antisymm part.inside (within last known)
      rw [part.ends atEnd, atEnd]

theorem kindAt_moved (within : passage.Within index) :
    passage.trailStream.kindAt (index + passage.offset) = passage.leadStream.kindAt index := by
  have same := passage.same index within
  unfold TokenStream.get? at same
  unfold TokenStream.kindAt
  rw [same]
  cases passage.leadStream.tokens[index]? with
  | none => rfl
  | some token => exact passage.kind token

theorem constant_moved (token : Token) :
    (passage.shift.token token).constant = token.constant := by
  unfold Token.constant
  rw [passage.kind, passage.lexeme]

theorem isTypeSpecifier_moved (token : Token) :
    (passage.shift.token token).isTypeSpecifier = token.isTypeSpecifier :=
  congrArg Kind.isTypeSpecifier (passage.kind token)

theorem le_lastIndex_moved (within : passage.Within index)
    (inside : index ≤ passage.leadStream.lastIndex) :
    index + passage.offset ≤ passage.trailStream.lastIndex := by
  obtain ⟨token, found⟩ := TokenStream.get?_isSome_of_le inside
  have same := passage.same index within
  rw [found] at same
  exact TokenStream.le_of_get? same

end Extent

section Fuel

variable {passage : Passage} {fuel other : Nat}

theorem fuelled : passage.Fuelled (passage.leadStream.size + 1) (passage.trailStream.size + 1) := by
  cases known : passage.last? with
  | none => exact .inl (congrArg (· + 1) (passage.whole known).2)
  | some last =>
      exact .inr ⟨partial_iff.mpr ⟨last, known⟩,
        Nat.succ_le_succ (passage.part last known).longer⟩

theorem Fuelled.succ (fuelled : passage.Fuelled (fuel + 1) other) :
    ∃ smaller, other = smaller + 1 ∧ passage.Fuelled fuel smaller := by
  rcases fuelled with rfl | ⟨part, more⟩
  · exact ⟨fuel, rfl, .inl rfl⟩
  · exact ⟨other - 1, by omega, .inr ⟨part, by omega⟩⟩

end Fuel

section Blocks

variable {passage : Passage} {index later : Nat}

theorem enclosed_of_partial (enclosed : passage.Partial → passage.Enclosed index) :
    passage.Enclosed index :=
  fun last known => enclosed (partial_iff.mpr ⟨last, known⟩) last known

theorem Enclosed.within (enclosed : passage.Enclosed index) : passage.Within index := by
  intro last known
  obtain ⟨-, inside, bounded⟩ := enclosed last known
  exact Nat.le_trans (le_blockEnd inside) bounded

theorem Enclosed.inside (enclosed : passage.Enclosed index) (part : passage.Partial) :
    index ≤ passage.leadStream.lastIndex := by
  obtain ⟨last, known⟩ := partial_iff.mp part
  exact (enclosed last known).2.1

theorem Enclosed.positive (enclosed : passage.Enclosed index) (part : passage.Partial) :
    0 < index := by
  obtain ⟨last, known⟩ := partial_iff.mp part
  exact (enclosed last known).1

theorem Enclosed.reaches (enclosed : passage.Enclosed index)
    (reached : passage.Partial → Reaches passage.leadStream index later) :
    passage.Enclosed later := by
  intro last known
  obtain ⟨positive, inside, bounded⟩ := enclosed last known
  have reached := reached (partial_iff.mpr ⟨last, known⟩)
  exact ⟨Nat.lt_of_lt_of_le positive reached.le, reached.inside, by rwa [reached.level]⟩

theorem Enclosed.next {kind : Kind} (enclosed : passage.Enclosed index)
    (found : passage.leadStream.kindAt index = kind) (inner : isInner kind = true) :
    passage.Enclosed (index + 1) := by
  exact enclosed.reaches fun part => (Reaches.refl (enclosed.inside part)).next found inner

/-- Blocks that end in the part end alike in both streams. -/
theorem closingFrom_moved (level : Nat) (inside : index ≤ passage.leadStream.lastIndex)
    (closes : passage.Within (closingFrom passage.leadStream (level + 1) index)) :
    closingFrom passage.trailStream (level + 1) (index + passage.offset) =
      closingFrom passage.leadStream (level + 1) index + passage.offset := by
  induction distance : passage.leadStream.lastIndex - index generalizing index level with
  | zero =>
      have beyond : passage.leadStream.lastIndex ≤ index := by omega
      rw [closingFrom_last beyond] at closes ⊢
      have trailEnd := lastIndex_moved closes
      rw [closingFrom_last (by omega), trailEnd]
  | succ distance induction =>
      have before : index < passage.leadStream.lastIndex := by omega
      have within := closes.mono (closingFrom_le level inside).1
      have sameKind := kindAt_moved within
      have step : index + passage.offset + 1 = index + 1 + passage.offset := next_moved _ _
      by_cases opens : passage.leadStream.kindAt index = .leftBrace
      · rw [closingFrom_open opens] at closes ⊢
        rw [closingFrom_open (sameKind.trans opens), step]
        exact induction (level + 1) before closes (by omega)
      · by_cases closing : passage.leadStream.kindAt index = .rightBrace
        · cases level with
          | zero =>
              have here : closingFrom passage.leadStream 1 index = index := blockEnd_close closing
              rw [here]
              exact blockEnd_close (sameKind.trans closing)
          | succ level =>
              rw [closingFrom_close closing] at closes ⊢
              rw [closingFrom_close (sameKind.trans closing), step]
              exact induction level before closes (by omega)
        · have plain : ¬ isBrace (passage.leadStream.kindAt index) := by
            simp [isBrace, opens, closing]
          have next : index + 1 ≤ closingFrom passage.leadStream (level + 1) (index + 1) :=
            (closingFrom_le level before).1
          rw [closingFrom_plain before plain] at closes ⊢
          have trailBefore := le_lastIndex_moved (closes.mono next) before
          rw [closingFrom_plain (by omega) (by rwa [sameKind]), step]
          exact induction level before closes (by omega)

theorem within_blockEnd (within : passage.Within index)
    (opens : passage.leadStream.kindAt index = .leftBrace) :
    passage.Within (blockEnd passage.leadStream (index + 1)) := by
  intro last known
  have next := within.after opens rfl last known
  exact (passage.part last known).closed index next opens

theorem blockEnd_moved (inside : index ≤ passage.leadStream.lastIndex)
    (closes : passage.Within (blockEnd passage.leadStream index)) :
    blockEnd passage.trailStream (index + passage.offset) =
      blockEnd passage.leadStream index + passage.offset :=
  closingFrom_moved 0 inside closes

theorem enclosed_block {start : Nat} (within : passage.Within start)
    (opens : passage.leadStream.kindAt start = .leftBrace) (after : start + 1 ≤ index)
    (before : index < blockEnd passage.leadStream (start + 1)) : passage.Enclosed index := by
  intro last known
  have startInside : start + 1 ≤ passage.leadStream.lastIndex :=
    TokenStream.lt_lastIndex_of_kindAt_eq opens (by decide)
  have limitLe := blockEnd_le startInside
  have nested := blockEnd_mono after (Nat.le_of_lt before) startInside
  exact ⟨by omega, by omega, Nat.le_trans nested (within_blockEnd within opens last known)⟩

end Blocks

section Specifiers

variable {passage : Passage} {start count other : Nat}

theorem specifierRun_moved (within : passage.Within start)
    (ample : ∀ last ∈ passage.last?, last < start + count)
    (fuelled : passage.Fuelled count other) :
    specifierRun passage.trailStream other (start + passage.offset) =
        moved passage.shift (specifierRun passage.leadStream count start) ∧
      passage.Within (start + (specifierRun passage.leadStream count start).length) := by
  induction count generalizing start other with
  | zero =>
      refine ⟨?_, within⟩
      rcases fuelled with rfl | ⟨part, -⟩
      · rfl
      · obtain ⟨last, known⟩ := partial_iff.mp part
        exact absurd (ample last known) (Nat.not_lt_of_le (within last known))
  | succ count induction =>
      obtain ⟨smaller, rfl, further⟩ := fuelled.succ
      have same := passage.same start within
      unfold specifierRun
      rw [same]
      cases found : passage.leadStream.get? start with
      | none => exact ⟨rfl, within⟩
      | some token =>
          simp only [Option.map_some, isTypeSpecifier_moved]
          by_cases specifies : token.isTypeSpecifier = true
          · have inner : endsPart (passage.leadStream.kindAt start) = false := by
              rw [TokenStream.kindAt_of_get? found]
              unfold Token.isTypeSpecifier at specifies
              cases kind : token.kind <;> rw [kind] at specifies <;>
                first | rfl | cases specifies
            obtain ⟨sameRun, ends⟩ := induction (within.next inner)
              (fun last known => by have := ample last known; omega) further
            rw [if_pos specifies, if_pos specifies, next_moved, sameRun]
            exact ⟨rfl, ends.mono (by simp only [List.length_cons]; omega)⟩
          · rw [if_neg specifies, if_neg specifies]
            exact ⟨rfl, within⟩

end Specifiers

section Scans

variable {passage : Passage} {index : Nat}

/-- A scan of the trailing stream answers as that of the leading one did, moved along,
unless the latter broke off in a part of its stream. -/
def Rescans (passage : Passage) (lead trail : Scanned) : Prop :=
  trail = moved passage.shift lead ∨ passage.Partial ∧ ∃ fault, lead = .error fault

theorem Fuelled.rescans {other : Nat} (trail : Nat → Scanned) (fuelled : passage.Fuelled 0 other)
    (stalls : trail 0 = .error .stalled) : passage.Rescans (.error .stalled) (trail other) := by
  rcases fuelled with rfl | ⟨part, -⟩
  · exact .inl stalls
  · exact .inr ⟨part, _, rfl⟩

theorem Within.scanned {token : Token} (within : passage.Within index)
    (found : passage.leadStream.get? index = some token)
    (going : bracketRole token.kind ≠ .stops) : passage.Within (index + 1) := by
  refine within.next ?_
  rw [TokenStream.kindAt_of_get? found]
  cases kind : token.kind <;> first | rfl | exact absurd (by rw [kind]; rfl) going

/-- The brackets that are open in a scan, looked at from outside in. -/
theorem isEmpty_moved (shift : Shift) (pending : List Pending) :
    (moved shift pending).isEmpty = pending.isEmpty :=
  List.isEmpty_map

/-- A scan forward ends in the part, before its last token if the bracket is found. -/
theorem scanForward_moved {fuel other : Nat} {opened : List Pending}
    (fuelled : passage.Fuelled fuel other) (within : passage.Within index) :
    passage.Rescans (scanForward passage.leadStream fuel opened index)
        (scanForward passage.trailStream other (moved passage.shift opened)
          (index + passage.offset)) ∧
      ∀ close, scanForward passage.leadStream fuel opened index = .ok (.ok close) →
        passage.Within (close + 1) := by
  induction fuel generalizing other opened index with
  | zero =>
      exact ⟨Fuelled.rescans (fun other => scanForward _ other _ _) fuelled rfl,
        fun close scan => nomatch scan⟩
  | succ fuel induction =>
      obtain ⟨smaller, rfl, further⟩ := fuelled.succ
      unfold scanForward
      rw [passage.same index within]
      cases found : passage.leadStream.get? index with
      | none => exact ⟨.inl rfl, fun close scan => nomatch scan⟩
      | some token =>
          simp only [Option.map_some, passage.kind, next_moved]
          cases role : bracketRole token.kind with
          | opens bracket =>
              exact induction further (within.scanned found (by rw [role]; simp))
          | closes bracket =>
              have next := within.scanned found (by rw [role]; simp)
              cases opened with
              | nil => exact ⟨.inl rfl, fun close scan => nomatch scan⟩
              | cons innermost outer =>
                  have sameBracket :
                      (moved passage.shift innermost).bracket = innermost.bracket := rfl
                  simp only [moved_cons, sameBracket, isEmpty_moved]
                  split
                  · exact ⟨.inl rfl, fun close scan => nomatch scan⟩
                  · split
                    · refine ⟨.inl rfl, fun close scan => ?_⟩
                      cases scan
                      exact next
                    · exact induction further next
          | stops =>
              cases opened with
              | nil => exact ⟨.inl rfl, fun close scan => nomatch scan⟩
              | cons innermost outer => exact ⟨.inl rfl, fun close scan => nomatch scan⟩
          | plain => exact induction further (within.scanned found (by rw [role]; simp))

/-- A scan backward looks at the tokens before its bracket only. -/
theorem scanBackward_moved {close start count : Nat} {closed : List Pending}
    (within : passage.Within (start + count)) :
    passage.Rescans (scanBackward passage.leadStream close start closed count)
      (scanBackward passage.trailStream (close + passage.offset) (start + passage.offset)
        (moved passage.shift closed) count) := by
  induction count generalizing closed with
  | zero => exact .inl rfl
  | succ count induction =>
      have earlier : passage.Within (start + count) := within.mono (by omega)
      have place : start + passage.offset + count = start + count + passage.offset :=
        Nat.add_right_comm _ _ _
      unfold scanBackward
      simp only [place]
      rw [passage.same _ earlier]
      cases found : passage.leadStream.get? (start + count) with
      | none => exact .inl rfl
      | some token =>
          simp only [Option.map_some, passage.kind]
          cases role : bracketRole token.kind with
          | closes bracket => exact induction earlier
          | opens bracket =>
              cases closed with
              | nil => exact .inl rfl
              | cons innermost outer =>
                  have sameBracket :
                      (moved passage.shift innermost).bracket = innermost.bracket := rfl
                  simp only [moved_cons, sameBracket, isEmpty_moved]
                  split
                  · exact .inl rfl
                  · split
                    · exact .inl rfl
                    · exact induction earlier
          | stops => exact induction earlier
          | plain => exact induction earlier

end Scans

end Passage

end MiniC.Parser
