import MiniC.Text.Digit

/-!
# Reading UTF-8

Bytes are decoded one character at a time.  A character that is cut short or
continued wrongly is refused together with the bytes of it that were still
acceptable, so a refusal names a range of byte positions.
-/

namespace MiniC.Text.Utf8

/-- Why a byte sequence is not UTF-8. -/
inductive Flaw where
  | startByte
  | continuationByte
  | endOfData
  deriving DecidableEq, Repr

/-- A refused range of bytes: the position of its first byte, that byte, the
number of bytes and the reason. -/
structure Refusal where
  position : Nat
  byte : Nat
  count : Nat
  flaw : Flaw
  deriving DecidableEq, Repr

/-- The wording of a reason. -/
def Flaw.message : Flaw → String
  | .startByte => "invalid start byte"
  | .continuationByte => "invalid continuation byte"
  | .endOfData => "unexpected end of data"

/-- The wording of a refusal, which shows the byte only when it stands alone. -/
def Refusal.message (refusal : Refusal) : String :=
  let place :=
    if refusal.count = 1 then
      s!"byte 0x{String.ofList (hexDigits 2 refusal.byte)} in position {refusal.position}"
    else
      s!"bytes in position {refusal.position}-{refusal.position + refusal.count - 1}"
  s!"'utf-8' codec can't decode {place}: {refusal.flaw.message}"

/-- What the first byte of a character announces: the bits it contributes, and
the range of each byte that has to follow. -/
structure Lead where
  bits : Nat
  follow : List (Nat × Nat)

/-- The characters a byte can start.  The range of the second byte excludes
overlong forms, surrogates and code points beyond the last one. -/
def lead? (byte : Nat) : Option Lead :=
  let tail := (0x80, 0xbf)
  if byte < 0x80 then some ⟨byte, []⟩
  else if byte < 0xc2 then none
  else if byte < 0xe0 then some ⟨byte - 0xc0, [tail]⟩
  else if byte = 0xe0 then some ⟨0, [(0xa0, 0xbf), tail]⟩
  else if byte = 0xed then some ⟨0xd, [(0x80, 0x9f), tail]⟩
  else if byte < 0xf0 then some ⟨byte - 0xe0, [tail, tail]⟩
  else if byte = 0xf0 then some ⟨0, [(0x90, 0xbf), tail, tail]⟩
  else if byte < 0xf4 then some ⟨byte - 0xf0, [tail, tail, tail]⟩
  else if byte = 0xf4 then some ⟨4, [(0x80, 0x8f), tail, tail]⟩
  else none

/-- Read the bytes that follow a first byte.  A flaw comes with the number of
acceptable bytes before it. -/
def continuation (value taken : Nat) :
    List (Nat × Nat) → List Nat → Except (Flaw × Nat) (Nat × List Nat)
  | [], rest => .ok (value, rest)
  | _ :: _, [] => .error (.endOfData, taken)
  | (low, high) :: follow, byte :: rest =>
      if low ≤ byte ∧ byte ≤ high then
        continuation (value * 64 + (byte - 0x80)) (taken + 1) follow rest
      else
        .error (.continuationByte, taken)

/-- Decode bytes from a position on.  The fuel bounds the number of characters. -/
def decodeFrom : (fuel position : Nat) → List Nat → Except Refusal (List Char)
  | _, _, [] => .ok []
  | 0, _, _ :: _ => .ok []
  | fuel + 1, position, byte :: rest =>
      match lead? byte with
      | none => .error ⟨position, byte, 1, .startByte⟩
      | some start =>
          match continuation start.bits 1 start.follow rest with
          | .error (flaw, count) => .error ⟨position, byte, count, flaw⟩
          | .ok (value, rest) => do
              let tail ← decodeFrom fuel (position + 1 + start.follow.length) rest
              return Char.ofNat value :: tail

/-- The characters that bytes stand for. -/
def decode (bytes : List Nat) : Except Refusal (List Char) :=
  decodeFrom bytes.length 0 bytes

end MiniC.Text.Utf8
