import MiniC.Parser.Declarator
import MiniC.Proofs.Stream

/-!
# Steps of the bracket scans

A scan for a matching bracket, and the one for the end of a declarator, look at one
token after the other.  The role of the token says how the scan goes on.  When a scan
finds an index in the end, its first step either found that index or left the rest of
the scan to find it.
-/

namespace MiniC.Parser

section Equations

variable {stream : TokenStream} {start : Nat}

theorem lt_lastIndex_of_role {index : Nat} (notStop : bracketRole (stream.kindAt index) ≠ .stops) :
    index < stream.lastIndex := by
  apply TokenStream.lt_lastIndex_of_kindAt
  intro isEnd
  rw [isEnd] at notStop
  exact notStop rfl

theorem get?_of_role {index : Nat} (notStop : bracketRole (stream.kindAt index) ≠ .stops) :
    ∃ token, stream.get? index = some token ∧
      bracketRole token.kind = bracketRole (stream.kindAt index) := by
  obtain ⟨token, found⟩ :=
    TokenStream.get?_isSome_of_le (Nat.le_of_lt (lt_lastIndex_of_role notStop))
  exact ⟨token, found, by rw [TokenStream.kindAt_of_get? found]⟩

section Forward

variable {fuel index : Nat} {opened : List Pending} {bracket : Bracket}

theorem scanForward_plain (plain : bracketRole (stream.kindAt index) = .plain) :
    scanForward stream (fuel + 1) opened index = scanForward stream fuel opened (index + 1) := by
  obtain ⟨token, found, role⟩ := get?_of_role (by rw [plain]; nofun)
  rw [scanForward.eq_def]
  simp only [found, role, plain]

theorem scanForward_opens (opens : bracketRole (stream.kindAt index) = .opens bracket) :
    scanForward stream (fuel + 1) opened index =
      scanForward stream fuel (⟨index, bracket⟩ :: opened) (index + 1) := by
  obtain ⟨token, found, role⟩ := get?_of_role (by rw [opens]; nofun)
  rw [scanForward.eq_def]
  simp only [found, role, opens]

theorem scanForward_closes {place : Nat}
    (closes : bracketRole (stream.kindAt index) = .closes bracket) :
    scanForward stream (fuel + 1) (⟨place, bracket⟩ :: opened) index =
      if opened.isEmpty then .ok (.ok index) else scanForward stream fuel opened (index + 1) := by
  obtain ⟨token, found, role⟩ := get?_of_role (by rw [closes]; nofun)
  rw [scanForward]
  simp only [found, role, closes, ne_eq, not_true, if_false]

end Forward

section Backward

variable {close count index : Nat} {closed : List Pending} {bracket : Bracket}

theorem scanBackward_plain (placed : start + count = index)
    (plain : bracketRole (stream.kindAt index) = .plain) :
    scanBackward stream close start closed (count + 1) =
      scanBackward stream close start closed count := by
  obtain ⟨token, found, role⟩ := get?_of_role (by rw [plain]; nofun)
  rw [scanBackward]
  simp only [placed, found, role, plain]

theorem scanBackward_closes (placed : start + count = index)
    (closes : bracketRole (stream.kindAt index) = .closes bracket) :
    scanBackward stream close start closed (count + 1) =
      scanBackward stream close start (⟨index, bracket⟩ :: closed) count := by
  obtain ⟨token, found, role⟩ := get?_of_role (by rw [closes]; nofun)
  rw [scanBackward]
  simp only [placed, found, role, closes]

theorem scanBackward_opening {place : Nat} (placed : start + count = index)
    (opens : bracketRole (stream.kindAt index) = .opens bracket) :
    scanBackward stream close start (⟨place, bracket⟩ :: closed) (count + 1) =
      if closed.isEmpty then .ok (.ok index) else scanBackward stream close start closed count := by
  obtain ⟨token, found, role⟩ := get?_of_role (by rw [opens]; nofun)
  rw [scanBackward]
  simp only [placed, found, role, opens, ne_eq, not_true, if_false]

end Backward

/-- The scan backward from a closing bracket starts with that bracket. -/
theorem matchBackward_closes {input : Input} {close : Nat} {bracket : Bracket}
    (ordered : start ≤ close)
    (closes : bracketRole (input.stream.kindAt close) = .closes bracket) :
    matchBackward input close start =
      scanBackward input.stream close start [⟨close, bracket⟩] (close - start) := by
  rw [matchBackward, Nat.succ_sub ordered, scanBackward_closes (Nat.add_sub_cancel' ordered) closes]

end Equations

/-- What a scan forward that finds a closing bracket does with its first token. -/
inductive ForwardStep (stream : TokenStream) (fuel : Nat) (opened : List Pending)
    (index close : Nat) : Prop
  | opens {bracket : Bracket} (role : bracketRole (stream.kindAt index) = .opens bracket)
      (rest : scanForward stream fuel (⟨index, bracket⟩ :: opened) (index + 1) =
        .ok (.ok close))
  | closesLast {innermost : Pending}
      (role : bracketRole (stream.kindAt index) = .closes innermost.bracket)
      (last : opened = [innermost]) (found : close = index)
  | closes {innermost : Pending} {outer : List Pending}
      (role : bracketRole (stream.kindAt index) = .closes innermost.bracket)
      (nested : opened = innermost :: outer) (more : outer ≠ [])
      (rest : scanForward stream fuel outer (index + 1) = .ok (.ok close))
  | plain (role : bracketRole (stream.kindAt index) = .plain)
      (rest : scanForward stream fuel opened (index + 1) = .ok (.ok close))

/-- What a scan backward that finds an opening bracket does with its last token. -/
inductive BackwardStep (stream : TokenStream) (origin start : Nat) (closed : List Pending)
    (count opening : Nat) : Prop
  | closes {bracket : Bracket}
      (role : bracketRole (stream.kindAt (start + count)) = .closes bracket)
      (rest : scanBackward stream origin start (⟨start + count, bracket⟩ :: closed) count =
        .ok (.ok opening))
  | opensLast {innermost : Pending}
      (role : bracketRole (stream.kindAt (start + count)) = .opens innermost.bracket)
      (last : closed = [innermost]) (found : opening = start + count)
  | opens {innermost : Pending} {outer : List Pending}
      (role : bracketRole (stream.kindAt (start + count)) = .opens innermost.bracket)
      (nested : closed = innermost :: outer) (more : outer ≠ [])
      (rest : scanBackward stream origin start outer count = .ok (.ok opening))
  | passes (role : bracketRole (stream.kindAt (start + count)) = .stops ∨
        bracketRole (stream.kindAt (start + count)) = .plain)
      (rest : scanBackward stream origin start closed count = .ok (.ok opening))

/-- What the scan for the end of a declarator does with its first token. -/
inductive EndStep (input : Input) (fuel index stop : Nat) : Prop
  | name (role : input.kindAt index = .identifier)
      (rest : findEndFrom input fuel (index + 1) = .ok (.ok stop))
  | group {bracket : Bracket} {close : Nat}
      (role : bracketRole (input.kindAt index) = .opens bracket)
      (matched : matchForward input index = .ok (.ok close))
      (rest : findEndFrom input fuel (close + 1) = .ok (.ok stop))
  | ended (notName : input.kindAt index ≠ .identifier)
      (notOpening : ∀ bracket, bracketRole (input.kindAt index) ≠ .opens bracket)
      (found : stop = index)

section Steps

variable {stream : TokenStream} {input : Input} {fuel count index origin start stop : Nat}
  {opened closed : List Pending} {opening close : Nat}

theorem scanForward_step
    (scanned : scanForward stream (fuel + 1) opened index = .ok (.ok close)) :
    ForwardStep stream fuel opened index close := by
  unfold scanForward at scanned
  cases found : stream.get? index with
  | none =>
      simp only [found] at scanned
      cases scanned
  | some token =>
      have kindEq := TokenStream.kindAt_of_get? found
      simp only [found] at scanned
      cases role : bracketRole token.kind with
      | opens bracket =>
          simp only [role] at scanned
          exact .opens (kindEq ▸ role) scanned
      | closes bracket =>
          simp only [role] at scanned
          cases opened with
          | nil => cases scanned
          | cons innermost outer =>
              simp only at scanned
              split at scanned
              · cases scanned
              · rename_i same
                obtain rfl := Decidable.not_not.mp same
                split at scanned
                · rename_i last
                  cases scanned
                  exact .closesLast (kindEq ▸ role) (by rw [List.isEmpty_iff.mp last]) rfl
                · rename_i more
                  exact .closes (kindEq ▸ role) rfl (by simpa using more) scanned
      | stops =>
          simp only [role] at scanned
          cases opened <;> cases scanned
      | plain =>
          simp only [role] at scanned
          exact .plain (kindEq ▸ role) scanned

theorem scanBackward_step
    (scanned : scanBackward stream origin start closed (count + 1) = .ok (.ok opening)) :
    BackwardStep stream origin start closed count opening := by
  unfold scanBackward at scanned
  cases found : stream.get? (start + count) with
  | none =>
      simp only [found] at scanned
      cases scanned
  | some token =>
      have kindEq := TokenStream.kindAt_of_get? found
      simp only [found] at scanned
      cases role : bracketRole token.kind with
      | closes bracket =>
          simp only [role] at scanned
          exact .closes (kindEq ▸ role) scanned
      | opens bracket =>
          simp only [role] at scanned
          cases closed with
          | nil => cases scanned
          | cons innermost outer =>
              simp only at scanned
              split at scanned
              · cases scanned
              · rename_i same
                obtain rfl := Decidable.not_not.mp same
                split at scanned
                · rename_i last
                  cases scanned
                  exact .opensLast (kindEq ▸ role) (by rw [List.isEmpty_iff.mp last]) rfl
                · rename_i more
                  exact .opens (kindEq ▸ role) rfl (by simpa using more) scanned
      | stops =>
          simp only [role] at scanned
          exact .passes (.inl (kindEq ▸ role)) scanned
      | plain =>
          simp only [role] at scanned
          exact .passes (.inr (kindEq ▸ role)) scanned

theorem findEndFrom_step (ended : findEndFrom input (fuel + 1) index = .ok (.ok stop)) :
    EndStep input fuel index stop := by
  unfold findEndFrom at ended
  cases found : input.stream.get? index with
  | none =>
      simp only [found] at ended
      cases ended
  | some token =>
      have kindEq : input.kindAt index = token.kind := TokenStream.kindAt_of_get? found
      simp only [found] at ended
      split at ended
      · rename_i isName
        exact .name (kindEq.trans isName) ended
      · rename_i notName
        split at ended
        · rename_i bracket role
          split at ended
          · rename_i close matched
            exact .group (kindEq ▸ role) matched ended
          · rename_i other notMatched
            exact absurd ended (notMatched stop)
        · rename_i notOpening
          cases ended
          exact .ended (kindEq ▸ notName) (fun bracket => kindEq ▸ notOpening bracket) rfl

end Steps

end MiniC.Parser
