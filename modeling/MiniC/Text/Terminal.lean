/-!
# Control sequences of a terminal

A control sequence is an escape character, an opening bracket, parameters and a
letter that ends it.  What a program prints is meant for files as well as for
terminals, so it is printed without such sequences; one that no letter ends
stays.
-/

namespace MiniC.Text

/-- Whether a character may stand among the parameters of a control sequence. -/
def isControlParameter (c : Char) : Bool :=
  c.isDigit || c = ';' || c = '?'

/-- What follows the control sequence at the front of a text. -/
def afterControl? : List Char → Option (List Char)
  | '\x1b' :: '[' :: rest =>
      match rest.dropWhile isControlParameter with
      | final :: after => if final.isAlpha then some after else none
      | [] => none
  | _ => none

/-- A control sequence is never empty. -/
theorem afterControl?_length {text after : List Char}
    (found : afterControl? text = some after) : after.length < text.length := by
  unfold afterControl? at found
  split at found
  · rename_i rest
    split at found
    · rename_i final beyond dropped
      have bound := (List.dropWhile_suffix isControlParameter (l := rest)).length_le
      split at found
      · simp only [Option.some.injEq] at found
        subst found
        simp only [dropped, List.length_cons] at bound ⊢
        omega
      · simp at found
    · simp at found
  · simp at found

/-- A text without its control sequences. -/
def withoutControls : List Char → List Char
  | [] => []
  | c :: rest =>
      match _found : afterControl? (c :: rest) with
      | some after => withoutControls after
      | none => c :: withoutControls rest
termination_by text => text.length
decreasing_by
  · exact afterControl?_length _found
  · simp

/-- A string without its control sequences. -/
def plain (text : String) : String :=
  String.ofList (withoutControls text.toList)

end MiniC.Text
