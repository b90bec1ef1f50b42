import MiniC.Diagnostic.Listing

/-!
# Findings about a source

Errors and warnings are kept in the order in which they are found.  Warnings are
texts already; an error is shown against a listing of its source, so findings
without errors can be reported without one.
-/

namespace MiniC

/-- The errors and warnings about a source. -/
structure Findings where
  /-- The number of errors at which to give up. -/
  maxErrors : Int := 100
  errors : List Diagnostic := []
  warnings : List String := []

namespace Findings

/-- Record an error. -/
def add (findings : Findings) (diagnostic : Diagnostic) : Findings :=
  { findings with errors := findings.errors ++ [diagnostic] }

/-- Record a warning. -/
def addWarning (findings : Findings) (message : String)
    (location : Option Source.Location) : Findings :=
  let text :=
    match location with
    | some location => s!"{location.text}: warning: {message}"
    | none => s!"warning: {message}"
  { findings with warnings := findings.warnings ++ [text] }

/-- Forget all errors and warnings. -/
def clear (findings : Findings) : Findings :=
  { findings with errors := [], warnings := [] }

/-- Whether any error was recorded. -/
def hasErrors (findings : Findings) : Bool :=
  !findings.errors.isEmpty

/-- Whether the error limit is reached, errors still to be recorded included. -/
def shouldStop (findings : Findings) (pending : Int) : Bool :=
  findings.maxErrors ≤ findings.errors.length + pending

/-- A number of things. -/
def counted (count : Nat) (noun : String) : String :=
  if count = 1 then s!"{count} {noun}" else s!"{count} {noun}s"

/-- The text of all errors and warnings, for a way to show an error. -/
def reportWith (findings : Findings) (format : Diagnostic → String) : String :=
  let errors := findings.errors.flatMap fun diagnostic => [format diagnostic, ""]
  let summary :=
    "\n" ++ counted findings.errors.length "error" ++ ", " ++
      counted findings.warnings.length "warning"
  "\n".intercalate (errors ++ findings.warnings ++ [summary])

/-- The text of all errors and warnings about a listing. -/
def report (findings : Findings) (listing : Listing) : String :=
  findings.reportWith listing.format

/-- The text of all errors and warnings about a source that may have no tokens.
Without a token no error can be shown. -/
def report? (findings : Findings) : Option Listing → Option String
  | some listing => some (findings.report listing)
  | none => if findings.hasErrors then none else some (findings.reportWith fun _ => "")

end Findings

end MiniC
