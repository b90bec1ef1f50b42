/-!
# Parser options

The settings of a parse.  Both limits are at least one.
-/

namespace MiniC

/-- The settings of a parse. -/
structure ParserOptions where
  /-- The name that diagnostics give to the source. -/
  filename : String := "<input>"
  /-- The number of errors at which to give up. -/
  maxErrors : Nat := 100
  /-- The deepest nesting of constructs that is accepted. -/
  maxNesting : Nat := 64
  /-- The lines of the source, if they are known. -/
  sourceLines : Option (List String) := none
  maxErrors_pos : 0 < maxErrors := by decide
  maxNesting_pos : 0 < maxNesting := by decide

namespace ParserOptions

/-- The name of a source that has no name of its own. -/
def anonymous : String := "<input>"

/-- The error limit when none is given. -/
def defaultMaxErrors : Int := 100

/-- The nesting limit when none is given. -/
def defaultMaxNesting : Int := 64

/-- A limit that is below one. -/
inductive Refusal where
  | maxErrors (value : Int)
  | maxNesting (value : Int)
  deriving DecidableEq, Repr

/-- The wording of a refused limit. -/
def Refusal.message : Refusal → String
  | .maxErrors value => s!"max_errors must be at least 1, got {value}"
  | .maxNesting value => s!"max_nesting must be at least 1, got {value}"

/-- The options with given limits; the error limit is checked first. -/
def make (filename : String) (maxErrors maxNesting : Int)
    (sourceLines : Option (List String)) : Except Refusal ParserOptions :=
  if errors : 0 < maxErrors then
    if nesting : 0 < maxNesting then
      .ok
        { filename
          maxErrors := maxErrors.toNat
          maxNesting := maxNesting.toNat
          sourceLines
          maxErrors_pos := by omega
          maxNesting_pos := by omega }
    else
      .error (.maxNesting maxNesting)
  else
    .error (.maxErrors maxErrors)

end ParserOptions

end MiniC
