/-!
# Places in a source

A place is a line of a named source.  Tokens know only their line, so the
column is often unknown, which is written as zero.
-/

namespace MiniC.Source

/-- A place in a named source; lines and columns count from one, and a column
that is not positive is unknown. -/
structure Location where
  filename : String
  line : Int
  column : Int := 0
  deriving DecidableEq, Repr

/-- A place as messages name it, without an unknown column. -/
def Location.text (location : Location) : String :=
  if 0 < location.column then s!"{location.filename}:{location.line}:{location.column}"
  else s!"{location.filename}:{location.line}"

end MiniC.Source
