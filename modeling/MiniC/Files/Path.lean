/-!
# Paths

A path is a root and the names below it.  Empty names and names that stand for
the directory itself are dropped when a path is read, so a path has one text,
and the path without any name is the current directory.
-/

namespace MiniC.Files

/-- A root, which is empty for a path below the current directory, and the names
below it. -/
structure Path where
  root : String
  names : List String
  deriving DecidableEq, Repr

/-- The parts of a text between slashes. -/
def segments : List Char → List (List Char)
  | [] => [[]]
  | c :: rest =>
      if c = '/' then
        [] :: segments rest
      else
        match segments rest with
        | [] => [[c]]
        | first :: others => (c :: first) :: others

/-- The names of a text, those that lead nowhere included. -/
def segmentStrings (text : String) : List String :=
  (segments text.toList).map String.ofList

/-- Whether a name stands for the directory it is found in. -/
def isIdle (name : String) : Bool :=
  name = "" || name = "."

/-- Whether a written path holds a null character, which no name can hold. -/
def isUnnamable (written : String) : Bool :=
  written.toList.contains '\x00'

/-- Whether a name has more bytes than a name may have. -/
def isOverlongName (name : String) : Bool :=
  255 < name.utf8ByteSize

/-- Whether a written path has more bytes than a path may have. -/
def isOverlongPath (written : String) : Bool :=
  4095 < written.utf8ByteSize

namespace Path

/-- The root of a written path: exactly two slashes are a root of their own. -/
def rootOf : List Char → String
  | '/' :: '/' :: '/' :: _ => "/"
  | '/' :: '/' :: _ => "//"
  | '/' :: _ => "/"
  | _ => ""

/-- Read a path. -/
def ofString (text : String) : Path :=
  { root := rootOf text.toList
    names := (segmentStrings text).filter fun name => !isIdle name }

/-- The text of a path. -/
def text (path : Path) : String :=
  let written := path.root ++ "/".intercalate path.names
  if written.isEmpty then "." else written

/-- The last name of a path, empty when there is none. -/
def name (path : Path) : String :=
  path.names.getLast?.getD ""

/-- The path whose text goes on with `suffix`. -/
def extended (path : Path) (suffix : String) : Path :=
  ofString (path.text ++ suffix)

end Path

end MiniC.Files
