import MiniC.Files.Host

/-!
# A store of files in memory

Files and directories, each at the list of names that leads to it from the
directory of the store.  Of what lies outside that directory a store knows only
that one can step back into it.
-/

namespace MiniC.Files

/-- What is kept under a list of names. -/
inductive Entry where
  | file (bytes : ByteArray)
  | directory

/-- Files and directories under the names that lead to them. -/
structure Store where
  entries : List (List String × Entry) := []

namespace Store

/-- The entry under a list of names.  The store itself, and whatever leads on to
an entry, is a directory. -/
def get? (store : Store) (place : List String) : Option Entry :=
  match store.entries.find? fun entry => entry.1 = place with
  | some entry => some entry.2
  | none =>
      if place = [] || store.entries.any (fun entry => place.isPrefixOf entry.1) then
        some .directory
      else
        none

/-- Put an entry under a list of names, in place of the one that was there. -/
def put (store : Store) (place : List String) (entry : Entry) : Store :=
  if store.entries.any fun old => old.1 = place then
    { entries := store.entries.map fun old => if old.1 = place then (place, entry) else old }
  else
    { entries := store.entries ++ [(place, entry)] }

/-- A place that a path leads to. -/
inductive Place where
  | inside (names : List String)
  | outside
  deriving DecidableEq, Repr

/-- The directory that holds a place. -/
def Place.parent : Place → Place
  | .inside [] => .outside
  | .inside names => .inside names.dropLast
  | .outside => .outside

/-- Take one step from a place, which has to be a directory. -/
def step (store : Store) (place : Place) (name : String) : Except Obstacle Place :=
  match place with
  | .outside =>
      if isIdle name || name = ".." then .ok .outside
      else if isOverlongName name then .error .nameTooLong
      else .error .missing
  | .inside names =>
      match store.get? names with
      | none => .error .missing
      | some (.file _) => .error .notDirectory
      | some .directory =>
          if isIdle name then .ok place
          else if name = ".." then .ok place.parent
          else if isOverlongName name then .error .nameTooLong
          else .ok (.inside (names ++ [name]))

/-- Follow names from a place. -/
def follow (store : Store) (place : Place) (names : List String) : Except Obstacle Place :=
  names.foldlM store.step place

/-- The place where a path with this root starts. -/
def start (root : String) : Place :=
  if root.isEmpty then .inside [] else .outside

/-- The place of a path. -/
def locate (store : Store) (path : Path) : Except Obstacle Place :=
  if isOverlongPath path.text then .error .nameTooLong
  else store.follow (start path.root) path.names

/-- What a written path leads to.  The empty path and a path that is too long lead
nowhere, and a path that ends in a slash only to a directory. -/
def look (store : Store) (written : String) : Presence :=
  if written.isEmpty || isOverlongPath written then .absent
  else
    match store.follow (start (Path.rootOf written.toList)) (segmentStrings written) with
    | .error _ => .absent
    | .ok .outside => .directory
    | .ok (.inside names) =>
        match store.get? names with
        | none => .absent
        | some (.file _) => .file
        | some .directory => .directory

/-- The bytes of a file. -/
def read (store : Store) (path : Path) : Except Obstacle ByteArray := do
  match ← store.locate path with
  | .outside => throw .isDirectory
  | .inside names =>
      match store.get? names with
      | none => throw .missing
      | some .directory => throw .isDirectory
      | some (.file bytes) => return bytes

/-- The store after a file was given a new text. -/
def write (store : Store) (path : Path) (text : String) : Except Obstacle Store := do
  match ← store.locate path with
  | .outside => throw .isDirectory
  | .inside names =>
      match store.get? names with
      | some .directory => throw .isDirectory
      | _ => return store.put names (.file text.toUTF8)

end Store

instance : Host (StateM Store) where
  look written := return (← get).look written
  read path := return (← get).read path
  write path text := do
    match (← get).write path text with
    | .error obstacle => return .error obstacle
    | .ok store =>
        set store
        return .ok ()

end MiniC.Files
