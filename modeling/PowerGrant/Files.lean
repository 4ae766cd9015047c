import PowerGrant.Text.Cut

/-!
# Files

A tree of files in memory, and what the paths into it lead to. A path is followed step by step: a name
leads into a directory, but nothing leads on from a file.
-/

namespace PowerGrant

/-- What a path leads to. -/
inductive Place where
  | directory
  | file (text : String)
  /-- The path goes on behind a file. -/
  | blocked
  | missing
  deriving DecidableEq, Repr, Inhabited

/-- Files by their paths from the root; the directories are those in which they lie. -/
structure Files where
  texts : List (List String × String)
  /-- The directories in which nothing can be made. -/
  closed : List (List String) := []
  deriving Inhabited

namespace Files

/-- What lies at a path whose names all lead somewhere. -/
def lookUp (f : Files) (path : List String) : Place :=
  match f.texts.lookup path with
  | some text => .file text
  | none => if f.texts.any fun e => path.isPrefixOf e.1 then .directory else .missing

/-- Follows names from a place on: what they lead to, and its path. From what is missing they lead
nowhere, though its path goes on. -/
def follow (f : Files) (here : List String) (lost : Bool) : List String → Place × List String
  | [] => (if lost then .missing else f.lookUp here, here)
  | name :: names =>
    match f.lookUp here with
    | .file _ => (if lost then .missing else .blocked, here)
    | place =>
      let lost := lost || place = .missing
      if name = "" || name = "." then follow f here lost names
      else if name = ".." then follow f here.dropLast lost names
      else follow f (here ++ [name]) lost names

/-- What a path leads to, and the path without detours; paths that do not start at the root lead
nowhere. -/
def locate (f : Files) (path : String) : Place × List String :=
  match path.toList with
  | '/' :: rest => f.follow [] false ((Text.pieces '/' rest).map String.ofList)
  | _ => (.missing, [])

/-- The text of the file to which a path leads. -/
def read (f : Files) (path : String) : Option String :=
  match (f.locate path).1 with
  | .file text => some text
  | _ => none

/-- Whether a path leads to a directory, or one can be made there, in which files can be made. -/
def takesFiles (f : Files) (path : String) : Bool :=
  match f.locate path with
  | (.directory, path) | (.missing, path) => !f.closed.any (·.isPrefixOf path)
  | (.file _, _) | (.blocked, _) => false

end Files

end PowerGrant
