/-!
# Files in the working directory

What a path leads to. A path is a row of names with slashes between them. An empty name and a
single dot stay in a directory, two dots lead out of it. Every name but the last one has to be that
of a directory, so a slash at the end asks for a directory.

Only what lies in the working directory is known. It has the directories that its files lie in.
-/

namespace ScriptScheduler

/-- Files, by their paths, and their texts. -/
abbrev Files := List (String × String)

/-- What a path leads to. -/
inductive Place where
  | file (content : String)
  | directory
  | nothing

namespace Files

/-- The names in a path. -/
def namesOf (path : String) : List String := path.splitOn "/"

/-- Whether a name stays in the directory. -/
def staysInPlace (name : String) : Bool := name = "" || name = "."

/-- The names that lead to a file. -/
def locationOf (path : String) : List String := (namesOf path).filter fun name => !staysInPlace name

/-- Whether the names lead to a directory. -/
def isDirectory (files : Files) (location : List String) : Bool :=
  location.isEmpty || files.any fun (path, _) =>
    location.length < (locationOf path).length && location.isPrefixOf (locationOf path)

/-- The text of the file that the names lead to. -/
def contentAt? (files : Files) (location : List String) : Option String :=
  (files.find? fun (path, _) => locationOf path = location).map Prod.snd

/-- Follows names from a location, which is missing outside of the working directory. -/
def follow (files : Files) : Option (List String) → List String → Place
  | none, names =>
    if names.all fun name => staysInPlace name || name = ".." then .directory else .nothing
  | some location, [] =>
    match files.contentAt? location with
    | some content => .file content
    | none => if files.isDirectory location then .directory else .nothing
  | some location, name :: rest =>
    if !files.isDirectory location then .nothing
    else if staysInPlace name then follow files (some location) rest
    else if name = ".." then
      follow files (if location.isEmpty then none else some location.dropLast) rest
    else follow files (some (location ++ [name])) rest

/-- What a path leads to. A path with a slash in front starts outside of the working directory. -/
def place (files : Files) (path : String) : Place :=
  if path.isEmpty then .nothing
  else follow files (if path.startsWith "/" then none else some []) (namesOf path)

/-- The text of the file that a path leads to. -/
def read? (files : Files) (path : String) : Option String :=
  match files.place path with
  | .file content => some content
  | _ => none

/-- A path with an ending behind its last name, if it has one that leads on. -/
def withEnding? (ending path : String) : Option String :=
  let names := ((namesOf path).reverse.dropWhile staysInPlace).reverse
  match names.getLast? with
  | none => none
  | some last => if last = ".." then none else some ("/".intercalate names ++ ending)

end Files

end ScriptScheduler
