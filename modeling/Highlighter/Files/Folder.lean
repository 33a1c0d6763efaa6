import Highlighter.Files.Basic

/-!
# Folders in memory

A folder is a tree of files and directories that is kept as a list of what is found where. Paths
are looked up from its root, step by step, as an operating system does it.
-/

namespace Highlighter

/-- Files and directories by the names that lead to them. A directory has no bytes. -/
structure Folder where
  entries : List (List String × Option ByteArray)

namespace Folder

/-- A folder without files. -/
def empty : Folder := ⟨[]⟩

/-- A place that a path leads to: inside of the folder, or in a directory around it, about which
nothing is known. -/
inductive Place where
  | inside (names : List String)
  | outside
  deriving DecidableEq

namespace Place

/-- The directory above a place. -/
def parent : Place → Place
  | inside [] => outside
  | inside names => inside names.dropLast
  | outside => outside

end Place

/-- Whether there is a directory at a place. -/
def isDirectory (f : Folder) : Place → Bool
  | .inside names => names.isEmpty || (f.entries.lookup names).any Option.isNone
  | .outside => true

/-- How many bytes a name may have. -/
def maxNameSize : Nat := 255

/-- How many bytes a path may have. -/
def maxPathSize : Nat := 4095

/-- The place below a directory with a name. -/
def child (f : Folder) (name : String) : Place → Except FileError Place
  | .inside names =>
    if maxNameSize < name.utf8ByteSize then .error .nameTooLong
    else if (f.entries.lookup (names ++ [name])).isSome then .ok (.inside (names ++ [name]))
    else .error .notFound
  | .outside => .error (if maxNameSize < name.utf8ByteSize then .nameTooLong else .notFound)

/-- The place that the parts of a path lead to from a place. -/
def walk (f : Folder) (place : Place) : List String → Except FileError Place
  | [] => .ok place
  | part :: parts =>
    if !f.isDirectory place then .error .notADirectory
    else if part = "" ∨ part = "." then f.walk place parts
    else if part = ".." then f.walk place.parent parts
    else do f.walk (← f.child part place) parts

/-- The names in a directory. -/
def names (f : Folder) (place : List String) : List String :=
  (f.entries.filterMap fun (p, _) =>
    match p.getLast? with
    | some name => if p = place ++ [name] then some name else none
    | none => none).eraseDups

/-- The place where a path starts. -/
def origin (path : String) : Place := if path.startsWith "/" then .outside else .inside []

/-- What is found at a path. -/
def lookup (f : Folder) (path : String) : Except FileError Entry :=
  if path.isEmpty then .error .notFound
  else if maxPathSize < path.utf8ByteSize then .error .nameTooLong
  else do
    match ← f.walk (origin path) (Path.parts path) with
    | .outside => return .directory []
    | .inside names =>
      match f.entries.lookup names with
      | some (some bytes) => return .file bytes
      | _ => return .directory (f.names names)

/-- Adds an entry, unless there is one. -/
def ensure (f : Folder) (place : List String) : Folder :=
  if (f.entries.lookup place).isSome then f else ⟨(place, none) :: f.entries⟩

/-- Adds what the parts of a path lead to from a place, and each directory on the way. -/
def writeFrom (f : Folder) (bytes : Option ByteArray) : List String → List String → Folder
  | place, [] => if place.isEmpty then f else ⟨(place, bytes) :: f.entries⟩
  | place, part :: parts =>
    let f := if place.isEmpty then f else f.ensure place
    if part = "" ∨ part = "." then f.writeFrom bytes place parts
    else if part = ".." then f.writeFrom bytes place.dropLast parts
    else f.writeFrom bytes (place ++ [part]) parts

/-- Adds a file, or a directory if there are no bytes, and the directories above it. -/
def write (f : Folder) (path : String) (bytes : Option ByteArray) : Folder :=
  f.writeFrom bytes [] (Path.parts path)

/-- Removes what is found at a path, and all that is below. -/
def remove (f : Folder) (path : String) : Folder :=
  match f.walk (origin path) (Path.parts path) with
  | .ok (.inside names) => ⟨f.entries.filter fun (p, _) => !names.isPrefixOf p⟩
  | _ => f

end Folder

end Highlighter
