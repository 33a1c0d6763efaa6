/-!
# Paths

A path is a text whose parts are separated by slashes.
-/

namespace Highlighter.Path

/-- The parts of a path between its slashes. Some may be empty. -/
def parts (path : String) : List String := splitSlashes [] path.toList
where
  /-- Splits at slashes; `part` (last first) is read already. -/
  splitSlashes (part : List Char) : List Char → List String
    | [] => [String.ofList part.reverse]
    | c :: rest =>
      if c = '/' then String.ofList part.reverse :: splitSlashes [] rest
      else splitSlashes (c :: part) rest

/-- The path of a file in a directory. -/
def join (directory name : String) : String :=
  if directory.isEmpty || directory.endsWith "/" then directory ++ name
  else directory ++ "/" ++ name

/-- The name of the file that a path leads to. -/
def fileName? (path : String) : Option String :=
  match ((parts path).filter fun p => p ≠ "" ∧ p ≠ ".").getLast? with
  | some ".." => none
  | name => name

/-- Splits a name at its last dot. A dot in front starts no extension. -/
def splitName (name : String) : String × Option String :=
  let reversed := name.toList.reverse
  match reversed.dropWhile (· ≠ '.') with
  | _ :: c :: stem =>
    (String.ofList (c :: stem).reverse, some (String.ofList (reversed.takeWhile (· ≠ '.')).reverse))
  | _ => (name, none)

/-- The extension of the file that a path leads to. -/
def extension? (path : String) : Option String := do (splitName (← fileName? path)).2

end Highlighter.Path
