import Highlighter.Event
import Highlighter.Files.Basic
import Highlighter.Grammar.Definition.Reader
import Highlighter.Language.Builtin

/-!
# The registry of languages

A registry turns the name of a language into a grammar. Grammars that were registered come first,
then files on the search paths, then the built-in ones. A grammar that came from a file or is
built in is compiled once and kept, until the search paths change.

Tables are shared: each one made gets a number, and two answers are the same table if they have
the same number.
-/

namespace Highlighter

/-- Why a language could not be loaded. -/
inductive LoadError where
  | unknownLanguage (name : String)
  | unreadable (path : String) (cause : FileError)
  | invalid (name : String) (cause : GrammarError)
  deriving DecidableEq, Repr

/-- The wording of an error. -/
def LoadError.message : LoadError → String
  | unknownLanguage name => s!"unknown language '{name}'"
  | unreadable path cause => s!"failed to read grammar file {path}: {cause.message}"
  | invalid name cause => s!"invalid grammar '{name}': {cause.message}"

/-- A table with the number of its making. -/
structure SharedTable where
  number : Nat
  table : Table

/-- A registry of languages. -/
structure Registry where
  /-- The registered grammars, last first. -/
  registered : List (String × SharedTable)
  /-- The directories that are searched for files, in their order. -/
  searchPaths : List String
  /-- The grammars compiled since the search paths changed. -/
  compiled : List (String × SharedTable)
  /-- How many tables were made. -/
  made : Nat

/-- What came of loading a language. -/
structure Loaded where
  result : Except LoadError SharedTable
  registry : Registry
  events : List Event

/-- Whether a name can be the name of a language: it is not empty and leads nowhere else when it is
taken for the name of a file. -/
def isLanguageName (name : String) : Bool :=
  let cs := name.toList
  !cs.isEmpty && !cs.contains '/' && !cs.contains '\\' && !hasDoubleDot cs
where
  /-- Whether two dots stand side by side. -/
  hasDoubleDot : List Char → Bool
    | '.' :: '.' :: _ => true
    | _ :: rest => hasDoubleDot rest
    | [] => false

/-- The extensions of grammar files, in the order in which they are tried. -/
def grammarExtensions : List String := ["yaml", "yml", "json"]

/-- Adds a name to a sorted list of names, unless it is there. -/
def insertName (name : String) : List String → List String
  | [] => [name]
  | n :: ns =>
    if name < n then name :: n :: ns
    else if name = n then n :: ns
    else n :: insertName name ns

/-- The name of the language that a file in a search path defines. -/
def languageOfFile? (file : String) : Option String := do
  let (stem, extension) := Path.splitName file
  guard (grammarExtensions.contains (← extension) && isLanguageName stem)
  return stem

/-- Reads a grammar from the text of a file: from JSON if its extension says so, else from YAML. -/
def Table.readFile (path : String) (t : Text) : Except GrammarError Table :=
  if Path.extension? path = some "json" then Table.readJson t else Table.readYaml t

namespace Registry

/-- A registry that knows the built-in grammars only. -/
def empty : Registry := ⟨[], [], [], 0⟩

/-- Registers a grammar for a language. -/
def register (r : Registry) (name : String) (table : Table) : Registry :=
  { r with registered := (name, ⟨r.made, table⟩) :: r.registered, made := r.made + 1 }

/-- Adds a directory to search. Languages may mean something else from now on. -/
def addSearchPath (r : Registry) (path : String) : Registry :=
  { r with searchPaths := r.searchPaths ++ [path], compiled := [] }

/-- The paths where the grammar file of a language may be, in the order in which they are tried. -/
def candidates (r : Registry) (name : String) : List String :=
  r.searchPaths.flatMap fun directory =>
    grammarExtensions.map fun extension => Path.join directory (name ++ "." ++ extension)

/-- The grammar file of a language. -/
def file? (r : Registry) (files : FileSystem) (name : String) : Option String :=
  (r.candidates name).find? files.isFile

/-- A table with a name, which is the language's if it has none. -/
def named (name : String) (t : Table) : Table := { t with name := some (t.name.getD name) }

/-- Compiles the grammar of a language from its file, or the built-in one. -/
def compile (r : Registry) (files : FileSystem) (name : String) :
    Except LoadError Table × List Event :=
  match r.file? files name with
  | some path =>
    let table := match files.readText path with
      | .ok t => (Table.readFile path t).mapError (.invalid name)
      | .error cause => .error (.unreadable path cause)
    (named name <$> table, [.file name path])
  | none =>
    match Builtin.all.lookup name with
    | some d => (named name <$> d.compile.mapError (.invalid name), [.builtIn name])
    | none => (.error (.unknownLanguage name), [])

/-- The grammar of a language. -/
def load (r : Registry) (files : FileSystem) (name : String) : Loaded :=
  if !isLanguageName name then ⟨.error (.unknownLanguage name), r, []⟩
  else
    match r.registered.lookup name with
    | some t => ⟨.ok t, r, []⟩
    | none =>
      match r.compiled.lookup name with
      | some t => ⟨.ok t, r, []⟩
      | none =>
        match r.compile files name with
        | (.ok table, events) =>
          let t : SharedTable := ⟨r.made, table⟩
          ⟨.ok t, { r with compiled := (name, t) :: r.compiled, made := r.made + 1 }, events⟩
        | (.error e, events) => ⟨.error e, r, events⟩

/-- The languages that a search path defines, added to a list of names. A directory that cannot be
listed is reported. -/
def addDirectory (files : FileSystem) (names : List String) (directory : String) :
    List String × List Event :=
  match files.list? directory with
  | some entries =>
    ((entries.filterMap languageOfFile?).foldl (fun ns n => insertName n ns) names, [])
  | none => (names, [.unreadable directory])

/-- The languages that search paths define, added to a list of names. -/
def addDirectories (files : FileSystem) (names : List String) :
    List String → List String × List Event
  | [] => (names, [])
  | directory :: more =>
    let (names, events) := addDirectory files names directory
    let (names, rest) := addDirectories files names more
    (names, events ++ rest)

/-- The names of all languages, sorted. -/
def languages (r : Registry) (files : FileSystem) : List String × List Event :=
  let known := Builtin.all.map Prod.fst ++ r.registered.map Prod.fst
  addDirectories files (known.foldl (fun ns n => insertName n ns) []) r.searchPaths

end Registry

end Highlighter
