/-!
# Arguments of the command line

An option is written with two dashes and its name, or with one dash and its letter. Its value may
follow in the next argument, behind an equals sign, or right behind the letter. Two dashes alone
end the options.
-/

namespace Highlighter

/-- What the command line asks for. -/
structure Arguments where
  /-- The name of a language. -/
  language : Option String := none
  /-- A grammar file, in place of a language. -/
  grammar : Option String := none
  /-- Put in front of every class name. -/
  classPrefix : Option String := none
  /-- Directories with grammar files. -/
  grammarDirectories : List String := []
  /-- A file with options. -/
  config : Option String := none
  /-- Whether to list the languages, and do nothing else. -/
  list : Bool := false
  /-- The file to highlight; standard input if there is none. -/
  input : Option String := none
  deriving DecidableEq, Repr

/-- An option that takes a value. -/
inductive ValueOption where
  | language
  | grammar
  | classPrefix
  | grammarDirectory
  | config
  deriving DecidableEq, Repr

namespace ValueOption

/-- All options that take a value. -/
def all : List ValueOption := [language, grammar, classPrefix, grammarDirectory, config]

/-- The name of an option. -/
def name : ValueOption → String
  | language => "language"
  | grammar => "grammar"
  | classPrefix => "prefix"
  | grammarDirectory => "grammar-dir"
  | config => "config"

/-- The letter of an option, if it has one. -/
def letter? : ValueOption → Option Char
  | language => some 'l'
  | grammar => some 'g'
  | classPrefix => some 'p'
  | grammarDirectory => none
  | config => none

/-- Whether the value of an option is a path, which is never empty. -/
def isPath : ValueOption → Bool
  | language => false
  | grammar => true
  | classPrefix => false
  | grammarDirectory => true
  | config => true

end ValueOption

/-- Why arguments make no sense. -/
inductive UsageError where
  | unexpected (argument : String)
  | missingValue (option : String)
  | emptyValue (option : String)
  | unexpectedValue (option : String)
  | repeated (option : String)
  | conflict (option other : String)
  deriving DecidableEq, Repr

/-- The wording of an error. -/
def UsageError.message : UsageError → String
  | unexpected argument => s!"unexpected argument '{argument}' found"
  | missingValue option => s!"a value is required for '{option}' but none was supplied"
  | emptyValue option => s!"a value is required for '{option}' but none was supplied"
  | unexpectedValue option => s!"unexpected value for '{option}' found; no more were expected"
  | repeated option => s!"the argument '{option}' cannot be used multiple times"
  | conflict option other => s!"the argument '{option}' cannot be used with '{other}'"

/-- What a command line asks for. -/
inductive Request where
  | run (a : Arguments)
  | version
  | help

namespace Arguments

/-- Fills in a value that may be given once. -/
def once (option : String) (old : Option String) (new : String) :
    Except UsageError (Option String) :=
  if old.isSome then .error (.repeated option) else .ok (some new)

/-- Gives an option its value. -/
def set (a : Arguments) (o : ValueOption) (value : String) : Except UsageError Arguments := do
  if o.isPath && value.isEmpty then throw (.emptyValue o.name)
  match o with
  | .language => return { a with language := ← once o.name a.language value }
  | .grammar => return { a with grammar := ← once o.name a.grammar value }
  | .classPrefix => return { a with classPrefix := ← once o.name a.classPrefix value }
  | .grammarDirectory =>
    return { a with grammarDirectories := a.grammarDirectories ++ [value] }
  | .config => return { a with config := ← once o.name a.config value }

/-- Takes an argument that is no option. -/
def setInput (a : Arguments) (value : String) : Except UsageError Arguments := do
  if value.isEmpty then throw (.emptyValue "INPUT")
  if a.input.isSome then throw (.unexpected value)
  return { a with input := some value }

/-- Checks what can only be checked at the end. -/
def finish (a : Arguments) : Except UsageError Request :=
  if a.language.isSome && a.grammar.isSome then .error (.conflict "language" "grammar")
  else .ok (.run a)

/-- An argument that looks like an option. -/
def isOption (argument : String) : Bool :=
  match argument.toList with
  | '-' :: _ :: _ => true
  | _ => false

/-- What an argument with one or two dashes is. -/
inductive Switch where
  /-- An option with its value. -/
  | value (o : ValueOption) (v : String)
  /-- An option whose value comes next. -/
  | pending (o : ValueOption)
  | list
  | version
  | help

/-- Splits a text at its first equals sign. -/
def splitEquals (t : List Char) : String × Option String :=
  match t.dropWhile (· ≠ '=') with
  | [] => (String.ofList t, none)
  | _ :: v => (String.ofList (t.takeWhile (· ≠ '=')), some (String.ofList v))

/-- A flag, which takes no value. -/
def flag (name : String) (value : Option String) (o : Switch) : Except UsageError Switch :=
  if value.isSome then .error (.unexpectedValue name) else .ok o

/-- Reads an argument behind its two dashes. -/
def long (t : List Char) : Except UsageError Switch :=
  let (name, value) := splitEquals t
  match ValueOption.all.find? (·.name == name) with
  | some o =>
    match value with
    | some v => .ok (.value o v)
    | none => .ok (.pending o)
  | none =>
    if name = "list" then flag name value .list
    else if name = "version" then flag name value .version
    else if name = "help" then flag name value .help
    else .error (.unexpected ("--" ++ name))

/-- Reads an argument behind its single dash. -/
def short (c : Char) (rest : List Char) : Except UsageError Switch :=
  match ValueOption.all.find? (·.letter? == some c) with
  | some o =>
    match rest with
    | [] => .ok (.pending o)
    | '=' :: v => .ok (.value o (String.ofList v))
    | v => .ok (.value o (String.ofList v))
  | none =>
    if c = 'V' then .ok .version
    else if c = 'h' then .ok .help
    else .error (.unexpected (String.ofList ['-', c]))

/-- Reads arguments, `a` being read already. An option may be waiting for its value. -/
def parseFrom (a : Arguments) : Option ValueOption → List String → Except UsageError Request
  | none, [] => a.finish
  | some o, [] => .error (.missingValue o.name)
  | some o, arg :: args =>
    if isOption arg then .error (.missingValue o.name)
    else do parseFrom (← a.set o arg) none args
  | none, arg :: args =>
    if arg = "--" then do (← args.foldlM setInput a).finish
    else do
      let option ← match arg.toList with
        | '-' :: '-' :: t => some <$> long t
        | '-' :: c :: t => some <$> short c t
        | _ => pure none
      match option with
      | none => parseFrom (← a.setInput arg) none args
      | some (.value o v) => parseFrom (← a.set o v) none args
      | some (.pending o) => parseFrom a (some o) args
      | some .list =>
        if a.list then throw (.repeated "list")
        parseFrom { a with list := true } none args
      | some .version => return .version
      | some .help => return .help

/-- Reads the arguments of a command line. -/
def parse (args : List String) : Except UsageError Request := parseFrom {} none args

end Arguments

end Highlighter
