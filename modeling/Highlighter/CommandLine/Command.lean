import Highlighter.CommandLine.Arguments
import Highlighter.Source

/-!
# The command

What the program prints, and with which code it ends, for its arguments, the files and the text on
its standard input.
-/

namespace Highlighter

/-- Why the command failed. -/
inductive CommandError where
  | unreadable (path : String) (cause : FileError)
  | noLanguage
  | invalidOptions (cause : Yaml.YamlError)
  | invalidGrammar (path : String) (cause : GrammarError)
  | source (cause : SourceError)
  deriving DecidableEq, Repr

/-- The wording of an error. -/
def CommandError.message : CommandError → String
  | unreadable path cause => s!"cannot read {path}: {cause.message}"
  | noLanguage => "no language given; use --language or --grammar"
  | invalidOptions cause => "invalid options: " ++ cause.message
  | invalidGrammar path cause => s!"invalid grammar {path}: {cause.message}"
  | source cause => cause.message

/-- What a program prints, and the code with which it ends. -/
structure Output where
  code : Nat
  stdout : String
  stderr : String
  deriving DecidableEq, Repr

/-- The language that the extension of a path stands for. -/
def languageOfPath? (path : String) : Option String :=
  match Path.extension? path with
  | some "h" => some "c"
  | some "patch" => some "diff"
  | extension => extension

/-- Reads a file that the command needs. -/
def FileSystem.need (files : FileSystem) (path : String) : Except CommandError Text :=
  (files.readText path).mapError (.unreadable path)

namespace Arguments

/-- The registry with the directories that were asked for. -/
def registry (a : Arguments) : Registry :=
  a.grammarDirectories.foldl Registry.addSearchPath .empty

/-- The options from the file that was asked for, and the prefix. -/
def options (a : Arguments) (files : FileSystem) : Except CommandError Options := do
  let options ← match a.config with
    | some path => (Options.read (← files.need path)).mapError .invalidOptions
    | none => pure {}
  return { options with classPrefix := a.classPrefix.getD options.classPrefix }

/-- The name of the language that was asked for, or that the input suggests. -/
def languageName? (a : Arguments) : Option String := a.language.or (a.input.bind languageOfPath?)

/-- The grammar that was asked for. -/
def table (a : Arguments) (files : FileSystem) : Except CommandError Table :=
  match a.grammar with
  | some path => do (Table.readFile path (← files.need path)).mapError (.invalidGrammar path)
  | none =>
    match a.languageName? with
    | none => .error .noLanguage
    | some name =>
      match (a.registry.load files name).result with
      | .ok shared => .ok shared.table
      | .error cause => .error (.source (.load cause))

/-- The options and the grammar; the text is not needed to find them. -/
def job (a : Arguments) (files : FileSystem) : Except CommandError (Options × Table) := do
  let options ← a.options files
  return (options, ← a.table files)

/-- The text to highlight, `stdin` being all that is on the standard input. -/
def text (a : Arguments) (files : FileSystem) (stdin : ByteArray) : Except CommandError Text :=
  match a.input with
  | some path => files.need path
  | none => (decodeText stdin).mapError (.unreadable "<stdin>")

/-- Whether the command gets as far as to read its standard input. -/
def needsInput (a : Arguments) (files : FileSystem) : Bool :=
  !a.list && a.input.isNone && (a.job files).isOk

/-- What the command prints if all goes well. -/
def run (a : Arguments) (files : FileSystem) (stdin : ByteArray) : Except CommandError Text :=
  if a.list then
    .ok ("\n".intercalate (a.registry.languages files).1).toList
  else do
    let (options, table) ← a.job files
    let text ← a.text files stdin
    let e ← (highlightText text table options).mapError .source
    return Html.outer e

/-- All paths that the command may look at. -/
def paths (a : Arguments) : List String :=
  a.config.toList ++ a.grammar.toList ++ a.input.toList ++ a.grammarDirectories
    ++ a.languageName?.toList.flatMap a.registry.candidates

end Arguments

namespace Request

/-- The name and the version of the program. -/
def versionLine : String := "colorsource 0.3.0\n"

/-- How the program is used. -/
def usage : String := "Usage: colorsource [OPTIONS] [INPUT]\n"

/-- What the program is asked for when its use is not known. -/
def helpText : String :=
  "Highlight source code and print it as HTML\n\n" ++ usage ++
  "\nArguments:\n" ++
  "  [INPUT]  Input file; standard input when omitted\n" ++
  "\nOptions:\n" ++
  "  -l, --language <LANGUAGE>  Language name (built-in, or a grammar file on a --grammar-dir)\n" ++
  "  -g, --grammar <FILE>       Grammar definition file (.yaml, .yml or .json) to use instead " ++
  "of a language name\n" ++
  "  -p, --prefix <P>           Prefix prepended to every class name\n" ++
  "      --grammar-dir <DIR>    Directory searched for `<language>.yaml|.yml|.json` grammars " ++
  "(repeatable)\n" ++
  "      --config <FILE>        YAML file with highlighting options\n" ++
  "      --list                 List the available languages and exit\n" ++
  "  -h, --help                 Print help\n" ++
  "  -V, --version              Print version\n"

/-- Answers a request. -/
def answer (files : FileSystem) (stdin : ByteArray) : Request → Output
  | version => ⟨0, versionLine, ""⟩
  | help => ⟨0, helpText, ""⟩
  | run a =>
    match a.run files stdin with
    | .ok t => ⟨0, String.ofList (t ++ ['\n']), ""⟩
    | .error e => ⟨1, "", "colorsource: " ++ e.message ++ "\n"⟩

/-- Whether the answer depends on the standard input. -/
def needsInput (files : FileSystem) : Request → Bool
  | run a => a.needsInput files
  | _ => false

/-- All paths that the answer may depend on. -/
def paths : Request → List String
  | run a => a.paths
  | _ => []

end Request

/-- The answer to arguments that make no sense. -/
def UsageError.answer (e : UsageError) : Output :=
  ⟨2, "", "error: " ++ e.message ++ "\n\n" ++ Request.usage⟩

/-- The whole program: its output for its arguments, the files and its standard input. -/
def command (args : List String) (files : FileSystem) (stdin : ByteArray) : Output :=
  match Arguments.parse args with
  | .ok request => request.answer files stdin
  | .error e => e.answer

end Highlighter
