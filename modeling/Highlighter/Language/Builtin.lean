import Highlighter.Grammar.Definition

/-!
# Built-in grammars

The grammars that need no file: the language C, differences of files, property files, and plain
text with links.
-/

namespace Highlighter.Builtin

/-- A pattern for any of some words. -/
def anyWord (words : List String) : String := "\\b(?:" ++ "|".intercalate words ++ ")\\b"

/-- A rule that styles its match and does nothing else. -/
def leaf (pattern style : String) : RuleDefinition := .tuple pattern (.whole style) (-1) true

/-- A rule that opens a context in which text has the same style. -/
def enter (pattern style : String) (state : Nat) : RuleDefinition :=
  .tuple pattern (.whole style) state false

/-- A rule that closes the innermost context. -/
def leave (pattern style : String) : RuleDefinition := .tuple pattern (.whole style) (-2) false

/-- Links in comments. -/
def commentLinks : List RuleDefinition :=
  [ leaf "<?(?:https?|ftp)://[^\\s>]+>?" "sh_url",
    leaf "<?[\\w.+-]+@[\\w-]+(?:\\.[\\w-]+)+>?" "sh_url" ]

/-- The directives of the C preprocessor. -/
def cDirectives : List String :=
  ["include", "define", "undef", "ifdef", "ifndef", "if", "elif", "else", "endif", "error",
    "pragma", "line"]

/-- The keywords of C. -/
def cKeywords : List String :=
  ["auto", "break", "case", "const", "continue", "default", "do", "else", "enum", "extern", "for",
    "goto", "if", "inline", "register", "restrict", "return", "sizeof", "static", "struct",
    "switch", "typedef", "union", "volatile", "while"]

/-- The names of types in C. -/
def cTypes : List String :=
  ["char", "double", "float", "int", "long", "short", "signed", "unsigned", "void", "_Bool",
    "size_t", "ssize_t", "FILE"]

/-- Code outside of comments, strings and directives. -/
def cCode : List RuleDefinition :=
  [ .tuple ("^[ \\t]*#[ \\t]*(?:" ++ "|".intercalate cDirectives ++ ")\\b")
      (.whole "sh_preproc") 4 true,
    enter "//" "sh_comment" 1,
    enter "/\\*" "sh_comment" 2,
    enter "\"" "sh_string" 3,
    leaf "'(?:\\\\.|[^'\\\\])'" "sh_string",
    leaf (anyWord cKeywords) "sh_keyword",
    leaf (anyWord cTypes) "sh_type",
    leaf "\\b(?:0[xX][0-9a-fA-F]+|[0-9]+(?:\\.[0-9]*)?(?:[eE][+-]?[0-9]+)?)[uUlLfF]*\\b"
      "sh_number",
    leaf "\\b[A-Za-z_][A-Za-z0-9_]*(?=[ \\t]*\\()" "sh_function",
    leaf "[\x7b\x7d]" "sh_cbracket",
    leaf "[-+*/%=<>!&|^~?:;,.()\\[\\]]" "sh_symbol" ]

/-- A string, with its escapes. -/
def cString : List RuleDefinition :=
  [ leaf "\\\\(?:[0-7]\x7b1,3\x7d|x[0-9a-fA-F]+|.)" "sh_specialchar",
    leave "\"" "sh_string" ]

/-- A directive of the preprocessor. -/
def cDirective : List RuleDefinition :=
  [ leaf "<[^>]*>" "sh_string",
    enter "\"" "sh_string" 3,
    enter "/\\*" "sh_comment" 2,
    leave "$" "sh_preproc" ]

/-- The language C: code, a comment up to the end of the line, a comment in marks, a string and a
directive. -/
def c : Definition :=
  ⟨some "c",
    [ cCode,
      commentLinks ++ [leave "$" "sh_comment"],
      leave "\\*/" "sh_comment" :: commentLinks,
      cString,
      cDirective ]⟩

/-- A line of a difference. -/
def diffLine (pattern style : String) : RuleDefinition :=
  .record ⟨pattern, .whole style, none, false, false, true⟩

/-- Differences of files. -/
def diff : Definition :=
  ⟨some "diff",
    [ [ diffLine
          "^(?:diff|Index:|Only in|Binary files|[0-9]+(?:,[0-9]+)?[acd][0-9]+(?:,[0-9]+)?$).*"
          "sh_difflines",
        diffLine "^@@.*@@.*" "sh_difflines",
        diffLine "^(?:---|\\*\\*\\*) .*" "sh_oldfile",
        diffLine "^\\+\\+\\+ .*" "sh_newfile",
        diffLine "^[-<!].*" "sh_oldfile",
        diffLine "^[+>].*" "sh_newfile" ] ]⟩

/-- Property files. -/
def properties : Definition :=
  ⟨some "properties",
    [ [ leaf "^[ \\t]*[#!].*" "sh_comment",
        .tuple "^[ \\t]*((?:\\\\.|[^\\\\:= \\t])+)([ \\t]*[:=])?"
          (.groups [some "sh_keyword", some "sh_symbol"]) (-1) true,
        leaf "\\\\(?:u[0-9a-fA-F]\x7b4\x7d|.)" "sh_specialchar" ] ]⟩

/-- Plain text with links. -/
def url : Definition :=
  ⟨some "url",
    [ [ leaf "<?(?:(?:https?|ftp|file)://|www\\.)[^\\s<>\"]+>?" "sh_url",
        leaf "<?(?:mailto:)?[\\w.+-]+@[\\w-]+(?:\\.[\\w-]+)+>?" "sh_url" ] ]⟩

/-- The built-in grammars by the names of their languages. -/
def all : List (String × Definition) :=
  [("c", c), ("diff", diff), ("properties", properties), ("url", url)]

end Highlighter.Builtin
