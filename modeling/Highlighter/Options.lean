import Highlighter.Grammar.Definition.Reader
import Highlighter.Text.Line

/-!
# Options

How a text is highlighted, apart from its grammar. Options are read from a YAML document, in which
each of them may be left out.
-/

namespace Highlighter

/-- Options of a highlighting. -/
structure Options where
  /-- Put in front of every class name. -/
  classPrefix : String := ""
  /-- Whether a copy of an element is highlighted, and not the element itself. -/
  cloneInput : Bool := false
  /-- The text that stands for an element that breaks a line. -/
  lineBreak : LineBreak := .lf
  deriving DecidableEq, Repr

/-- The line break with a name. -/
def LineBreak.named? (name : String) : Option LineBreak :=
  if name = "lf" then some .lf
  else if name = "cr" then some .cr
  else if name = "crlf" then some .crlf
  else none

/-- A line break by its name, which may also be written as a tag in front of nothing. -/
def LineBreak.ofTree? : Yaml.Tree → Option LineBreak
  | .scalar tag style s =>
    match tag with
    | some tag =>
      if tag.startsWith "!" then
        if style = .plain ∧ (s.isEmpty || Yaml.isNull s) then
          named? (String.ofList tag.toList.tail)
        else none
      else named? s
    | none => named? s
  | _ => none

namespace Options

/-- The names of the options. -/
def names : List String := ["class_prefix", "clone_input", "line_break"]

/-- The value of an option, or its default if it is not given. -/
def field? {α : Type} (fields : List (String × Yaml.Tree)) (name : String)
    (read : Yaml.Tree → Option α) (default : α) : Option α := do
  match ← uniqueField? name fields with
  | some t => read t
  | none => some default

/-- Options from the fields of a YAML document. -/
def ofFields? (fields : List (String × Yaml.Tree)) : Option Options := do
  guard (fields.all fun (name, _) => names.contains name)
  return {
    classPrefix := ← field? fields "class_prefix" Yaml.Tree.text? ""
    cloneInput := ← field? fields "clone_input" Yaml.Tree.bool? false
    lineBreak := ← field? fields "line_break" LineBreak.ofTree? .lf }

/-- Reads options from a YAML text. -/
def read (t : Text) : Except Yaml.YamlError Options := do
  match ofFields? (← Yaml.readFields t) with
  | some o => return o
  | none => throw .mismatch

end Options

end Highlighter
