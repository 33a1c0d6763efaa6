import Highlighter.Language.Registry
import Highlighter.Markup.Html
import Highlighter.Markup.Reconcile
import Highlighter.Options
import Highlighter.Tokenizer.Highlight

/-!
# Highlighting elements

The whole way of an element: its children are flattened to text and tags, the text is highlighted,
the two lists of tags are woven together and the children are built anew. Markup that was inside
the element stays.
-/

namespace Highlighter

/-- Why an element could not be highlighted. -/
inductive SourceError where
  | load (cause : LoadError)
  | highlight (cause : HighlightFailure)
  | reconcile (cause : ReconcileFailure)
  deriving DecidableEq, Repr

/-- The wording of an error. -/
def SourceError.message : SourceError → String
  | load cause => cause.message
  | highlight cause => cause.message
  | reconcile cause => cause.message

/-- The class of every highlighted element. -/
def sourceCodeClass : String := "sh_sourceCode"

/-- What came of highlighting an element in place. -/
structure Outcome where
  result : Except SourceError Unit
  /-- The element afterwards. -/
  element : ElementNode
  events : List Event

/-- The highlighted element, if there was no error. -/
def Outcome.highlighted (o : Outcome) : Except SourceError ElementNode :=
  o.result.map fun _ => o.element

/-- The event of weaving two lists of tags together, which does not happen if one is empty. -/
def mergeEvents (structural highlight : List Tag) : List Event :=
  match Span.ofTags 0 highlight with
  | .ok spans =>
    match mergeTags? structural spans with
    | some m => [.merged m.cuts m.tags.length]
    | none => []
  | .error _ => []

/-- Highlights an element in place: it gets a class that says so, and new children. -/
def ElementNode.highlightInPlace (e : ElementNode) (table : Table) (options : Options) : Outcome :=
  let flat := Node.flatten options.lineBreak e.children
  let h := highlightWithEvents table options.classPrefix flat.text
  match h.result with
  | .error cause => ⟨.error (.highlight cause), e, h.events⟩
  | .ok tags =>
    let events := h.events ++ mergeEvents flat.tags tags
    match reconcile flat.text flat.tags tags with
    | .error cause => ⟨.error (.reconcile cause), e, events⟩
    | .ok children =>
      ⟨.ok (), ⟨e.element.addClass (options.classPrefix ++ sourceCodeClass), children⟩, events⟩

/-- The element that holds a text. -/
def ElementNode.ofText (t : Text) : ElementNode := ⟨⟨"pre", .empty⟩, [.text t]⟩

/-- Highlights a text as an element of its own. -/
def highlightText (t : Text) (table : Table) (options : Options) : Except SourceError ElementNode :=
  ((ElementNode.ofText t).highlightInPlace table options).highlighted

/-- What came of highlighting an element in a language. -/
structure SourceOutcome where
  /-- The highlighted element. -/
  result : Except SourceError ElementNode
  /-- The element that was given, afterwards. -/
  input : ElementNode
  registry : Registry
  events : List Event

/-- Highlights an element in a language. The given element becomes the highlighted one, unless a
copy was asked for. -/
def ElementNode.highlightAs (e : ElementNode) (r : Registry) (files : FileSystem)
    (language : String) (options : Options) : SourceOutcome :=
  let loaded := r.load files language
  match loaded.result with
  | .error cause => ⟨.error (.load cause), e, loaded.registry, loaded.events⟩
  | .ok shared =>
    let outcome := e.highlightInPlace shared.table options
    ⟨outcome.highlighted, if options.cloneInput then e else outcome.element, loaded.registry,
      loaded.events ++ outcome.events⟩

end Highlighter
