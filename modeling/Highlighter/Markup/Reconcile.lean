import Highlighter.Markup.Node

/-!
# Merging tags and rebuilding trees

`merge` weaves flat runs into properly nested tags: a run that crosses a tag is cut there and
continued behind it. At one offset a run that ends comes first, then the nested tags, then a run
that starts. `rebuild` turns a text with nested tags back into nodes; together they are `reconcile`.
-/

namespace Highlighter

/-- Why tags could not be merged or a tree could not be rebuilt. -/
inductive ReconcileFailure where
  | malformedHighlight (offset : Nat)
  | nesting (defect : NestingDefect)
  | danglingEndTag (offset : Nat)
  | unclosedElement (name : String)
  | tagOutOfBounds (offset size : Nat)
  deriving DecidableEq, Repr

/-- The wording of a failure. -/
def ReconcileFailure.message : ReconcileFailure → String
  | .malformedHighlight offset =>
    s!"highlight tags are not flat start/end pairs (at offset {offset})"
  | .nesting defect => "merged tags are not properly nested: " ++ defect.message
  | .danglingEndTag offset => s!"end tag at offset {offset} has no open element"
  | .unclosedElement name => s!"element <{name}> was never closed"
  | .tagOutOfBounds offset size =>
    s!"tag offset {offset} is outside the text (length {size}) or not on a char boundary"

/-- An element that covers the text between two offsets. -/
structure Span where
  start : Nat
  stop : Nat
  element : Element
  deriving DecidableEq

/-- Reads tags as spans that follow `previous` and one another. -/
def Span.ofTags (previous : Nat) : List Tag → Except ReconcileFailure (List Span)
  | [] => .ok []
  | .start s e :: .stop t :: tags =>
    if previous ≤ s ∧ s ≤ t then (⟨s, t, e⟩ :: ·) <$> ofTags t tags
    else .error (.malformedHighlight s)
  | tag :: _ => .error (.malformedHighlight tag.offset)

/-- Tags woven together, with the number of places where a span was cut. -/
structure Merged where
  tags : List Tag
  cuts : Nat
  deriving DecidableEq

/--
The tags of one open span: every offset below `stop` at which nested tags stand closes the span
before them and reopens it behind them. The second part holds the nested tags that remain.
-/
def Span.weave (e : Element) (stop : Nat) : List Tag → Merged × List Tag
  | [] => (⟨[.stop stop], 0⟩, [])
  | tag :: tags =>
    if tag.offset < stop then
      let here := tags.takeWhile fun t => t.offset == tag.offset
      let rest := weave e stop (tags.dropWhile fun t => t.offset == tag.offset)
      (⟨.stop tag.offset :: tag :: here ++ .start tag.offset e :: rest.1.tags, rest.1.cuts + 1⟩,
        rest.2)
    else (⟨[.stop stop], 0⟩, tag :: tags)
termination_by tags => tags.length
decreasing_by
  have := (List.dropWhile_sublist (fun t => t.offset == tag.offset) (l := tags)).length_le
  simp only [List.length_cons]
  omega

/-- Weaves spans into nested tags. -/
def Span.mergeInto (structural : List Tag) : List Span → Merged
  | [] => ⟨structural, 0⟩
  | span :: spans =>
    let before := structural.takeWhile fun t => t.offset ≤ span.start
    let woven := weave span.element span.stop
      (structural.dropWhile fun t => t.offset ≤ span.start)
    let rest := mergeInto woven.2 spans
    ⟨before ++ .start span.start span.element :: woven.1.tags ++ rest.tags,
      woven.1.cuts + rest.cuts⟩

/-- The tags woven together before their nesting is checked; `none` if one side is empty. -/
def mergeTags? (structural : List Tag) (spans : List Span) : Option Merged :=
  if structural.isEmpty || spans.isEmpty then none else some (Span.mergeInto structural spans)

/-- Weaves flat highlight tags into nested structural tags. -/
def merge (structural highlight : List Tag) : Except ReconcileFailure (List Tag) := do
  let spans ← Span.ofTags 0 highlight
  match mergeTags? structural spans with
  | none => return if spans.isEmpty then structural else highlight
  | some merged =>
    match checkNesting merged.tags with
    | .ok () => return merged.tags
    | .error defect => throw (.nesting defect)

/-- Adds a text to children that are listed last first, unless it is empty. -/
def Node.addText (t : Text) (children : List Node) : List Node :=
  if t.isEmpty then children else .text t :: children

/--
Rebuilds nodes from the tags that follow offset `pos` of a text of `size` bytes, where `rest` is the
text from `pos` on, `current` the children of the innermost open element (last first) and `outer`
the open elements, each with the children before it.
-/
def rebuildFrom (size pos : Nat) (rest : Text) (current : List Node)
    (outer : List (Element × List Node)) : List Tag → Except ReconcileFailure (List Node)
  | [] =>
    match outer with
    | [] => .ok (Node.addText rest current).reverse
    | (e, _) :: _ => .error (.unclosedElement e.name)
  | tag :: tags =>
    if tag.offset < pos then .error (.nesting (.outOfOrder tag.offset pos))
    else
      match Text.splitAt? rest (tag.offset - pos) with
      | none => .error (.tagOutOfBounds tag.offset size)
      | some (chunk, rest) =>
        let current := Node.addText chunk current
        match tag with
        | .start n e => rebuildFrom size n rest [] ((e, current) :: outer) tags
        | .stop n =>
          match outer with
          | [] => .error (.danglingEndTag n)
          | (e, before) :: outer =>
            rebuildFrom size n rest (.element e current.reverse :: before) outer tags

/-- The nodes that a text with properly nested tags stands for. -/
def rebuild (tags : List Tag) (text : Text) : Except ReconcileFailure (List Node) :=
  rebuildFrom (Text.size text) 0 text [] [] tags

/-- Weaves highlight tags into structural tags and rebuilds the nodes. -/
def reconcile (text : Text) (structural highlight : List Tag) :
    Except ReconcileFailure (List Node) := do
  rebuild (← merge structural highlight) text

end Highlighter
