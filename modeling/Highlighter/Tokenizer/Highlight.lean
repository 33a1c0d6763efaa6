import Highlighter.Text.Line
import Highlighter.Tokenizer.Step

/-!
# Highlighting a text

The lines of a text are tokenized one after the other. Between two lines only the open contexts are
kept, and the memory of the arbiter. `highlight` returns the tags of all runs, in the order of the
text.
-/

namespace Highlighter

/-- What came of the lines of a text. -/
structure TextReport (σ : Type) where
  lines : List (Line × List Piece)
  events : List Event
  outcome : Except HighlightFailure (ContextStack × σ)

/-- Tokenizes lines, the first of which has a number. -/
def tokenizeLines {σ : Type} (arbiter : Arbiter σ) (table : Table) :
    Nat → ContextStack → σ → List Line → TextReport σ
  | _, stack, memory, [] => ⟨[], [], .ok (stack, memory)⟩
  | number, stack, memory, line :: lines =>
    let first := tokenizeLine arbiter table number line.content stack memory
    match first.outcome with
    | .error failure => ⟨[(line, first.pieces)], first.events, .error failure⟩
    | .ok (stack, memory) =>
      let rest := tokenizeLines arbiter table (number + 1) stack memory lines
      ⟨(line, first.pieces) :: rest.lines, first.events ++ rest.events, rest.outcome⟩

/-- Tokenizes a text from the root state. -/
def tokenize {σ : Type} (arbiter : Arbiter σ) (table : Table) (memory : σ) (text : Text) :
    TextReport σ :=
  tokenizeLines arbiter table 0 [] memory (physicalLines text)

/-- The tags of the runs of a line. -/
def Line.tags (classPrefix : String) (line : Line) (pieces : List Piece) : List Tag :=
  (Run.ofPieces pieces).flatMap (Run.tags classPrefix line.start line.content)

/-- The tags of all runs. -/
def TextReport.tags {σ : Type} (classPrefix : String) (r : TextReport σ) : List Tag :=
  r.lines.flatMap fun p => p.1.tags classPrefix p.2

/-- The result of highlighting, with what was reported on the way. -/
structure Highlighted where
  result : Except HighlightFailure (List Tag)
  events : List Event

/-- Highlights a text and reports on it. -/
def highlightWithEvents (table : Table) (classPrefix : String) (text : Text) : Highlighted :=
  let report := tokenize .cached table {} text
  match report.outcome with
  | .error failure => ⟨.error failure, report.events⟩
  | .ok (_, cache) =>
    let tags := report.tags classPrefix
    ⟨.ok tags, report.events ++ [.complete tags.length cache.searches]⟩

/-- The tags of the styled runs of a text, as flat pairs in the order of the text. -/
def highlight (table : Table) (classPrefix : String) (text : Text) :
    Except HighlightFailure (List Tag) :=
  (highlightWithEvents table classPrefix text).result

end Highlighter
