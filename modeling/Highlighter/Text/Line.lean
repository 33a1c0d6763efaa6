import Highlighter.Text.Basic

/-!
# Physical lines

A line ends with a line feed, a carriage return or both in that order. `pieces` cuts a text into
contents and endings, `physicalLines` adds the byte offsets. No line follows a final ending, and the
empty text has no lines.
-/

namespace Highlighter

/-- The three ways to end a line. -/
inductive LineBreak where
  | lf
  | cr
  | crlf
  deriving DecidableEq, Repr

/-- The characters of a line ending. -/
def LineBreak.toText : LineBreak → Text
  | .lf => ['\n']
  | .cr => ['\r']
  | .crlf => ['\r', '\n']

/-- A line of a text: where it starts, its content and its ending, which only the last may lack. -/
structure Line where
  start : Nat
  content : Text
  ending : Option LineBreak
  deriving DecidableEq, Repr

namespace Line

/-- Offset of the end of the content. -/
def stop (l : Line) : Nat := l.start + Text.size l.content

/-- Number of bytes of the ending. -/
def endingSize (l : Line) : Nat :=
  match l.ending with
  | some b => Text.size b.toText
  | none => 0

/-- Offset of whatever follows the line. -/
def next (l : Line) : Nat := l.stop + l.endingSize

end Line

/-- Contents and endings of the lines of a text. -/
def Text.pieces : List Char → List (Text × Option LineBreak)
  | [] => []
  | '\r' :: '\n' :: t => ([], some .crlf) :: pieces t
  | '\r' :: t => ([], some .cr) :: pieces t
  | '\n' :: t => ([], some .lf) :: pieces t
  | c :: t =>
    match pieces t with
    | [] => [([c], none)]
    | (content, ending) :: rest => (c :: content, ending) :: rest

/-- Places consecutive contents and endings from an offset on. -/
def Line.place : Nat → List (Text × Option LineBreak) → List Line
  | _, [] => []
  | n, (content, ending) :: rest =>
    let line : Line := ⟨n, content, ending⟩
    line :: place line.next rest

/-- The lines of a text, in order. -/
def physicalLines (t : Text) : List Line := Line.place 0 (Text.pieces t)

end Highlighter
