import Highlighter.Grammar.Table
import Highlighter.Markup.Link
import Highlighter.Markup.Tag

/-!
# Styled pieces and runs

The tokenizer divides a line into pieces, each with a length in bytes and perhaps a style. Runs are
what remains when neighbours of one style are joined and pieces without a style are left out. Every
run becomes the two tags of an element, a link if its style is the link style.
-/

namespace Highlighter

/-- Some bytes of a line under one style, or under none. -/
structure Piece where
  size : Nat
  style : Option String
  deriving DecidableEq, Repr

namespace Piece

/-- Number of bytes of consecutive pieces. -/
def total : List Piece → Nat
  | [] => 0
  | p :: ps => p.size + total ps

/-- One piece, unless it has no bytes. -/
def ofSize (size : Nat) (style : Option String) : List Piece :=
  if size = 0 then [] else [⟨size, style⟩]

/-- No pieces cover nothing. -/
@[simp] theorem total_nil : total [] = 0 := rfl

/-- Totals add up. -/
@[simp] theorem total_append (ps qs : List Piece) : total (ps ++ qs) = total ps + total qs := by
  induction ps with
  | nil => simp
  | cons p ps ih => simp [total, ih, Nat.add_assoc]

/-- The piece of a size covers just that. -/
@[simp] theorem total_ofSize (size : Nat) (style : Option String) :
    total (ofSize size style) = size := by
  unfold ofSize
  split <;> simp_all [total]

/--
The pieces of a match by its capture groups, from `cursor` on: a group is styled where it lies
behind the groups before it, and everything between is without a style of its own. `fallback` is the
style of whatever has none.
-/
def ofGroups (fallback : Option String) (stop : Nat) (cursor : Nat) :
    List (Option Range × Option String) → List Piece
  | [] => ofSize (stop - cursor) fallback
  | (none, _) :: rest => ofGroups fallback stop cursor rest
  | (some r, style) :: rest =>
    let first := max r.start cursor
    let last := min r.stop stop
    if last ≤ first then ofGroups fallback stop cursor rest
    else
      ofSize (first - cursor) fallback ++ ofSize (last - first) (style <|> fallback) ++
        ofGroups fallback stop last rest

/-- The pieces of a match under a style. -/
def ofMatch (fallback : Option String) (style : Style) (r : Match) : List Piece :=
  match style with
  | .whole name => ofSize r.range.size (some name)
  | .groups names => ofGroups fallback r.stop r.start (r.groups.zip names)

/-- Joins neighbours of one style. -/
def join : List Piece → List Piece
  | [] => []
  | p :: ps =>
    match join ps with
    | [] => [p]
    | q :: qs => if p.style = q.style then ⟨p.size + q.size, p.style⟩ :: qs else p :: q :: qs

end Piece

/-- A styled stretch of a line. -/
structure Run where
  start : Nat
  stop : Nat
  style : String
  deriving DecidableEq, Repr

namespace Run

/-- The styled ones of consecutive pieces, placed from an offset on. -/
def place : Nat → List Piece → List Run
  | _, [] => []
  | n, ⟨size, none⟩ :: ps => place (n + size) ps
  | n, ⟨size, some style⟩ :: ps => ⟨n, n + size, style⟩ :: place (n + size) ps

/-- The runs of a line that was divided into pieces. -/
def ofPieces (ps : List Piece) : List Run := place 0 (Piece.join ps)

/-- The element of a run in a line. -/
def element (classPrefix : String) (line : Text) (r : Run) : Element :=
  if r.style = Link.style then
    (Element.anchor (classPrefix ++ r.style)).set "href"
      (String.ofList (Link.destination ((Text.slice? line r.start r.stop).getD [])))
  else Element.span (classPrefix ++ r.style)

/-- The two tags of a run in a line that starts at an offset. -/
def tags (classPrefix : String) (base : Nat) (line : Text) (r : Run) : List Tag :=
  [.start (base + r.start) (r.element classPrefix line), .stop (base + r.stop)]

end Run

end Highlighter
