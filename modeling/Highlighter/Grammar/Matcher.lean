import Highlighter.Text.Basic

/-!
# Matchers

A matcher looks for the first match in a line from a byte offset on, with the whole line in view.
The tokenizer knows nothing else about patterns: what it needs from them is `Matcher.Sound`, and
what its cache needs is `Matcher.Stable`.
-/

namespace Highlighter

/-- Byte offsets where something starts and stops. -/
structure Range where
  start : Nat
  stop : Nat
  deriving DecidableEq, Repr, Inhabited

namespace Range

/-- Number of bytes. -/
def size (r : Range) : Nat := r.stop - r.start

/-- Nothing lies in the range. -/
def isEmpty (r : Range) : Bool := r.stop ≤ r.start

end Range

/-- A match: its range and the ranges of the capture groups that took part. -/
structure Match where
  range : Range
  groups : List (Option Range)
  deriving DecidableEq, Repr, Inhabited

namespace Match

/-- Where the match starts. -/
def start (m : Match) : Nat := m.range.start

/-- Where the match stops. -/
def stop (m : Match) : Nat := m.range.stop

end Match

/--
A search, with the pattern source it was made from. A search that is given up has no result,
whatever `find` says of it.
-/
structure Matcher where
  source : String
  find : Text → Nat → Option Match
  /-- Whether the search takes too long and is given up. -/
  givesUp : Text → Nat → Bool

namespace Matcher

/--
Searches start at boundaries of the line. Matches then lie at or behind the place of the search,
inside the line and on its boundaries.
-/
structure Sound (m : Matcher) (line : Text) : Prop where
  bounds : ∀ n r, Text.IsBoundary line n → m.find line n = some r →
    n ≤ r.start ∧ r.start ≤ r.stop ∧ r.stop ≤ Text.size line
  boundary : ∀ n r, Text.IsBoundary line n → m.find line n = some r →
    Text.IsBoundary line r.start ∧ Text.IsBoundary line r.stop ∧
      ∀ g, some g ∈ r.groups → Text.IsBoundary line g.start ∧ Text.IsBoundary line g.stop

/-- A search further right finds the same match up to its start, and nothing where nothing was. -/
structure Stable (m : Matcher) (line : Text) : Prop where
  miss : ∀ n k, Text.IsBoundary line n → Text.IsBoundary line k → n ≤ k →
    m.find line n = none → m.find line k = none
  hit : ∀ n k r, Text.IsBoundary line n → Text.IsBoundary line k → n ≤ k →
    m.find line n = some r → k ≤ r.start → m.find line k = some r

end Matcher

end Highlighter
