/-!
# Tables of code points

A table lists code points as `(first, last, step)`: those from `first` to `last` in steps of `step`.
The entries are in increasing order of `first`, so a search can stop at the first entry behind the
code point.
-/

namespace Highlighter.Unicode

/-- Code points, as `(first, last, step)`. -/
abbrev Ranges := List (Nat × Nat × Nat)

/-- Whether a table lists a code point. -/
def Ranges.mem : Ranges → Nat → Bool
  | [], _ => false
  | (first, last, step) :: rest, n =>
    if n < first then false
    else if n ≤ last && (n - first) % step == 0 then true
    else mem rest n

/-- Whether one of several tables lists a code point. -/
def listedIn (tables : List Ranges) (n : Nat) : Bool := tables.any (·.mem n)

end Highlighter.Unicode
