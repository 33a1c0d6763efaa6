import Highlighter.Pattern.Error
import Highlighter.Pattern.Extent

/-!
# Calls of groups

A call matches a group once more. It may stand inside the group that it calls, as long as something
is read before it and there is a way around it.
-/

namespace Highlighter.Regex

/--
Gives every group its final number and every call by name the number of its group. A group without
a final number no longer captures.
-/
def resolve (number : Nat → Option Nat) (named : List (List Char × Nat)) :
    Regex → Except PatternError Regex
  | seq a b => do return seq (← a.resolve number named) (← b.resolve number named)
  | alt a b => do return alt (← a.resolve number named) (← b.resolve number named)
  | loop body least most greedy => do
    return loop (← body.resolve number named) least most greedy
  | atomic body => do return atomic (← body.resolve number named)
  | optioned body => do return optioned (← body.resolve number named)
  | capture n body => do
    let body ← body.resolve number named
    match number n with
    | some n => return capture n body
    | none => return body
  | ahead body => do return ahead (← body.resolve number named)
  | notAhead body => do return notAhead (← body.resolve number named)
  | behind body => do return behind (← body.resolve number named)
  | notBehind body => do return notBehind (← body.resolve number named)
  | backref groups ignoreCase => .ok (backref (groups.filterMap number) ignoreCase)
  | tookPart groups => .ok (tookPart (groups.filterMap number))
  | choice c yes no => do
    return choice (← c.resolve number named) (← yes.resolve number named)
      (← no.resolve number named)
  | call (.name text) =>
    match (named.filter fun p => p.1 == text).map Prod.snd with
    | [] => .error .undefinedName
    | [n] => .ok (call (.number ((number n).getD n)))
    | _ => .error .ambiguousCall
  | absent body expr => do return absent (← body.resolve number named) (← expr.resolve number named)
  | stopBefore body => do return stopBefore (← body.resolve number named)
  | r => .ok r

/-- What is known about an expression that may lead back to a group. -/
structure Way where
  /-- Every match leads back. -/
  always : Bool := false
  /-- A match leads back before anything is read. -/
  atOnce : Bool := false
  deriving DecidableEq, Repr

/--
How an expression leads back to a group, if that is known of calls. `fresh` if nothing has been read
before it.
-/
def wayWith (nullable : Regex → Bool) (callWay : Bool → Nat → Way) (fresh : Bool) : Regex → Way
  | seq a b =>
    let first := a.wayWith nullable callWay fresh
    let second := b.wayWith nullable callWay (fresh && nullable a)
    ⟨first.always || second.always, first.atOnce || second.atOnce⟩
  | alt a b =>
    let first := a.wayWith nullable callWay fresh
    let second := b.wayWith nullable callWay fresh
    ⟨first.always && second.always, first.atOnce || second.atOnce⟩
  | loop body least most _ =>
    if most = some 0 then {}
    else
      let w := body.wayWith nullable callWay fresh
      { w with always := w.always && least != 0 }
  | atomic body => body.wayWith nullable callWay fresh
  | optioned body => body.wayWith nullable callWay fresh
  | capture _ body => body.wayWith nullable callWay fresh
  | ahead body => body.wayWith nullable callWay fresh
  | notAhead body => body.wayWith nullable callWay fresh
  | behind body => body.wayWith nullable callWay fresh
  | notBehind body => body.wayWith nullable callWay fresh
  | choice c yes no =>
    let first := c.wayWith nullable callWay fresh
    let second := yes.wayWith nullable callWay (fresh && nullable c)
    let third := no.wayWith nullable callWay fresh
    ⟨(first.always || second.always) && third.always,
      first.atOnce || second.atOnce || third.atOnce⟩
  | call (.number n) => callWay fresh n
  | _ => {}

/-- What is known of a call, by its group and by whether nothing has been read before it. -/
abbrev Ways := List ((Nat × Bool) × Way)

/-- How a call leads back, as far as that is known. -/
def Ways.of (known : Ways) (fresh : Bool) (n : Nat) : Way := (known.lookup (n, fresh)).getD {}

/--
How calls of the groups lead back to the group `goal`, over at most so many calls. A way back that
enters no group twice is no longer than there are groups.
-/
def callWays (groups : List (Nat × Regex)) (nullable : Regex → Bool) (goal : Nat) : Nat → Ways
  | 0 => []
  | calls + 1 =>
    let known := callWays groups nullable goal calls
    groups.flatMap fun (n, body) => [true, false].map fun fresh =>
      ((n, fresh), if n = goal then ⟨true, fresh⟩ else body.wayWith nullable known.of fresh)

/-- Whether a called group leads back to itself with no way around or before anything is read. -/
def hasEndlessRecursion (r : Regex) : Bool :=
  let groups := (0, r) :: r.captures
  let nullable := fun (r : Regex) => r.isNullable groups
  r.called.any fun n =>
    match groups.lookup n with
    | some body =>
      let w := body.wayWith nullable (callWays groups nullable n groups.length).of true
      w.always || w.atOnce
    | none => false

end Highlighter.Regex
