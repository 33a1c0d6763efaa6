import Highlighter.Pattern.Error
import Highlighter.Pattern.Extent

/-!
# Look-behind

What may stand in a look-behind, and the form that it is brought to before it is matched. A loop at
the head of it needs no more turns than its least number, for more would only reach further left.
Alternatives of different fixed lengths are looked for one by one. A look-behind that the empty text
surely satisfies holds everywhere.
-/

namespace Highlighter.Regex

/-- The greatest number of characters that a look-behind can ask for. -/
def maxBehind : Nat := 65535

/-- Whether something in an expression keeps it out of a look-behind. -/
def isBarredBehind (negative : Bool) : Regex → Bool
  | anchor .textEnd => true
  | anchor .lastLineEnd => true
  | ahead _ => true
  | notAhead _ => true
  | seq a b => a.isBarredBehind negative || b.isBarredBehind negative
  | alt a b => a.isBarredBehind negative || b.isBarredBehind negative
  | loop body _ _ _ => body.isBarredBehind negative
  | atomic body => body.isBarredBehind negative
  | optioned body => body.isBarredBehind negative
  | capture _ body => negative || body.isBarredBehind negative
  | behind body => body.isBarredBehind negative
  | notBehind body => !negative || body.isBarredBehind negative
  | choice c yes no =>
    c.isBarredBehind negative || yes.isBarredBehind negative || no.isBarredBehind negative
  | absent body expr => body.isBarredBehind negative || expr.isBarredBehind negative
  | stopBefore _ => true
  | readOn => true
  | _ => false

/-- Whether an expression is read by a single step. -/
def isSimple : Regex → Bool
  | word _ _ => true
  | set _ => true
  | backref _ _ => true
  | _ => false

/-- A loop at the head of a look-behind with its least number of turns; `true` if that is none. -/
def shortened : Regex → Regex × Bool
  | loop body least most greedy =>
    if body.isSimple then (loop body least (some least) greedy, least == 0)
    else (loop body least most greedy, false)
  | r => (r, false)

/-- Shortens the loops at the head of several expressions; `none` if nothing is left. -/
def shortenHead : List Regex → Option (List Regex)
  | [] => none
  | r :: rest =>
    match r.shortened with
    | (r, false) => some (r :: rest)
    | (_, true) => shortenHead rest

/-- Shortens the loops at the head of every alternative; nothing may be left of none. -/
def shortenAlternatives : Regex → Except PatternError Regex
  | alt a b => do return alt (← shortenBranch a) (← shortenAlternatives b)
  | r => shortenBranch r
where
  /-- Shortens the loops at the head of one alternative. -/
  shortenBranch (r : Regex) : Except PatternError Regex :=
    match r with
    | seq a b =>
      match shortenHead (seq a b).parts with
      | some rest => .ok (join rest)
      | none => .error .invalidLookBehind
    | r => .ok r.shortened.1

/-- Whether every alternative has a fixed number of characters. -/
def hasFixedAlternatives (groups : List (Nat × Regex)) : Regex → Bool
  | alt a b => (a.extent groups).isFixed && b.hasFixedAlternatives groups
  | a => (a.extent groups).isFixed

/-- A look-behind for each alternative, of which one must hold. -/
def divided : Regex → Regex
  | alt a b => alt (behind a) b.divided
  | a => behind a

/-- A negative look-behind for each alternative, of which all must hold. -/
def dividedNot : Regex → Regex
  | alt a b => seq (notBehind a) b.dividedNot
  | a => notBehind a

/-- The form in which a look-behind is matched; `used` if a group in it is referred to. -/
def settleBehind (groups : List (Nat × Regex)) (negative used : Bool) (body : Regex) :
    Except PatternError Regex := do
  let body ← body.shortenAlternatives
  let e := body.extent groups
  if maxBehind < e.least ∨ e.most.any (maxBehind < ·) then throw .invalidLookBehind
  if e.least = 0 ∧ e.sure ∧ !used then return if negative then fail else empty
  if !e.isFixed ∧ body.hasFixedAlternatives groups then
    return if negative then body.dividedNot else body.divided
  return if negative then notBehind body else behind body

/-- Brings every look-behind in an expression to the form in which it is matched. -/
def settle (groups : List (Nat × Regex)) (used : List Nat) : Regex → Except PatternError Regex
  | seq a b => do return seq (← a.settle groups used) (← b.settle groups used)
  | alt a b => do return alt (← a.settle groups used) (← b.settle groups used)
  | loop body least most greedy => do
    return loop (← body.settle groups used) least most greedy
  | atomic body => do return atomic (← body.settle groups used)
  | optioned body => do return optioned (← body.settle groups used)
  | capture n body => do return capture n (← body.settle groups used)
  | ahead body => do return ahead (← body.settle groups used)
  | notAhead body => do return notAhead (← body.settle groups used)
  | behind body => do
    if body.isBarredBehind false then throw .invalidLookBehind
    let inUse := body.captures.any fun g => used.contains g.1
    settleBehind groups false inUse (← body.settle groups used)
  | notBehind body => do
    if body.isBarredBehind true then throw .invalidLookBehind
    settleBehind groups true false (← body.settle groups used)
  | choice c yes no => do
    return choice (← c.settle groups used) (← yes.settle groups used) (← no.settle groups used)
  | absent body expr => do return absent (← body.settle groups used) (← expr.settle groups used)
  | stopBefore body => do return stopBefore (← body.settle groups used)
  | r => .ok r

/-- A literal that surely stands last in an expression, or whether nothing does. -/
inductive Tail where
  | literal (r : Regex)
  | nothing
  | unknown

/-- What stands last in an expression. -/
def tail : Regex → Tail
  | empty => .nothing
  | word text ignoreCase =>
    if text.isEmpty then .nothing else if ignoreCase then .unknown else .literal (word text false)
  | set s => if s = .all ∨ s = .notLineFeed then .unknown else .literal (set s)
  | seq a b =>
    match b.tail with
    | .nothing => a.tail
    | t => t
  | loop body least _ _ => if least = 0 then .unknown else body.tail
  | atomic body => body.tail
  | optioned body => body.tail
  | capture _ body => body.tail
  | choice c _ _ => c.tail
  | alt _ _ => .unknown
  | backref _ _ => .unknown
  | tookPart _ => .unknown
  | call _ => .unknown
  | absent _ _ => .unknown
  | _ => .nothing

end Highlighter.Regex
