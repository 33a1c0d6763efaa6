import Highlighter.Pattern.LookBehind
import Highlighter.Pattern.Plan

/-!
# Planning a match

How an expression is to be matched: which loops are written out turn by turn and which are counted,
where empty turns are watched for, which groups get their registers back, and how far a look-behind
reaches.
-/

namespace Highlighter

namespace Plan

/-- Several turns, one after the other, and then something else. -/
def copies (body : Plan) : Nat → Plan → Plan
  | 0, rest => rest
  | n + 1, rest => seq body (copies body n rest)

/-- At most `n` turns, of which each is worth a choice. -/
def options (body : Plan) : Nat → Plan
  | 0 => done
  | 1 => option body true
  | n + 1 => option (seq body (options body n)) true

/-- The greatest cost of a loop that is written out turn by turn. -/
def maxWritten : Nat := 10

/-- How a loop over a plan is matched. -/
def loop (body : Plan) (least : Nat) (most : Option Nat) (greedy : Bool)
    (watch : Option (List Nat)) : Plan :=
  if body.cost = 0 then done
  else
    match most with
    | none =>
      if least ≤ 1 ∨ body.cost * least ≤ maxWritten then
        if least = 1 ∧ maxWritten < body.cost then counted body 1 none greedy watch
        else copies body least (star body greedy watch)
      else counted body least none greedy watch
    | some 0 => done
    | some most =>
      if greedy ∧ (most = 1 ∨ (body.cost + 1) * most ≤ maxWritten) then
        copies body least (options body (most - least))
      else if !greedy ∧ least = 0 ∧ most = 1 then option body false
      else counted body least (some most) greedy watch

end Plan

namespace Regex

/-- What planning has to know about the whole expression. -/
structure Outline where
  groups : List (Nat × Regex)
  /-- The groups that are referred to, each as often as that happens. -/
  referenced : List Nat
  called : List Nat

/-- The groups of a loop over an expression, but for those of inner loops with empty turns. -/
def ownGroups (groups : List (Nat × Regex)) : Regex → List Nat
  | seq a b => a.ownGroups groups ++ b.ownGroups groups
  | alt a b => a.ownGroups groups ++ b.ownGroups groups
  | loop body _ _ _ => if body.isNullable groups then [] else body.ownGroups groups
  | atomic body => body.ownGroups groups
  | optioned body => body.ownGroups groups
  | capture n body => n :: body.ownGroups groups
  | notAhead body => body.ownGroups groups
  | notBehind body => body.ownGroups groups
  | choice c yes no => c.ownGroups groups ++ yes.ownGroups groups ++ no.ownGroups groups
  | _ => []

/-- The groups of a loop that are referred to from outside of it, if its turns may be empty. -/
def watched (o : Outline) (body : Regex) : Option (List Nat) :=
  if body.isNullable o.groups then
    let inside := body.referenced
    some ((body.ownGroups o.groups).filter fun n => inside.count n < o.referenced.count n)
  else none

/-- How a word is matched. -/
def planWord (text : List Char) (ignoreCase inBehind : Bool) : Plan :=
  if text.isEmpty then .done
  else if ignoreCase then .folded (text.map Unicode.fold) inBehind
  else .text text

/-- How a text of several turns is matched, if it is written out as one. -/
def repeatedText? (body : Plan) (least : Nat) (most : Option Nat) : Option Plan :=
  match body with
  | .text cs =>
    if 1 < least ∧ most = some least ∧ (Text.size cs) * least ≤ 100 then
      some (.text (List.replicate least cs).flatten)
    else none
  | _ => none

/-- The literal that a look-behind ends with, and its number of characters. -/
def planLead (body : Regex) : Nat × Plan :=
  match body.tail with
  | .literal (word text _) => (text.length, .text text)
  | .literal (set s) => (1, .set s)
  | _ => (0, .done)

/--
How an expression is matched. `unsettled` if it stands where a match may come back to, so that its
groups have to be restored; `inBehind` if it stands in a look-behind.
-/
def plan (o : Outline) (unsettled inBehind : Bool) : Regex → Plan
  | empty => .done
  | word text ignoreCase => planWord text ignoreCase inBehind
  | set s => .set s
  | anchor a => .anchor a
  | seq a b => .seq (a.plan o unsettled inBehind) (b.plan o unsettled inBehind)
  | alt a b => .alt (a.plan o true inBehind) (b.plan o true inBehind)
  | loop body least most greedy =>
    let p := body.plan o (unsettled || most != some least) inBehind
    match repeatedText? p least most with
    | some p => p
    | none => p.loop least most greedy (body.watched o)
  | atomic body => .atomic (body.plan o unsettled inBehind)
  | optioned body => body.plan o unsettled inBehind
  | capture n body =>
    let called := o.called.contains n
    .capture n (unsettled || called || o.referenced.contains n)
      (body.plan o (unsettled || called) inBehind)
  | ahead body => .ahead (body.plan o unsettled inBehind)
  | notAhead body => .notAhead (body.plan o true inBehind)
  | behind body =>
    let e := body.extent o.groups
    let p := body.plan o unsettled true
    if e.isFixed then .behind e.least p
    else
      let (size, lead) := body.planLead
      .behindWithin size lead e.least e.most p
  | notBehind body =>
    let e := body.extent o.groups
    let p := body.plan o true true
    if e.isFixed then .notBehind e.least p
    else
      let (size, lead) := body.planLead
      .notBehindWithin size lead e.least e.most p
  | backref groups ignoreCase => .backref groups ignoreCase
  | tookPart groups => .tookPart groups
  | choice c yes no =>
    .choice (c.plan o true inBehind) (yes.plan o true inBehind) (no.plan o true inBehind)
  | call (.number n) => .call n
  | call (.name _) => .set .none
  | absent body expr => .absent (body.plan o true inBehind) (expr.plan o unsettled inBehind)
  | stopBefore body => .stopBefore (body.plan o true inBehind)
  | readOn => .readOn
  | keep => .keep

end Regex

namespace Plan

/-- Which groups of a plan are restored. -/
def restoredGroups : Plan → List Nat
  | seq a b => a.restoredGroups ++ b.restoredGroups
  | alt a b => a.restoredGroups ++ b.restoredGroups
  | option body _ => body.restoredGroups
  | star body _ _ => body.restoredGroups
  | counted body _ _ _ _ => body.restoredGroups
  | atomic body => body.restoredGroups
  | capture n restored body => if restored then n :: body.restoredGroups else body.restoredGroups
  | ahead body => body.restoredGroups
  | notAhead body => body.restoredGroups
  | behind _ body => body.restoredGroups
  | notBehind _ body => body.restoredGroups
  | behindWithin _ _ _ _ body => body.restoredGroups
  | notBehindWithin _ _ _ _ body => body.restoredGroups
  | choice c yes no => c.restoredGroups ++ yes.restoredGroups ++ no.restoredGroups
  | absent body expr => body.restoredGroups ++ expr.restoredGroups
  | stopBefore body => body.restoredGroups
  | _ => []

/-- The groups of a plan with how they are matched. -/
def captures : Plan → List (Nat × Plan)
  | seq a b => a.captures ++ b.captures
  | alt a b => a.captures ++ b.captures
  | option body _ => body.captures
  | star body _ _ => body.captures
  | counted body _ _ _ _ => body.captures
  | atomic body => body.captures
  | capture n restored body => (n, capture n restored body) :: body.captures
  | ahead body => body.captures
  | notAhead body => body.captures
  | behind _ body => body.captures
  | notBehind _ body => body.captures
  | behindWithin _ _ _ _ body => body.captures
  | notBehindWithin _ _ _ _ body => body.captures
  | choice c yes no => c.captures ++ yes.captures ++ no.captures
  | absent body expr => body.captures ++ expr.captures
  | stopBefore body => body.captures
  | _ => []

end Plan

/-- A plan with what a search needs beside it. -/
structure Pattern where
  plan : Plan
  /-- The number of groups. -/
  groups : Nat
  /-- Which groups are restored. -/
  restored : List Bool
  /-- How the groups that can be called are matched; the group zero is the whole pattern. -/
  callable : List (Nat × Plan)
  deriving DecidableEq, Repr

namespace Pattern

/-- The pattern of an expression with a number of groups. -/
def ofRegex (r : Regex) (groups : Nat) : Except PatternError Pattern := do
  let referenced := r.referenced
  let called := r.called
  let o : Regex.Outline := ⟨(0, r) :: r.captures, referenced, called⟩
  let settled ← r.settle o.groups (referenced ++ called)
  let plan := settled.plan o (called.contains 0) false
  let restored := plan.restoredGroups
  return {
    plan, groups
    restored := (List.range groups).map fun i => restored.contains (i + 1)
    callable := if called.isEmpty then [] else (0, plan) :: callableGroups settled o called plan }
where
  /-- The called groups; one that stands in a loop without turns is planned by itself. -/
  callableGroups (settled : Regex) (o : Regex.Outline) (called : List Nat) (plan : Plan) :
      List (Nat × Plan) :=
    called.filterMap fun n =>
      match plan.captures.lookup n with
      | some p => some (n, p)
      | none => (settled.captures.lookup n).map fun body =>
          (n, (Regex.capture n body).plan o true false)

/-- How deep calls can be nested. -/
def maxCalls : Nat := 24

/-- The ways to match a called group, if calls can be nested to a depth. -/
def callee (p : Pattern) (s : Search) : Nat → Nat → Attempt.Walk
  | 0, _ => fun t _ => t.giveUp
  | depth + 1, group =>
    match p.callable.lookup group with
    | some plan => plan.run s (callee p s depth)
    | none => fun t _ => t.giveUp

/-- The match that an attempt from an offset reports. -/
def toMatch (p : Pattern) (start : Nat) (t : Attempt) : Match :=
  ⟨⟨min (t.kept.getD start) t.offset, t.offset⟩,
    (List.range p.groups).map fun i => t.registers.range? (i + 1)⟩

/-- What becomes of an attempt at a place. -/
def attempt (p : Pattern) (s : Search) (c : Cursor) : Attempt.Outcome :=
  p.plan.run s (p.callee s maxCalls) ⟨c, s.size, List.replicate p.groups {}, none, 0⟩ .ok

/-- The match at a place. -/
def matchAt (p : Pattern) (s : Search) (c : Cursor) : Option Match :=
  match p.attempt s c with
  | .ok t => some (p.toMatch c.offset t)
  | .error _ => none

/-- The first match at or behind a place. -/
def findFrom (p : Pattern) (s : Search) (before : List Char) (offset : Nat) :
    List Char → Option Match
  | [] => p.matchAt s ⟨before, [], offset⟩
  | x :: after =>
    match p.matchAt s ⟨before, x :: after, offset⟩ with
    | some m => some m
    | none => findFrom p s (x :: before) (offset + x.utf8Size) after

/-- Whether an attempt at or behind a place is left without an answer, before a match is found. -/
def givesUpFrom (p : Pattern) (s : Search) (before : List Char) (offset : Nat) :
    List Char → Bool
  | [] =>
    match p.attempt s ⟨before, [], offset⟩ with
    | .ok _ => false
    | .error f => f.isFinal
  | x :: after =>
    match p.attempt s ⟨before, x :: after, offset⟩ with
    | .ok _ => false
    | .error f => f.isFinal || givesUpFrom p s (x :: before) (offset + x.utf8Size) after

/-- A search in a line from a byte offset on. -/
def search (p : Pattern) (line : Text) (start : Nat) : Search :=
  ⟨start, line, Text.size line, (line.length + 2) * (p.groups + 1), p.restored⟩

/-- The first match in a line at or behind a byte offset. -/
def find (p : Pattern) (line : Text) (start : Nat) : Option Match :=
  match Cursor.seek? [] 0 start line with
  | some c => p.findFrom (p.search line start) c.before c.offset c.after
  | none => none

/-- Whether the search for that match is left without an answer. -/
def givesUp (p : Pattern) (line : Text) (start : Nat) : Bool :=
  match Cursor.seek? [] 0 start line with
  | some c => p.givesUpFrom (p.search line start) c.before c.offset c.after
  | none => false

/-- The matcher of a pattern that was read from a source. -/
def matcher (p : Pattern) (source : String) : Matcher := ⟨source, p.find, p.givesUp⟩

end Pattern

end Highlighter
