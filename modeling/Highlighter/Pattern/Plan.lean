import Highlighter.Grammar.Matcher
import Highlighter.Pattern.Cursor

/-!
# Plans of matching

A plan is an expression ready to be matched. Matching goes by backtracking: alternatives are tried
in order, a greedy loop prefers one more turn and a lazy one prefers none. `Plan.run` hands every
way to match to a continuation and returns the first that it accepts.

The captures of the groups are kept in registers. A group that is `restored` gets its register back
when the matcher gives up a way and tries another; the register of any other group keeps what was
written last. A loop whose turns may be empty watches for an empty turn, which ends it.

Ways that are given up are counted. Behind too many of them no other way is tried, and the attempt
is left without an answer.
-/

namespace Highlighter

/-- A way to match. -/
inductive Plan where
  | done
  | text (cs : List Char)
  /-- A word up to case, given by the foldings of its characters. -/
  | folded (keys : List (List Char)) (single : Bool)
  | set (s : CharSet)
  | anchor (a : Anchor)
  | seq (a b : Plan)
  | alt (a b : Plan)
  /-- One turn or none. -/
  | option (body : Plan) (greedy : Bool)
  /-- Any number of turns. If turns may be empty, `watch` has the groups whose captures matter. -/
  | star (body : Plan) (greedy : Bool) (watch : Option (List Nat))
  /-- A number of turns that is counted. -/
  | counted (body : Plan) (least : Nat) (most : Option Nat) (greedy : Bool)
      (watch : Option (List Nat))
  | atomic (body : Plan)
  | capture (group : Nat) (restored : Bool) (body : Plan)
  | ahead (body : Plan)
  | notAhead (body : Plan)
  /-- Something of a known number of characters that ends here. -/
  | behind (size : Nat) (body : Plan)
  | notBehind (size : Nat) (body : Plan)
  /-- Something that ends here and starts a number of characters before; it ends with `lead`. -/
  | behindWithin (leadSize : Nat) (lead : Plan) (nearest : Nat) (farthest : Option Nat)
    (body : Plan)
  | notBehindWithin (leadSize : Nat) (lead : Plan) (nearest : Nat) (farthest : Option Nat)
      (body : Plan)
  | backref (groups : List Nat) (ignoreCase : Bool)
  | tookPart (groups : List Nat)
  | choice (condition yes no : Plan)
  | call (group : Nat)
  | absent (body expr : Plan)
  | stopBefore (body : Plan)
  | readOn
  | keep
  deriving DecidableEq, Repr, Inhabited

/-- The register of a group: where it was entered last and where it was left last. -/
structure Register where
  start : Option Nat := none
  stop : Option Nat := none
  deriving DecidableEq, Repr

/-- The registers of all groups, the first group first. -/
abbrev Registers := List Register

namespace Registers

/-- The register of a group. -/
def of (rs : Registers) (group : Nat) : Register := (rs[group - 1]?).getD {}

/-- Writes the register of a group. -/
def write (rs : Registers) (group : Nat) (r : Register) : Registers := rs.set (group - 1) r

/-- The range that a group captured. -/
def range? (rs : Registers) (group : Nat) : Option Range :=
  match rs.of group with
  | ⟨some start, some stop⟩ => some ⟨start, stop⟩
  | _ => none

/-- Takes back what was written to the restored groups since the registers were `old`. -/
def rollBack (restored : List Bool) (old new : Registers) : Registers :=
  match restored, old, new with
  | r :: restored, x :: old, y :: new => (if r then x else y) :: rollBack restored old new
  | _, _, new => new

end Registers

/-- How far a match has come. -/
structure Attempt where
  cursor : Cursor
  /-- Where reading ends. -/
  limit : Nat
  registers : Registers
  kept : Option Nat := none
  /-- How many ways were given up. -/
  retries : Nat := 0
  deriving DecidableEq, Repr

/-- What a way that was given up leaves behind: the registers, and how many were given up so far. -/
structure Attempt.Failure where
  registers : Registers
  retries : Nat
  deriving DecidableEq, Repr

/-- What became of an attempt: where it got, or what it left behind. -/
abbrev Attempt.Outcome := Except Attempt.Failure Attempt

/-- Takes every way to go on, in order of preference, until the continuation accepts one. -/
abbrev Attempt.Walk := Attempt → (Attempt → Attempt.Outcome) → Attempt.Outcome

/-- What a search knows: where it began, how many turns a loop takes, which groups are restored. -/
structure Search where
  start : Nat
  line : Text
  /-- The number of bytes of the line. -/
  size : Nat
  turns : Nat
  restored : List Bool

namespace Attempt

/-- The byte offset of the place. -/
def offset (t : Attempt) : Nat := t.cursor.offset

/-- How many ways can be given up in one attempt. -/
def retryLimit : Nat := 10000000

/-- Whether more ways were given up than can be. -/
def Failure.isFinal (f : Failure) : Bool := retryLimit < f.retries

/-- Gives up. -/
def giveUp (t : Attempt) : Outcome := .error ⟨t.registers, t.retries + 1⟩

/-- The same attempt with what a failed way left behind. -/
@[inline] def resume (t : Attempt) (f : Failure) : Attempt :=
  { t with registers := f.registers, retries := f.retries }

/-- Tries another way behind a failure, unless that is final. -/
@[inline] def retry (t : Attempt) (f : Failure) (way : Attempt → Outcome) : Outcome :=
  if f.isFinal then .error f else way (t.resume f)

/-- Goes on at a place, if there is one. -/
def goTo (t : Attempt) (c : Option Cursor) (k : Attempt → Outcome) : Outcome :=
  match c with
  | some cursor => k { t with cursor }
  | none => t.giveUp

/-- The first way that succeeds. -/
def firstOf (t : Attempt) (a b : Attempt → Outcome) : Outcome :=
  match a t with
  | .ok u => .ok u
  | .error f => t.retry f b

/-- What an empty turn of a loop leads to. -/
inductive Verdict where
  | leave
  | stay
  | giveUp

/--
What a turn that read nothing leads to, by the registers before and behind it. The loop goes on if a
watched group had captured nothing or some text before; the turn is given up if such a group had
captured the empty text elsewhere.
-/
def verdict (offset : Nat) (old new : Registers) : List Nat → Verdict
  | [] => .leave
  | group :: rest =>
    if old.of group = new.of group then verdict offset old new rest
    else
      match old.range? group with
      | none => .stay
      | some r =>
        if r.start ≠ r.stop then .stay
        else
          match verdict offset old new rest with
          | .stay => .stay
          | v => if r.stop ≠ offset then .giveUp else v

/-- Behind a turn that began as `t` and ended as `u`: leaves the loop or goes on. -/
def afterTurn (watch : Option (List Nat)) (t u : Attempt) (leave stay : Attempt → Outcome) :
    Outcome :=
  match watch with
  | none => stay u
  | some groups =>
    if u.offset = t.offset then
      match verdict u.offset t.registers u.registers groups with
      | .leave => leave u
      | .stay => stay u
      | .giveUp => u.giveUp
    else stay u

/-- Turns of a loop, at most `n`. -/
def star (body : Walk) (greedy : Bool) (watch : Option (List Nat)) : Nat → Walk
  | 0, t, k => k t
  | n + 1, t, k =>
    let again := fun (t : Attempt) =>
      body t fun u => afterTurn watch t u k fun u => star body greedy watch n u k
    if greedy then t.firstOf again k else t.firstOf k again

/-- Turns of a loop of which `done` were taken, at most `n` more. -/
def counted (body : Walk) (least : Nat) (greedy : Bool) (watch : Option (List Nat)) :
    Nat → Nat → Walk
  | 0, _, t, k => k t
  | n + 1, done, t, k =>
    let again := fun (t : Attempt) =>
      body t fun u => afterTurn watch t u k fun u =>
        counted body least greedy watch n (done + 1) u k
    if done < least then again t
    else if greedy then t.firstOf again k
    else t.firstOf k again

/-- The longest run of single characters of a set, the longest first. -/
def setRun (s : CharSet) (limit : Nat) : Nat → Cursor → List Cursor → List Cursor
  | 0, c, found => c :: found
  | n + 1, c, found =>
    match c.next? limit with
    | some (x, d) => if s.mem x then setRun s limit n d (c :: found) else c :: found
    | none => c :: found

/-- Goes on from the first of some places that leads to a success. -/
def firstPlace (k : Attempt → Outcome) : List Cursor → Attempt → Outcome
  | [], t => t.giveUp
  | [c], t => k { t with cursor := c }
  | c :: rest, t =>
    match k { t with cursor := c } with
    | .ok u => .ok u
    | .error f => t.retry f (firstPlace k rest)

/-- Goes on from the only way that is taken; what it captured is taken back on a failure. -/
def commit (restored : List Bool) (t : Attempt) (r : Outcome) (k : Attempt → Outcome) : Outcome :=
  match r with
  | .error f => .error f
  | .ok u =>
    match k u with
    | .ok v => .ok v
    | .error f => .error { f with registers := t.registers.rollBack restored f.registers }

/-- Fails if the way leads anywhere, and goes on from the start of it otherwise. -/
def refuse (restored : List Bool) (t : Attempt) (r : Outcome) (k : Attempt → Outcome) : Outcome :=
  match r with
  | .error f => t.retry f k
  | .ok u => giveUp { u with registers := t.registers.rollBack restored u.registers }

/-- Accepts an attempt that has come to its limit. -/
def atLimit (t : Attempt) : Outcome := if t.offset = t.limit then .ok t else t.giveUp

/-- Looks from a place, and from at most `n` places further left, for a way to the limit. -/
def lookBack (body : Walk) : Nat → Attempt → Outcome
  | 0, t => body t atLimit
  | n + 1, t =>
    match body t atLimit with
    | .ok u => .ok u
    | .error f =>
      match t.cursor.back? 1 with
      | some cursor => t.retry f fun u => lookBack body n { u with cursor }
      | none => .error f

/-- A way from between `nearest` and `farthest` characters before to the place. -/
def behindWithin (lead body : Walk) (leadSize nearest : Nat) (farthest : Option Nat) (t : Attempt) :
    Outcome :=
  match t.cursor.back? leadSize with
  | none => t.giveUp
  | some cursor =>
    match lead { t with cursor } .ok with
    | .error f => .error f
    | .ok u =>
      match t.cursor.back? nearest with
      | none => u.giveUp
      | some cursor =>
        let steps := (farthest.getD (nearest + cursor.before.length)) - nearest
        match lookBack body steps { u with cursor, limit := t.offset } with
        | .ok v => .ok { v with limit := t.limit }
        | .error f => .error f

/-- The text between two offsets, if it follows; `none` if there is no room for it. -/
def skipCaptured? (line : Text) (ignoreCase : Bool) (t : Attempt) (r : Range) :
    Option (Option Cursor) :=
  if t.limit < t.offset + r.size then none
  else
    match Text.slice? line r.start r.stop with
    | none => some t.cursor
    | some text =>
      if ignoreCase then
        some ((Cursor.skipFolded? t.limit true (text.map Unicode.fold) t.cursor).filter
          fun c => c.offset == t.offset + r.size)
      else some (t.cursor.skip? t.limit text)

/-- The place behind the text of the first group that took part and whose text follows. -/
def skipGroups? (line : Text) (ignoreCase : Bool) (t : Attempt) : List Nat → Option Cursor
  | [] => none
  | group :: rest =>
    match t.registers.range? group with
    | none => skipGroups? line ignoreCase t rest
    | some r =>
      match t.skipCaptured? line ignoreCase r with
      | none => none
      | some (some cursor) => some cursor
      | some none => skipGroups? line ignoreCase t rest

/--
The offset up to which no match of `body` is found that starts at or behind a place: every match
that is found moves it before the last character of that match. `none` if it would come before the
place. With it comes how many ways were given up.
-/
def clearUntil (body : Walk) : Nat → Attempt → Nat → Option Nat × Nat
  | 0, t, limit => (some limit, t.retries)
  | n + 1, t, limit =>
    match body { t with limit } .ok with
    | .ok u =>
      match u.cursor.back? 1 with
      | none => (none, u.retries)
      | some c => if c.offset < t.offset ∨ u.offset ≤ t.offset then (none, u.retries)
          else clearUntil body n { t with retries := u.retries } c.offset
    | .error f =>
      match t.cursor.next? limit with
      | some (_, cursor) => clearUntil body n { t with cursor, retries := f.retries } limit
      | none => (some limit, f.retries)

end Attempt

open Attempt in
/-- All ways to follow a plan, if the ways to follow the called groups are known. -/
def Plan.run (s : Search) (callee : Nat → Walk) : Plan → Walk
  | done => fun t k => k t
  | text cs => fun t k => t.goTo (t.cursor.skip? t.limit cs) k
  | folded keys single => fun t k => t.goTo (t.cursor.skipFolded? t.limit single keys) k
  | set chars => fun t k =>
    match t.cursor.next? t.limit with
    | some (x, cursor) => if chars.mem x then k { t with cursor } else t.giveUp
    | none => t.giveUp
  | anchor a => fun t k => if a.holds s.start t.cursor then k t else t.giveUp
  | seq a b => fun t k => run s callee a t fun t => run s callee b t k
  | alt a b => fun t k => t.firstOf (run s callee a · k) (run s callee b · k)
  | option body greedy => fun t k =>
    if greedy then t.firstOf (run s callee body · k) k else t.firstOf k (run s callee body · k)
  | star body greedy watch => fun t k =>
    match body, greedy with
    | set chars, true => firstPlace k (setRun chars t.limit s.turns t.cursor []) t
    | _, _ => Attempt.star (run s callee body) greedy watch s.turns t k
  | counted body least most greedy watch => fun t k =>
    Attempt.counted (run s callee body) least greedy watch (most.getD (least + s.turns)) 0 t k
  | atomic body => fun t k => commit s.restored t (run s callee body t .ok) k
  | capture group restored body => fun t k =>
    if restored then
      let old := t.registers.of group
      let entered : Register := ⟨some t.offset, none⟩
      match run s callee body { t with registers := t.registers.write group entered } fun u =>
          let closed : Register := ⟨some t.offset, some u.offset⟩
          match k { u with registers := u.registers.write group closed } with
          | .ok v => .ok v
          | .error f => .error { f with registers := f.registers.write group entered } with
      | .ok v => .ok v
      | .error f => .error { f with registers := f.registers.write group old }
    else
      let enter := fun (rs : Registers) =>
        rs.write group { rs.of group with start := some t.offset }
      run s callee body { t with registers := enter t.registers } fun u =>
        k { u with registers :=
          u.registers.write group { u.registers.of group with stop := some u.offset } }
  | ahead body => fun t k =>
    commit s.restored t (run s callee body t .ok) fun u => k { u with cursor := t.cursor }
  | notAhead body => fun t k => refuse s.restored t (run s callee body t .ok) k
  | behind size body => fun t k =>
    match t.cursor.back? size with
    | some cursor => commit s.restored t (run s callee body { t with cursor } .ok) k
    | none => t.giveUp
  | notBehind size body => fun t k =>
    match t.cursor.back? size with
    | some cursor => refuse s.restored t (run s callee body { t with cursor } .ok) k
    | none => k t
  | behindWithin leadSize lead nearest farthest body => fun t k =>
    commit s.restored t
      (Attempt.behindWithin (run s callee lead) (run s callee body) leadSize nearest farthest t) k
  | notBehindWithin leadSize lead nearest farthest body => fun t k =>
    refuse s.restored t
      (Attempt.behindWithin (run s callee lead) (run s callee body) leadSize nearest farthest t) k
  | backref groups ignoreCase => fun t k => t.goTo (t.skipGroups? s.line ignoreCase groups) k
  | tookPart groups => fun t k =>
    if groups.any fun g => (t.registers.range? g).isSome then k t else t.giveUp
  | choice condition yes no => fun t k =>
    match run s callee condition t .ok with
    | .ok u => commit s.restored t (.ok u) (run s callee yes · k)
    | .error f => t.retry f (run s callee no · k)
  | call group => callee group
  | absent body expr => fun t k =>
    match clearUntil (run s callee body) (2 * s.turns) t t.limit with
    | (some limit, retries) =>
      run s callee expr { t with limit, retries } fun u => k { u with limit := t.limit }
    | (none, retries) => giveUp { t with retries }
  | stopBefore body => fun t k =>
    match clearUntil (run s callee body) (2 * s.turns) t t.limit with
    | (some limit, retries) => k { t with limit, retries }
    | (none, retries) => giveUp { t with retries }
  | readOn => fun t k => k { t with limit := s.size }
  | keep => fun t k => k { t with kept := some t.offset }

namespace Plan

/-- How many runs of characters of one size a text has. -/
def runs : List Char → Nat
  | [] => 0
  | [_] => 1
  | a :: b :: rest => if a.utf8Size = b.utf8Size then runs (b :: rest) else runs (b :: rest) + 1

/-- The number of steps a plan is written down in; a short one is repeated by writing it again. -/
def cost : Plan → Nat
  | done => 0
  | text cs => runs cs
  | folded keys _ => keys.length
  | seq a b => a.cost + b.cost
  | alt a b => a.cost + b.cost + 2
  | option body greedy => body.cost + (if greedy then 1 else 2)
  | star body greedy watch =>
    if greedy && (body == set .notLineFeed || body == set .all) then 1
    else body.cost + (if watch.isSome then 4 else 2)
  | counted body least most _ watch =>
    body.cost + (if watch.isSome then 4 else 2) + (if least == 1 && most.isNone then 1 else 0)
  | atomic body =>
    match body with
    | star (set _) true _ => body.cost + 1
    | star (text _) true _ => body.cost + 1
    | _ => body.cost + 2
  | capture _ _ body => body.cost + 2
  | ahead body => body.cost + 2
  | notAhead body => body.cost + 5
  | behind _ body => body.cost + 3
  | notBehind _ body => body.cost + 6
  | behindWithin _ lead _ _ body => lead.cost + body.cost + 13
  | notBehindWithin _ lead _ _ body => lead.cost + body.cost + 15
  | choice c yes no => c.cost + yes.cost + no.cost + 5
  | absent body expr => body.cost + expr.cost + 12
  | stopBefore body => body.cost + 10
  | _ => 1

end Plan

end Highlighter
