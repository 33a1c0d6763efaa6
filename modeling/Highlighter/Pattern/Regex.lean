import Highlighter.Pattern.CharSet

/-!
# Regular expressions

The expressions that a pattern is read to. What is written one after the other is a `seq` that leans
to the right; an expression that stands first in its group keeps a `seq` of its own.
-/

namespace Highlighter

/-- Conditions on the place of a match. -/
inductive Anchor where
  /-- Before the first character, or behind a line feed that is not the last character. -/
  | lineStart
  /-- Behind the last character, or before a line feed. -/
  | lineEnd
  | textStart
  | textEnd
  /-- Behind the last character, or before a line feed that is the last character. -/
  | lastLineEnd
  /-- Where the search began. -/
  | searchStart
  /-- Between a word character and something else; of ASCII only if `narrow`. -/
  | wordBoundary (narrow : Bool)
  /-- Between two word characters or two others. -/
  | noWordBoundary (narrow : Bool)
  /-- Where a unit of several characters, such as a letter with its marks, ends or starts. -/
  | unitBoundary
  /-- Inside a unit of several characters. -/
  | noUnitBoundary
  deriving DecidableEq, Repr

/-- How a pattern refers to one of its groups; the group zero is the whole pattern. -/
inductive GroupRef where
  | number (n : Nat)
  | name (text : List Char)
  deriving DecidableEq, Repr

/-- A regular expression. -/
inductive Regex where
  | empty
  /-- Characters that stand for themselves. -/
  | word (text : List Char) (ignoreCase : Bool)
  /-- One character of a set. -/
  | set (s : CharSet)
  | anchor (a : Anchor)
  | seq (a b : Regex)
  | alt (a b : Regex)
  /-- At least `least` and at most `most` turns. -/
  | loop (body : Regex) (least : Nat) (most : Option Nat) (greedy : Bool)
  /-- Only the first way to match. -/
  | atomic (body : Regex)
  /-- An expression under options of its own. -/
  | optioned (body : Regex)
  | capture (group : Nat) (body : Regex)
  | ahead (body : Regex)
  | notAhead (body : Regex)
  | behind (body : Regex)
  | notBehind (body : Regex)
  /-- The text of the first of some groups that took part and whose text follows. -/
  | backref (groups : List Nat) (ignoreCase : Bool)
  /-- Nothing, where one of some groups took part. -/
  | tookPart (groups : List Nat)
  /-- The condition and what follows it, or else the other expression. -/
  | choice (condition yes no : Regex)
  /-- Another match of a group's expression. -/
  | call (target : GroupRef)
  /-- An expression in whose match `body` does not match. -/
  | absent (body expr : Regex)
  /-- From here on, nothing is read that `body` matches in. -/
  | stopBefore (body : Regex)
  /-- From here on, everything may be read again. -/
  | readOn
  /-- The match is reported from here on. -/
  | keep
  deriving DecidableEq, Repr, Inhabited

namespace Regex

/-- Nothing at all. -/
def fail : Regex := set .none

/-- The expressions that follow each other in an expression. -/
def parts : Regex → List Regex
  | seq a b => a :: b.parts
  | r => [r]

/-- Expressions one after the other; neighbouring words of one kind are joined. -/
def join : List Regex → Regex
  | [] => empty
  | [r] => r
  | r :: rest =>
    match r, join rest with
    | word a i, word b j => if i = j then word (a ++ b) i else seq r (word b j)
    | word a i, seq (word b j) c =>
      if i = j then seq (word (a ++ b) i) c else seq r (seq (word b j) c)
    | r, tail => seq r tail

/-- Expressions one after the other, where all but the first are taken apart. -/
def branch : List Regex → Regex
  | [] => empty
  | r :: rest => join (r :: rest.flatMap parts)

/-- Whether an expression is an anchor or offers one as an alternative, so that no loop takes it. -/
def isUnrepeatable : Regex → Bool
  | anchor _ => true
  | ahead _ => true
  | notAhead _ => true
  | behind _ => true
  | notBehind _ => true
  | keep => true
  | stopBefore _ => true
  | readOn => true
  | alt a b => a.isUnrepeatable || b.isUnrepeatable
  | _ => false

/-- The subexpressions, itself first. -/
def nodes : Regex → List Regex
  | seq a b => seq a b :: a.nodes ++ b.nodes
  | alt a b => alt a b :: a.nodes ++ b.nodes
  | loop body least most greedy => loop body least most greedy :: body.nodes
  | atomic body => atomic body :: body.nodes
  | optioned body => optioned body :: body.nodes
  | capture n body => capture n body :: body.nodes
  | ahead body => ahead body :: body.nodes
  | notAhead body => notAhead body :: body.nodes
  | behind body => behind body :: body.nodes
  | notBehind body => notBehind body :: body.nodes
  | choice c a b => choice c a b :: c.nodes ++ a.nodes ++ b.nodes
  | absent body expr => absent body expr :: body.nodes ++ expr.nodes
  | stopBefore body => stopBefore body :: body.nodes
  | r => [r]

/-- The groups that back-references and conditions name. -/
def referenced (r : Regex) : List Nat :=
  r.nodes.flatMap fun
    | backref groups _ => groups
    | tookPart groups => groups
    | _ => []

/-- The groups that are called. -/
def called (r : Regex) : List Nat :=
  r.nodes.filterMap fun
    | call (.number n) => some n
    | _ => none

/-- The groups of an expression with what they enclose. -/
def captures (r : Regex) : List (Nat × Regex) :=
  r.nodes.filterMap fun
    | capture n body => some (n, body)
    | _ => none

end Regex

end Highlighter
