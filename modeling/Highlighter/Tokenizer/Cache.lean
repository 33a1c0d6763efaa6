import Highlighter.Grammar.Table

/-!
# Finding the winning rule

Among the rules of a lexical state the match that starts first wins, and of those that start
together the one of the rule with the higher priority. An `Arbiter` finds the winner, possibly with
the help of what it remembers. `Arbiter.cached` remembers the last match of every rule within a line
and searches again only when that match lies behind; `Arbiter.plain` searches all rules every time.
-/

namespace Highlighter

/-- A way to find the winner among the rules of a state, with a memory of type `σ`. -/
structure Arbiter (σ : Type) where
  /-- What remains of the memory when a new line begins. -/
  newLine : σ → σ
  /-- The winner among the rules of the state with an index, from a place in a line on. -/
  choose : σ → Nat → LexicalState → Text → Nat → Option (Rule × Match) × σ

/-- A rule, by the index of its state and its own index there. -/
structure RuleKey where
  state : Nat
  rule : Nat
  deriving DecidableEq, Repr

/-- The last search of every rule in a line, and the number of searches so far. -/
structure Cache where
  entries : List (RuleKey × Option Match) := []
  searches : Nat := 0
  deriving Inhabited

namespace Cache

/-- Forgets all searches, but not their number. -/
def clear (c : Cache) : Cache := { c with entries := [] }

/-- Remembers the result of a search and counts it. -/
def record (c : Cache) (key : RuleKey) (r : Option Match) : Cache :=
  ⟨(key, r) :: c.entries.filter (fun e => e.1 != key), c.searches + 1⟩

/-- Whether a search from a place on has to be made, and was not answered before. -/
def isStale (c : Cache) (key : RuleKey) (pos : Nat) : Bool :=
  match c.entries.lookup key with
  | none => true
  | some none => false
  | some (some r) => r.start < pos

/-- The first match from a place on, searched for only if it is not known. -/
def find (c : Cache) (key : RuleKey) (m : Matcher) (line : Text) (pos : Nat) :
    Option Match × Cache :=
  if c.isStale key pos then
    let r := m.find line pos
    (r, c.record key r)
  else ((c.entries.lookup key).join, c)

/-- Whether a match starts before the best one so far. -/
def improves (best : Option (Rule × Match)) (r : Match) : Bool :=
  match best with
  | none => true
  | some (_, b) => r.start < b.start

/--
The winner among the rules from index `i` on and the best so far. A match at the very place of the
search ends it.
-/
def chooseFrom (state : Nat) (line : Text) (pos : Nat) (i : Nat) (best : Option (Rule × Match))
    (c : Cache) : List Rule → Option (Rule × Match) × Cache
  | [] => (best, c)
  | rule :: rules =>
    match c.find ⟨state, i⟩ rule.matcher line pos with
    | (none, c) => chooseFrom state line pos (i + 1) best c rules
    | (some r, c) =>
      if improves best r then
        if r.start = pos then (some (rule, r), c)
        else chooseFrom state line pos (i + 1) (some (rule, r)) c rules
      else chooseFrom state line pos (i + 1) best c rules

end Cache

/-- The match that starts first; of those that start together, the first in the list. -/
def earliest : List (Rule × Match) → Option (Rule × Match)
  | [] => none
  | c :: cs =>
    match earliest cs with
    | none => some c
    | some d => if d.2.start < c.2.start then some d else some c

/-- Remembers the last match of every rule within a line. -/
def Arbiter.cached : Arbiter Cache where
  newLine := Cache.clear
  choose c state rules line pos := Cache.chooseFrom state line pos 0 none c rules

/-- Searches all rules of the state every time. -/
def Arbiter.plain : Arbiter Unit where
  newLine := id
  choose _ _ rules line pos :=
    (earliest (rules.filterMap fun rule => (rule.matcher.find line pos).map (rule, ·)), ())

end Highlighter
