import Highlighter.Grammar.Matcher

/-!
# Grammar tables

A grammar table is a list of lexical states, the first of which is the root; a state is a list of
rules in the order of their priority. A rule says what it matches, how the match is styled, what
happens to the context stack afterwards and whether a context that it opens lends its style to the
text inside.
-/

namespace Highlighter

/-- What a rule does to the context stack. -/
inductive Transition where
  | stay
  | pop
  | popAll
  | push (state : Nat)
  deriving DecidableEq, Repr, Inhabited

/-- The transition that a number stands for. -/
def Transition.ofCode? (code : Int) : Option Transition :=
  match code with
  | .ofNat n => some (.push n)
  | .negSucc 0 => some .stay
  | .negSucc 1 => some .pop
  | .negSucc 2 => some .popAll
  | .negSucc _ => none

/-- How a match is styled: as a whole, or each capture group by itself. -/
inductive Style where
  | whole (name : String)
  | groups (names : List (Option String))
  deriving DecidableEq, Repr, Inhabited

/-- The style that a context lends to text without one. -/
def Style.inherited : Style → Option String
  | .whole name => some name
  | .groups _ => none

/-- Whether the context of a rule lends its style to the text inside. -/
inductive ContextKind where
  | state
  | environment
  deriving DecidableEq, Repr, Inhabited

/-- A rule of a lexical state. -/
structure Rule where
  matcher : Matcher
  style : Style
  transition : Transition
  kind : ContextKind

/-- A lexical state: its rules, those of higher priority first. -/
abbrev LexicalState := List Rule

/-- A grammar: at least one lexical state, the root first. -/
structure Table where
  name : Option String
  states : List LexicalState
  nonempty : states ≠ []

namespace Table

/-- Number of lexical states. -/
def size (t : Table) : Nat := t.states.length

/-- The lexical state with an index. -/
def state? (t : Table) (i : Nat) : Option LexicalState := t.states[i]?

/-- All rules of a grammar. -/
def rules (t : Table) : List Rule := t.states.flatten

end Table

end Highlighter
