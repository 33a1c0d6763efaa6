import Highlighter.Tokenizer.Highlight

/-!
# Highlighting that is interrupted

A search that is given up has no result, and highlighting cannot go on behind it. `Arbiter.guarded`
makes the searches that `Arbiter.cached` makes. When one of them is given up it loses its memory for
good and finds nothing any more, and `highlight?` has no result.
-/

namespace Highlighter

namespace Cache

/-- The first match from a place on, unless the search that it takes is given up. -/
def find? (c : Cache) (key : RuleKey) (m : Matcher) (line : Text) (pos : Nat) :
    Option (Option Match × Cache) :=
  if c.isStale key pos && m.givesUp line pos then none else some (c.find key m line pos)

/-- The winner that `chooseFrom` finds, unless a search on the way to it is given up. -/
def chooseFrom? (state : Nat) (line : Text) (pos : Nat) (i : Nat) (best : Option (Rule × Match))
    (c : Cache) : List Rule → Option (Option (Rule × Match) × Cache)
  | [] => some (best, c)
  | rule :: rules =>
    match c.find? ⟨state, i⟩ rule.matcher line pos with
    | none => none
    | some (none, c) => chooseFrom? state line pos (i + 1) best c rules
    | some (some r, c) =>
      if improves best r then
        if r.start = pos then some (some (rule, r), c)
        else chooseFrom? state line pos (i + 1) (some (rule, r)) c rules
      else chooseFrom? state line pos (i + 1) best c rules

end Cache

/-- Remembers what `Arbiter.cached` remembers, and nothing once a search was given up. -/
def Arbiter.guarded : Arbiter (Option Cache) where
  newLine := Option.map Cache.clear
  choose memory state rules line pos :=
    match memory.bind fun c => Cache.chooseFrom? state line pos 0 none c rules with
    | some (winner, c) => (winner, some c)
    | none => (none, none)

/-- The result of `highlight`, unless a search on the way to it is given up. -/
def highlight? (table : Table) (classPrefix : String) (text : Text) :
    Option (Except HighlightFailure (List Tag)) :=
  let report := tokenize .guarded table (some {}) text
  match report.outcome with
  | .error failure => some (.error failure)
  | .ok (_, none) => none
  | .ok (_, some _) => some (.ok (report.tags classPrefix))

end Highlighter
