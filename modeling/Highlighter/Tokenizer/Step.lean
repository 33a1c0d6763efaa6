import Highlighter.Event
import Highlighter.Tokenizer.Cache
import Highlighter.Tokenizer.Piece

/-!
# Tokenizing a line

A line is tokenized step by step. A step takes the winning rule of the active state, passes over the
text before the match, styles the match and applies the transition of the rule to the context stack.
A match without text that changes nothing passes over one more character. The line is done when no
rule matches any more. Steps are limited, so that contexts that open and close without reading
anything are reported instead of running forever.
-/

namespace Highlighter

/-- What is wrong with a grammar, as it shows while highlighting. -/
inductive HighlightFailure where
  | unknownState (state states : Nat)
  | noProgress (line : Nat)
  deriving DecidableEq, Repr

/-- The wording of a failure. -/
def HighlightFailure.message : HighlightFailure → String
  | .unknownState state states =>
    s!"transition into unknown state {state} (grammar has {states} states)"
  | .noProgress line => s!"highlighting made no progress on line {line} (zero-width match loop)"

/-- An open context: the state that was entered and the rule that entered it. -/
structure Context where
  rule : Rule
  state : Nat

/-- Open contexts, the innermost first. -/
abbrev ContextStack := List Context

namespace ContextStack

/-- The active state: that of the innermost context, or the root. -/
def state : List Context → Nat
  | [] => 0
  | c :: _ => c.state

/-- The style that the innermost context lends to text without one. -/
def inherited : List Context → Option String
  | [] => none
  | c :: _ =>
    match c.rule.kind with
    | .environment => c.rule.style.inherited
    | .state => none

/-- The contexts after a rule has matched, and what is reported about it. -/
def transition (table : Table) (stack : List Context) (rule : Rule) :
    Except HighlightFailure (List Context × List Event) :=
  match rule.transition with
  | .stay => .ok (stack, [])
  | .pop => .ok (stack.tail, [.pop stack.tail.length])
  | .popAll => .ok ([], [.popAll])
  | .push state =>
    match table.state? state with
    | none => .error (.unknownState state table.size)
    | some _ => .ok (⟨rule, state⟩ :: stack, [.push state (stack.length + 1)])

end ContextStack

/-- How far the tokenizer has come in a line. -/
structure Progress (σ : Type) where
  position : Nat
  stack : ContextStack
  memory : σ

/-- What one step does. -/
inductive Step (σ : Type) where
  /-- The line goes on: the pieces of this step, its events, and how far it has come. -/
  | next (pieces : List Piece) (events : List Event) (after : Progress σ)
  /-- The line is done. -/
  | done (pieces : List Piece) (memory : σ)
  /-- The grammar is defective. -/
  | fail (failure : HighlightFailure)

/-- The pieces of a step up to the end of its match. -/
def Progress.pieces {σ : Type} (s : Progress σ) (rule : Rule) (r : Match) : List Piece :=
  let fallback := ContextStack.inherited s.stack
  Piece.ofSize (r.start - s.position) fallback ++ Piece.ofMatch fallback rule.style r

/-- What happens behind a match: its pieces, and how the line goes on. -/
def Progress.advance {σ : Type} (s : Progress σ) (table : Table) (line : Text) (rule : Rule)
    (r : Match) (memory : σ) : Step σ :=
  let pieces := s.pieces rule r
  if r.range.isEmpty ∧ rule.transition = .stay then
    match Text.charAt? line r.stop with
    | none => .done pieces memory
    | some c =>
      let pieces := pieces ++ Piece.ofSize c.utf8Size (ContextStack.inherited s.stack)
      .next pieces [] ⟨s.position + Piece.total pieces, s.stack, memory⟩
  else
    match ContextStack.transition table s.stack rule with
    | .error failure => .fail failure
    | .ok (stack, events) =>
      .next pieces events ⟨s.position + Piece.total pieces, stack, memory⟩

/-- One step of the tokenizer in a line. -/
def Progress.step {σ : Type} (arbiter : Arbiter σ) (table : Table) (line : Text)
    (s : Progress σ) : Step σ :=
  let index := ContextStack.state s.stack
  match table.state? index with
  | none => .fail (.unknownState index table.size)
  | some rules =>
    match arbiter.choose s.memory index rules line s.position with
    | (none, memory) =>
      .done (Piece.ofSize (Text.size line - s.position) (ContextStack.inherited s.stack)) memory
    | (some (rule, r), memory) => s.advance table line rule r memory

/-- What came of a line: its pieces, its events, and the contexts and memory that it leaves. -/
structure LineReport (σ : Type) where
  pieces : List Piece
  events : List Event
  outcome : Except HighlightFailure (ContextStack × σ)

/-- Makes at most `limit` steps in the line with a number. -/
def Progress.run {σ : Type} (arbiter : Arbiter σ) (table : Table) (number : Nat) (line : Text) :
    Nat → Progress σ → LineReport σ
  | 0, _ => ⟨[], [], .error (.noProgress number)⟩
  | limit + 1, s =>
    match s.step arbiter table line with
    | .fail failure => ⟨[], [], .error failure⟩
    | .done pieces memory => ⟨pieces, [], .ok (s.stack, memory)⟩
    | .next pieces events s =>
      let rest := run arbiter table number line limit s
      ⟨pieces ++ rest.pieces, events ++ rest.events, rest.outcome⟩

/-- The number of steps that a line may take. -/
def stepLimit (line : Text) : Nat := max ((Text.size line + 1) * 32) 128

/-- Tokenizes the line with a number. -/
def tokenizeLine {σ : Type} (arbiter : Arbiter σ) (table : Table) (number : Nat) (line : Text)
    (stack : ContextStack) (memory : σ) : LineReport σ :=
  Progress.run arbiter table number line (stepLimit line) ⟨0, stack, arbiter.newLine memory⟩

end Highlighter
