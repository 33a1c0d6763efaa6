import Mathlib.Tactic.Lemma
import Highlighter.Tokenizer.Highlight

/-!
# All that a step can do

`Progress.Takes` lists the outcomes of a step, each with what has led to it. Whatever is kept by the
steps of a line can be shown case by case from it, without a look at how a step is computed.

The memory of the arbiter has no part in a step but for the choice of the winner. So two arbiters
that choose alike, each with its own memory, make the same steps (`Progress.mapMemory_step`).
-/

namespace Highlighter

/-- A transition fails only if it opens a context in a state that the grammar does not have. -/
lemma ContextStack.transition_eq_error {table : Table} {stack : List Context} {rule : Rule}
    {failure : HighlightFailure} (h : transition table stack rule = .error failure) :
    ∃ state, rule.transition = .push state ∧ table.state? state = none ∧
      failure = .unknownState state table.size := by
  unfold transition at h
  cases moved : rule.transition with
  | stay => simp [moved] at h
  | pop => simp [moved] at h
  | popAll => simp [moved] at h
  | push state =>
    cases known : table.state? state with
    | none => exact ⟨state, rfl, known, by simpa [moved, known] using h.symm⟩
    | some rules => simp [moved, known] at h

namespace Progress

variable {σ : Type} (arbiter : Arbiter σ) (table : Table) (line : Text)

/-- A rule of the active state wins with a match, and leaves a memory. -/
structure Wins (s : Progress σ) (rules : LexicalState) (rule : Rule) (r : Match) (memory : σ) :
    Prop where
  state : table.state? (ContextStack.state s.stack) = some rules
  chosen : arbiter.choose s.memory (ContextStack.state s.stack) rules line s.position
    = (some (rule, r), memory)

/-- What a step can do, and when it does so. -/
inductive Takes (s : Progress σ) : Step σ → Prop where
  /-- The grammar does not have the active state. -/
  | lost :
    table.state? (ContextStack.state s.stack) = none →
    Takes s (.fail (.unknownState (ContextStack.state s.stack) table.size))
  /-- No rule matches. -/
  | rest {rules : LexicalState} {memory : σ} :
    table.state? (ContextStack.state s.stack) = some rules →
    arbiter.choose s.memory (ContextStack.state s.stack) rules line s.position = (none, memory) →
    Takes s (.done (Piece.ofSize (Text.size line - s.position) (ContextStack.inherited s.stack))
      memory)
  /-- Nothing is read and nothing changes: the next character is passed over. -/
  | skip {rules : LexicalState} {rule : Rule} {r : Match} {memory : σ} {c : Char} :
    Wins arbiter table line s rules rule r memory →
    r.range.isEmpty ∧ rule.transition = .stay →
    Text.charAt? line r.stop = some c →
    Takes s (.next (s.pieces rule r ++ Piece.ofSize c.utf8Size (ContextStack.inherited s.stack)) []
      ⟨s.position + Piece.total
        (s.pieces rule r ++ Piece.ofSize c.utf8Size (ContextStack.inherited s.stack)),
        s.stack, memory⟩)
  /-- Nothing is read and nothing changes, and there is no next character. -/
  | last {rules : LexicalState} {rule : Rule} {r : Match} {memory : σ} :
    Wins arbiter table line s rules rule r memory →
    r.range.isEmpty ∧ rule.transition = .stay →
    Text.charAt? line r.stop = none →
    Takes s (.done (s.pieces rule r) memory)
  /-- The match is read, and the transition is made. -/
  | move {rules : LexicalState} {rule : Rule} {r : Match} {memory : σ} {stack : ContextStack}
      {events : List Event} :
    Wins arbiter table line s rules rule r memory →
    ¬ (r.range.isEmpty ∧ rule.transition = .stay) →
    ContextStack.transition table s.stack rule = .ok (stack, events) →
    Takes s (.next (s.pieces rule r) events
      ⟨s.position + Piece.total (s.pieces rule r), stack, memory⟩)
  /-- The rule opens a context in a state that the grammar does not have. -/
  | stray {rules : LexicalState} {rule : Rule} {r : Match} {memory : σ} {state : Nat} :
    Wins arbiter table line s rules rule r memory →
    rule.transition = .push state →
    table.state? state = none →
    Takes s (.fail (.unknownState state table.size))

/-- A step does one of these. -/
lemma takes_step (s : Progress σ) : Takes arbiter table line s (s.step arbiter table line) := by
  unfold step
  dsimp only
  split
  · next unknown => exact .lost unknown
  · next rules state =>
    split
    · next memory chosen => exact .rest state chosen
    · next rule r memory chosen =>
      have wins : Wins arbiter table line s rules rule r memory := ⟨state, chosen⟩
      unfold advance
      dsimp only
      split
      · next idle =>
        split
        · next none => exact .last wins idle none
        · next c here => exact .skip wins idle here
      · next moves =>
        split
        · next failure failed =>
          obtain ⟨target, push, unknown, rfl⟩ := ContextStack.transition_eq_error failed
          exact .stray wins push unknown
        · next stack events moved => exact .move wins moves moved

/-- A step fails only for a state that the grammar does not have. -/
lemma exists_unknownState {arbiter : Arbiter σ} {table : Table} {line : Text} {s : Progress σ}
    {failure : HighlightFailure} (h : s.step arbiter table line = .fail failure) :
    ∃ state, failure = .unknownState state table.size := by
  have takes := takes_step arbiter table line s
  rw [h] at takes
  cases takes with
  | lost => exact ⟨_, rfl⟩
  | @stray _ _ _ _ state => exact ⟨state, rfl⟩

end Progress

/-! ## Another memory -/

section

variable {σ τ : Type} (f : σ → τ)

/-- How far a line has come, with what becomes of the memory. -/
def Progress.mapMemory (s : Progress σ) : Progress τ := ⟨s.position, s.stack, f s.memory⟩

/-- What a step does, with what becomes of the memory. -/
def Step.mapMemory : Step σ → Step τ
  | .next pieces events after => .next pieces events (after.mapMemory f)
  | .done pieces memory => .done pieces (f memory)
  | .fail failure => .fail failure

/-- What came of a line, with what becomes of the memory. -/
def LineReport.mapMemory (r : LineReport σ) : LineReport τ :=
  ⟨r.pieces, r.events, r.outcome.map fun left => (left.1, f left.2)⟩

/-- What came of a text, with what becomes of the memory. -/
def TextReport.mapMemory (r : TextReport σ) : TextReport τ :=
  ⟨r.lines, r.events, r.outcome.map fun left => (left.1, f left.2)⟩

namespace Progress

variable (s : Progress σ) (table : Table) (line : Text)

/-- What happens behind a match does not depend on the memory. -/
lemma mapMemory_advance (rule : Rule) (r : Match) (memory : σ) :
    (s.advance table line rule r memory).mapMemory f
      = (s.mapMemory f).advance table line rule r (f memory) := by
  unfold advance
  dsimp only [pieces, mapMemory]
  split
  · split
    · rfl
    · rfl
  · split
    · rfl
    · rfl

/-- Arbiters that choose alike make the same step. -/
lemma mapMemory_step {arbiter : Arbiter σ} {arbiter' : Arbiter τ}
    (alike : ∀ rules, table.state? (ContextStack.state s.stack) = some rules →
      let chosen := arbiter.choose s.memory (ContextStack.state s.stack) rules line s.position
      arbiter'.choose (f s.memory) (ContextStack.state s.stack) rules line s.position
        = (chosen.1, f chosen.2)) :
    (s.step arbiter table line).mapMemory f = (s.mapMemory f).step arbiter' table line := by
  unfold step
  dsimp only [mapMemory] at alike ⊢
  split
  · rfl
  · next rules state =>
    rw [alike rules state]
    generalize arbiter.choose _ _ _ _ _ = chosen
    obtain ⟨winner, memory⟩ := chosen
    cases winner with
    | none => rfl
    | some c => exact s.mapMemory_advance f table line c.1 c.2 memory

end Progress

end

end Highlighter
