import Highlighter.Proofs.Tokenizer.Pieces

/-!
# Grammars that keep to some stacks

A table is confined to some trails, the states of a stack from the innermost on, if its transitions
stay among them and none of its rules can be applied forever: a rule reads something or closes a
context (`Table.Confined`). Then every step lowers twice the number of bytes left to read plus the
number of open contexts, because a match of at least one byte opens at most one context. The limit
of steps is far above this number, so a line never runs into it, and the line is done only in a
state none of whose rules is found everywhere. From lines this carries over to texts, so that
`highlight` never fails and every line leaves one of the trails of rest.
-/

namespace Highlighter

/-- What a transition makes of the states of the open contexts. -/
def Transition.apply : Transition → List Nat → List Nat
  | stay, trail => trail
  | pop, trail => trail.tail
  | popAll, _ => []
  | push state, trail => state :: trail

/-- A transition opens at most one context. -/
lemma Transition.length_apply_le (t : Transition) (trail : List Nat) :
    (t.apply trail).length ≤ trail.length + 1 := by
  cases t <;> simp [apply]
  omega

/-- Matches are never empty. -/
def Matcher.Reads (m : Matcher) : Prop :=
  ∀ line n r, Text.IsBoundary line n → m.find line n = some r → r.start < r.stop

/-- There is a match at or behind every place of every line. -/
def Matcher.FoundEverywhere (m : Matcher) : Prop :=
  ∀ line n, Text.IsBoundary line n → ∃ r, m.find line n = some r

namespace ContextStack

/-- The states of the open contexts, the innermost first. -/
def trail (stack : List Context) : List Nat := stack.map Context.state

/-- A trail has a state for each context. -/
lemma length_trail (stack : List Context) : (trail stack).length = stack.length := List.length_map _

/-- The active state is the first one of the trail. -/
lemma state_eq (stack : List Context) : state stack = (trail stack).headD 0 := by
  cases stack <;> rfl

/-- A transition whose target exists succeeds, and does to the states what it says. -/
lemma exists_transition {table : Table} {rule : Rule} (stack : List Context)
    (known : (table.state? ((rule.transition.apply (trail stack)).headD 0)).isSome) :
    ∃ after events, transition table stack rule = .ok (after, events) ∧
      trail after = rule.transition.apply (trail stack) := by
  unfold transition
  cases t : rule.transition with
  | stay => exact ⟨stack, _, rfl, rfl⟩
  | pop => exact ⟨stack.tail, _, rfl, List.map_tail⟩
  | popAll => exact ⟨[], _, rfl, rfl⟩
  | push target =>
    rw [t] at known
    obtain ⟨rules, state⟩ := Option.isSome_iff_exists.1 known
    have state : table.state? target = some rules := state
    refine ⟨⟨rule, target⟩ :: stack, [.push target (stack.length + 1)], ?_, rfl⟩
    simp only [state]

end ContextStack

/--
The transitions of a grammar stay among some trails, and a line that is done leaves a trail of rest.
Rules read something or close a context.
-/
structure Table.Confined (table : Table) (trails rests : List (List Nat)) : Prop where
  sound : ∀ line, table.SoundOn line
  root : [] ∈ rests
  subset : rests ⊆ trails
  shallow : ∀ trail ∈ trails, trail.length < 32
  known : ∀ trail ∈ trails, (table.state? (trail.headD 0)).isSome
  closed : ∀ trail ∈ trails, ∀ rules, table.state? (trail.headD 0) = some rules →
    ∀ rule ∈ rules, rule.transition.apply trail ∈ trails ∧
      (rule.matcher.Reads ∨ rule.transition = .pop ∧ trail ≠ [])
  resting : ∀ trail ∈ trails, ∀ rules, table.state? (trail.headD 0) = some rules →
    (∀ rule ∈ rules, ¬ rule.matcher.FoundEverywhere) → trail ∈ rests

namespace Progress

/-- A bound on the steps that are left in a line. -/
def remaining {σ : Type} (line : Text) (s : Progress σ) : Nat :=
  2 * (Text.size line - s.position) + s.stack.length

/-- A step that stays among the trails and comes closer to the end, where it rests. -/
inductive Keeps {σ : Type} (trails rests : List (List Nat)) (line : Text) (s : Progress σ) :
    Step σ → Prop where
  | next {pieces : List Piece} {events : List Event} {after : Progress σ} :
    ContextStack.trail after.stack ∈ trails →
    after.remaining line < s.remaining line →
    Keeps trails rests line s (.next pieces events after)
  | done {pieces : List Piece} {memory : σ} :
    ContextStack.trail s.stack ∈ rests →
    Keeps trails rests line s (.done pieces memory)

end Progress

namespace Table.Confined

variable {table : Table} {trails rests : List (List Nat)} (confined : table.Confined trails rests)
include confined

/-- Behind a match the line goes on, with less left to do. -/
lemma keeps_advance {line : Text} {s : Progress Cache} {rules : LexicalState} {rule : Rule}
    {r : Match} (trail : ContextStack.trail s.stack ∈ trails)
    (state : table.state? (ContextStack.state s.stack) = some rules) (mem : rule ∈ rules)
    (answers : rule.matcher.Answers line s.position (some r)) (memory : Cache) :
    s.Keeps trails rests line (s.advance table line rule r memory) := by
  have fits := answers.fits (confined.sound line rule (Table.mem_rules state mem))
  have reached := (Progress.fit_pieces fits rule).2
  have from_position := fits.le_start
  have forward := fits.start_le_stop
  have inside := fits.stop.le_size
  rw [ContextStack.state_eq] at state
  obtain ⟨stays, reads_or_pops⟩ := confined.closed _ trail rules state rule mem
  obtain ⟨stack, events, moved, trail'⟩ :=
    ContextStack.exists_transition s.stack (confined.known _ stays)
  have depth := congrArg List.length trail'
  rw [ContextStack.length_trail] at depth
  -- a rule that reads opens at most one context, and one that need not read closes one
  have fewer : r.start < r.stop ∧ stack.length ≤ s.stack.length + 1 ∨
      rule.transition = .pop ∧ stack.length < s.stack.length := by
    rcases reads_or_pops with reads | ⟨pops, nonempty⟩
    · obtain ⟨n, _, hn, found, _⟩ := answers
      refine .inl ⟨reads line n r hn found, ?_⟩
      rw [depth, ← ContextStack.length_trail s.stack]
      exact Transition.length_apply_le _ _
    · refine .inr ⟨pops, ?_⟩
      rw [depth, pops, Transition.apply, List.length_tail, ← ContextStack.length_trail s.stack]
      exact Nat.sub_lt (List.length_pos_of_ne_nil nonempty) Nat.one_pos
  have changes : ¬ (r.range.isEmpty ∧ rule.transition = .stay) := by
    rintro ⟨empty, stay⟩
    rcases fewer with ⟨some, _⟩ | ⟨pops, _⟩
    · exact Nat.not_lt.2 (of_decide_eq_true empty) some
    · cases pops.symm.trans stay
  unfold Progress.advance
  dsimp only
  rw [if_neg changes, moved]
  refine .next (trail' ▸ stays) ?_
  unfold Progress.remaining
  dsimp only
  rw [reached]
  rcases fewer with ⟨some, least⟩ | ⟨_, least⟩
  · omega
  · omega

/-- A step keeps to the trails, whether a rule wins or the line is done. -/
lemma keeps_step {line : Text} {s : Progress Cache} (proper : s.Proper table line)
    (trail : ContextStack.trail s.stack ∈ trails) :
    s.Keeps trails rests line (s.step .cached table line) := by
  have index := ContextStack.state_eq s.stack
  obtain ⟨rules, state⟩ := Option.isSome_iff_exists.1 (confined.known _ trail)
  rw [← index] at state
  unfold Progress.step
  dsimp only
  rw [state]
  dsimp only [Arbiter.cached]
  split
  · next memory chosen =>
    -- no rule has a match, so none is found everywhere
    have lost := congrArg Prod.fst chosen
    obtain ⟨_, missed⟩ := proper.explained.chooseFrom_none proper.boundary state
      List.drop_zero lost
    refine .done (confined.resting _ trail rules (index ▸ state) fun rule mem found => ?_)
    obtain ⟨n, _, hn, miss, _⟩ := missed rule mem
    obtain ⟨r, hit⟩ := found line n hn
    cases miss.symm.trans hit
  · next rule r memory chosen =>
    have won := congrArg Prod.fst chosen
    rcases (proper.explained.chooseFrom proper.boundary state List.drop_zero none).2 rule r won
      with none | ⟨mem, answers⟩
    · cases none
    · exact confined.keeps_advance trail state mem answers memory

/-- Enough steps bring a line to its end, at rest. -/
lemma exists_run {line : Text} {s : Progress Cache} (proper : s.Proper table line)
    (trail : ContextStack.trail s.stack ∈ trails) (number : Nat) {limit : Nat}
    (enough : s.remaining line < limit) :
    ∃ stack memory, (s.run .cached table number line limit).outcome = .ok (stack, memory) ∧
      ContextStack.trail stack ∈ rests := by
  induction limit generalizing s with
  | zero => exact absurd enough (Nat.not_lt_zero _)
  | succ limit ih =>
    have keeps := confined.keeps_step proper trail
    have proper' : ∀ pieces events after, s.step .cached table line = .next pieces events after →
        after.Proper table line := fun _ _ _ => proper.next (confined.sound line)
    rw [Progress.run]
    generalize s.step .cached table line = step at keeps proper'
    cases keeps with
    | @next pieces events after trail' less =>
      exact ih (proper' pieces events after rfl) trail' (by omega)
    | @done pieces memory rest => exact ⟨s.stack, memory, rfl, rest⟩

/-- A line that is begun at rest is tokenized, and leaves the contexts at rest. -/
lemma exists_tokenizeLine {stack : ContextStack} (rest : ContextStack.trail stack ∈ rests)
    (number : Nat) (line : Text) (memory : Cache) :
    ∃ stack' memory',
      (tokenizeLine .cached table number line stack memory).outcome = .ok (stack', memory') ∧
        ContextStack.trail stack' ∈ rests := by
  have trail := confined.subset rest
  refine confined.exists_run (Progress.proper_start table line stack memory) trail number ?_
  have shallow := confined.shallow _ trail
  rw [ContextStack.length_trail] at shallow
  unfold Progress.remaining stepLimit
  dsimp only
  omega

/-- Lines leave a trail of rest. -/
theorem exists_tokenizeLines {stack : ContextStack} (rest : ContextStack.trail stack ∈ rests)
    (number : Nat) (memory : Cache) (lines : List Line) :
    ∃ stack' memory',
      (tokenizeLines .cached table number stack memory lines).outcome = .ok (stack', memory') ∧
        ContextStack.trail stack' ∈ rests := by
  induction lines generalizing number stack memory with
  | nil => exact ⟨stack, memory, rfl, rest⟩
  | cons line lines ih =>
    obtain ⟨stack', memory', first, rest'⟩ :=
      confined.exists_tokenizeLine rest number line.content memory
    rw [tokenizeLines]
    dsimp only
    rw [first]
    exact ih rest' (number + 1) memory'

/-- A confined grammar highlights every text. -/
theorem exists_highlight (classPrefix : String) (text : Text) :
    ∃ tags, highlight table classPrefix text = .ok tags := by
  have root : ContextStack.trail [] ∈ rests := confined.root
  obtain ⟨stack, cache, outcome, _⟩ := confined.exists_tokenizeLines root 0 {} (physicalLines text)
  unfold highlight highlightWithEvents tokenize
  dsimp only
  rw [outcome]
  exact ⟨_, rfl⟩

end Table.Confined

/-- Lines behind others are tokenized from where those have left off. -/
lemma outcome_tokenizeLines_append {σ : Type} {arbiter : Arbiter σ} {table : Table}
    {number : Nat} {stack stack' : ContextStack} {memory memory' : σ} {lines : List Line}
    (h : (tokenizeLines arbiter table number stack memory lines).outcome = .ok (stack', memory'))
    (more : List Line) :
    (tokenizeLines arbiter table number stack memory (lines ++ more)).outcome =
      (tokenizeLines arbiter table (number + lines.length) stack' memory' more).outcome := by
  rw [tokenizeLines_append, TextReport.andThen, h]

end Highlighter
