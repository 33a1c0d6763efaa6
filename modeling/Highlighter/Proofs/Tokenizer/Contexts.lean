import Highlighter.Proofs.Tokenizer.Cache
import Highlighter.Proofs.Tokenizer.Runs
import Highlighter.Proofs.Tokenizer.Step

/-!
# Where contexts come from

The rules that open contexts make a graph of the states of a grammar. Open contexts are a path in it
that starts at the root (`ContextStack.IsPath`), whatever the tokenizer has read (`Reached.isPath`).
So the active state always exists, and the only states that can be missing are those that a rule
asks for. Nothing is assumed about the matchers. The main result is `contexts_follow_pushes`.
-/

namespace Highlighter

namespace ContextStack

/-- Contexts each of which is opened by a rule of the state below it. -/
inductive IsPath (table : Table) : List Context → Prop where
  | root : IsPath table []
  | push {below : List Context} {rules : LexicalState} {rule : Rule} {state : Nat} :
    IsPath table below →
    table.state? (ContextStack.state below) = some rules →
    rule ∈ rules →
    rule.transition = .push state →
    state < table.size →
    IsPath table (⟨rule, state⟩ :: below)

variable {table : Table} {stack stack' : List Context}

/-- Closing a context leaves a path. -/
lemma IsPath.tail (h : IsPath table stack) : IsPath table stack.tail := by
  cases h with
  | root => exact .root
  | push below => exact below

/-- The active state is one of the grammar. -/
lemma IsPath.exists_state (h : IsPath table stack) :
    ∃ rules, table.state? (ContextStack.state stack) = some rules := by
  cases h with
  | root =>
    have inside : 0 < table.states.length := List.length_pos_of_ne_nil table.nonempty
    exact ⟨_, List.getElem?_eq_getElem inside⟩
  | push _ _ _ _ inside => exact ⟨_, List.getElem?_eq_getElem inside⟩

/-- A rule of the active state leads from path to path. -/
lemma IsPath.transition (h : IsPath table stack) {rules : LexicalState}
    (active : table.state? (ContextStack.state stack) = some rules) {rule : Rule}
    (mem : rule ∈ rules) {events : List Event}
    (moved : ContextStack.transition table stack rule = .ok (stack', events)) :
    IsPath table stack' := by
  unfold ContextStack.transition at moved
  cases kind : rule.transition with
  | stay =>
    rw [kind] at moved
    cases moved
    exact h
  | pop =>
    rw [kind] at moved
    cases moved
    exact h.tail
  | popAll =>
    rw [kind] at moved
    cases moved
    exact .root
  | push state =>
    cases known : table.state? state with
    | none => simp [kind, known] at moved
    | some _ =>
      simp only [kind, known, Except.ok.injEq, Prod.mk.injEq] at moved
      obtain ⟨rfl, _⟩ := moved
      exact .push h active mem kind (List.getElem?_eq_some_iff.1 known).1

end ContextStack

/-- The rule that wins is one of the state. -/
lemma Arbiter.mem_of_cached_choose {c c' : Cache} {index : Nat} {rules : LexicalState} {line : Text}
    {pos : Nat} {rule : Rule} {r : Match}
    (chosen : Arbiter.cached.choose c index rules line pos = (some (rule, r), c')) :
    rule ∈ rules := by
  have winner := (Cache.chooseFrom_keeps (I := fun _ => True) (Q := fun _ _ => True)
    (fun _ _ _ _ _ => ⟨trivial, fun _ _ => trivial⟩) (c := c) trivial
    (List.drop_zero (l := rules)) none).2 rule r (congrArg Prod.fst chosen)
  rcases winner with none | ⟨mem, _⟩
  · cases none
  · exact mem

/--
What the tokenizer comes to in a text: the number of a line, how many steps were made in it, and how
far it has come there.
-/
inductive Reached (table : Table) (text : Text) : Nat → Nat → Progress Cache → Prop where
  | first : Reached table text 0 0 ⟨0, [], {}⟩
  | next {number steps : Nat} {line : Line} {s after : Progress Cache} {pieces : List Piece}
      {events : List Event} :
    Reached table text number steps s →
    (physicalLines text)[number]? = some line →
    steps < stepLimit line.content →
    s.step .cached table line.content = .next pieces events after →
    Reached table text number (steps + 1) after
  | newLine {number steps : Nat} {line : Line} {s : Progress Cache} {pieces : List Piece}
      {memory : Cache} :
    Reached table text number steps s →
    (physicalLines text)[number]? = some line →
    steps < stepLimit line.content →
    s.step .cached table line.content = .done pieces memory →
    Reached table text (number + 1) 0 ⟨0, s.stack, memory.clear⟩

namespace Progress

variable {table : Table} {line : Text}

/-- A step leads from path to path. -/
lemma isPath_next {s after : Progress Cache} {pieces : List Piece} {events : List Event}
    (path : ContextStack.IsPath table s.stack)
    (e : s.step .cached table line = .next pieces events after) :
    ContextStack.IsPath table after.stack := by
  have takes := takes_step .cached table line s
  rw [e] at takes
  cases takes with
  | skip => exact path
  | move wins _ moved =>
    exact path.transition wins.state (Arbiter.mem_of_cached_choose wins.chosen) moved

/-- A step from a path fails only by a rule that asks for a state that is missing. -/
lemma exists_wins_of_fail {s : Progress Cache} {failure : HighlightFailure}
    (path : ContextStack.IsPath table s.stack)
    (e : s.step .cached table line = .fail failure) :
    ∃ state rules rule r memory, Wins .cached table line s rules rule r memory ∧ rule ∈ rules ∧
      rule.transition = .push state ∧ table.size ≤ state ∧
      failure = .unknownState state table.size := by
  have takes := takes_step .cached table line s
  rw [e] at takes
  cases takes with
  | lost missing =>
    obtain ⟨rules, active⟩ := path.exists_state
    rw [missing] at active
    cases active
  | @stray rules rule r memory state wins push missing =>
    exact ⟨state, rules, rule, r, memory, wins, Arbiter.mem_of_cached_choose wins.chosen, push,
      List.getElem?_eq_none_iff.1 missing, rfl⟩

end Progress

namespace Reached

variable {table : Table} {text : Text} {number steps : Nat} {s : Progress Cache}

/-- In all that the tokenizer comes to, the open contexts are a path. -/
theorem isPath (h : Reached table text number steps s) : ContextStack.IsPath table s.stack := by
  induction h with
  | first => exact .root
  | next _ _ _ e ih => exact Progress.isPath_next ih e
  | newLine _ _ _ _ ih => exact ih

/--
From what is reached in a line, the rest of the line leads to the start of the next one or to a step
that fails, unless it runs into the limit.
-/
lemma run (h : Reached table text number steps s) {line : Line}
    (here : (physicalLines text)[number]? = some line) {limit : Nat}
    (left : steps + limit = stepLimit line.content) :
    (∀ stack memory,
      (s.run .cached table number line.content limit).outcome = .ok (stack, memory) →
      Reached table text (number + 1) 0 ⟨0, stack, memory.clear⟩) ∧
    ∀ failure, (s.run .cached table number line.content limit).outcome = .error failure →
      failure = .noProgress number ∨
        ∃ steps s, Reached table text number steps s ∧ steps < stepLimit line.content ∧
          s.step .cached table line.content = .fail failure := by
  induction limit generalizing steps s with
  | zero =>
    refine ⟨fun stack memory e => ?_, fun failure e => .inl (Except.error.inj e).symm⟩
    cases e
  | succ limit ih =>
    have below : steps < stepLimit line.content := by omega
    rw [Progress.run]
    cases step : s.step .cached table line.content with
    | fail cause =>
      refine ⟨fun stack memory e => ?_, fun failure e => .inr ⟨steps, s, h, below, ?_⟩⟩
      · cases e
      · rw [step, Except.error.inj e]
    | done pieces memory =>
      refine ⟨fun stack memory' e => ?_, fun failure e => by cases e⟩
      cases e
      exact h.newLine here below step
    | next pieces events after => exact ih (h.next here below step) (by omega)

/-- Behind the lines that are read, what fails is a step in one of the others. -/
lemma exists_fail {stack : ContextStack} {memory : Cache}
    (h : Reached table text number 0 ⟨0, stack, memory.clear⟩) {lines : List Line}
    (rest : (physicalLines text).drop number = lines) {state states : Nat}
    (failed : (tokenizeLines .cached table number stack memory lines).outcome
      = .error (.unknownState state states)) :
    ∃ number steps line s, Reached table text number steps s ∧
      (physicalLines text)[number]? = some line ∧ steps < stepLimit line.content ∧
      s.step .cached table line.content = .fail (.unknownState state states) := by
  induction lines generalizing number stack memory with
  | nil => cases failed
  | cons line lines ih =>
    obtain ⟨here, rest⟩ := Cache.getElem?_of_drop rest
    obtain ⟨goesOn, fails⟩ := h.run here (Nat.zero_add _)
    rw [tokenizeLines] at failed
    cases first : (tokenizeLine .cached table number line.content stack memory).outcome with
    | error cause =>
      rw [first] at failed
      obtain rfl : cause = .unknownState state states := Except.error.inj failed
      rcases fails _ first with stuck | ⟨steps, s, reached, below, step⟩
      · cases stuck
      · exact ⟨number, steps, line, s, reached, here, below, step⟩
    | ok left =>
      rw [first] at failed
      exact ih (goesOn left.1 left.2 first) rest failed

end Reached

/-- Highlighting misses a state only by a rule that wins and asks for it. -/
lemma exists_wins_of_unknownState {table : Table} {text : Text} {classPrefix : String}
    {state states : Nat}
    (failed : highlight table classPrefix text = .error (.unknownState state states)) :
    states = table.size ∧ table.size ≤ state ∧
      ∃ number steps line s rules rule r memory, Reached table text number steps s ∧
        (physicalLines text)[number]? = some line ∧ steps < stepLimit line.content ∧
        Progress.Wins .cached table line.content s rules rule r memory ∧ rule ∈ rules ∧
        rule.transition = .push state := by
  have start : Reached table text 0 0 ⟨0, [], Cache.clear {}⟩ := .first
  obtain ⟨number, steps, line, s, reached, here, below, step⟩ :=
    start.exists_fail List.drop_zero (highlight_eq_error_iff.1 failed)
  obtain ⟨target, rules, rule, r, memory, wins, mem, push, outside, same⟩ :=
    Progress.exists_wins_of_fail reached.isPath step
  obtain ⟨rfl, rfl⟩ := HighlightFailure.unknownState.inj same
  exact ⟨rfl, outside, number, steps, line, s, rules, rule, r, memory, reached, here, below, wins,
    mem, push⟩

/--
In all that the tokenizer comes to, the open contexts are a path of pushes from the root, and the
active state exists. Highlighting misses a state only if it comes along such a path to a rule that
wins and opens a context in that state, which the grammar does not have. If all states that the
rules ask for exist, it misses none.
-/
theorem contexts_follow_pushes (table : Table) (text : Text) :
    (∀ number steps s, Reached table text number steps s →
      ContextStack.IsPath table s.stack ∧
        ∃ rules, table.state? (ContextStack.state s.stack) = some rules) ∧
    (∀ classPrefix state states,
      highlight table classPrefix text = .error (.unknownState state states) →
      states = table.size ∧ table.size ≤ state ∧
        ∃ number steps line s rules rule r memory, Reached table text number steps s ∧
          ContextStack.IsPath table s.stack ∧
          (physicalLines text)[number]? = some line ∧ steps < stepLimit line.content ∧
          Progress.Wins .cached table line.content s rules rule r memory ∧ rule ∈ rules ∧
          rule.transition = .push state) ∧
    ((∀ rule ∈ table.rules, ∀ state, rule.transition = .push state → state < table.size) →
      ∀ classPrefix state states,
        highlight table classPrefix text ≠ .error (.unknownState state states)) := by
  refine ⟨fun number steps s reached => ⟨reached.isPath, reached.isPath.exists_state⟩, ?_, ?_⟩
  · intro classPrefix state states failed
    obtain ⟨size, outside, number, steps, line, s, rules, rule, r, memory, reached, rest⟩ :=
      exists_wins_of_unknownState failed
    exact ⟨size, outside, number, steps, line, s, rules, rule, r, memory, reached, reached.isPath,
      rest⟩
  · intro closed classPrefix state states failed
    obtain ⟨_, outside, _, _, _, _, _, rule, _, _, _, _, _, wins, mem, push⟩ :=
      exists_wins_of_unknownState failed
    exact Nat.not_lt.2 outside (closed rule (Table.mem_rules wins.state mem) state push)

/-- A context that is opened in the first line, and a rule inside that asks for a missing state. -/
def Definition.straying : Definition :=
  ⟨none,
    [[.shortTuple "<" (.whole "open") 1],
      [.shortTuple ">" (.whole "close") (-2), .shortTuple "x" (.whole "stray") 7]]⟩

/-- The second line goes astray in one grammar; the other one has all states that it asks for. -/
theorem contexts_follow_pushes_straying :
    (∃ table, Definition.straying.compile = .ok table ∧
      highlight table "p-" ['<', '\n', 'x'] = .error (.unknownState 7 2) ∧
      ∃ number steps s rule, Reached table ['<', '\n', 'x'] number steps s ∧
        ContextStack.IsPath table s.stack ∧ rule ∈ table.rules ∧ rule.transition = .push 7) ∧
    ∃ table, Definition.quoting.compile = .ok table ∧
      (∀ rule ∈ table.rules, ∀ state, rule.transition = .push state → state < table.size) ∧
      ∀ state states, highlight table "p-" ['"', 'é'] ≠ .error (.unknownState state states) := by
  constructor
  · obtain ⟨table, compiled⟩ := Definition.exists_table (d := .straying) (by decide +kernel)
    have failed : highlight table "p-" ['<', '\n', 'x'] = .error (.unknownState 7 2) :=
      of_decide_eq_true (Definition.of_compile compiled
        (p := fun t => highlight t "p-" ['<', '\n', 'x'] = .error (.unknownState 7 2))
        (by decide +kernel))
    obtain ⟨_, _, number, steps, _, s, _, rule, _, _, reached, path, _, _, wins, mem, push⟩ :=
      (contexts_follow_pushes table _).2.1 _ _ _ failed
    exact ⟨table, compiled, failed, number, steps, s, rule, reached, path,
      Table.mem_rules wins.state mem, push⟩
  · obtain ⟨table, compiled⟩ := Definition.exists_table (d := .quoting) (by decide +kernel)
    have checked := Definition.of_compile compiled
      (p := fun t => t.rules.all fun rule =>
        match rule.transition with
        | .push state => state < t.size
        | _ => true)
      (by decide +kernel)
    have closed : ∀ rule ∈ table.rules, ∀ state, rule.transition = .push state →
        state < table.size := by
      intro rule mem state push
      have inside := List.all_eq_true.1 checked rule mem
      rw [push] at inside
      exact of_decide_eq_true inside
    exact ⟨table, compiled, closed, (contexts_follow_pushes table _).2.2 closed "p-"⟩

end Highlighter
