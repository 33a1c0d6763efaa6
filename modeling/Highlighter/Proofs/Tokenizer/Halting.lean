import Highlighter.Proofs.Grammar.Compilation
import Highlighter.Proofs.Pattern.Search
import Highlighter.Proofs.Tokenizer.Emission
import Highlighter.Proofs.Tokenizer.Runs
import Highlighter.Proofs.Tokenizer.Step

/-!
# Lines that come to no end

A step that goes on either moves to the right or idles: its rule wins with an empty match at the
very position and opens or closes contexts. In a line of `n` bytes at most `n` steps move to the
right, so whoever runs into the limit has idled all the other steps; and where nothing can idle, the
line ends within `n + 1` steps, whatever the limit. All that is asked of the matchers is that
matches start at or behind the place of the search and stop inside the line. The main result is
`highlight_noProgress_accounted`.
-/

namespace Highlighter

/-- Matches start at or behind the place of the search, and stop inside the line. -/
def Matcher.Bounded (m : Matcher) (line : Text) : Prop :=
  ∀ n r, n ≤ Text.size line → m.find line n = some r →
    n ≤ r.start ∧ r.start ≤ r.stop ∧ r.stop ≤ Text.size line

/-- The matchers of a grammar are bounded on a line. -/
def Table.BoundedOn (table : Table) (line : Text) : Prop :=
  ∀ rule ∈ table.rules, rule.matcher.Bounded line

/-- A match is found from some place of a line on. -/
def Rule.Finds (rule : Rule) (line : Text) (r : Match) : Prop :=
  ∃ n ≤ Text.size line, rule.matcher.find line n = some r

/-- No match of a rule is empty. -/
def Rule.NeverEmpty (rule : Rule) : Prop := ∀ line r, rule.Finds line r → r.start ≠ r.stop

namespace Cache

/-- The matches in a cache are found by the rules under whose keys they stand. -/
def Recalls (table : Table) (line : Text) (c : Cache) : Prop :=
  ∀ key r, c.entries.lookup key = some (some r) → ∀ rules rule,
    table.state? key.state = some rules → rules[key.rule]? = some rule → rule.Finds line r

variable {table : Table} {line : Text} {pos index : Nat} {rules : List Rule} {c : Cache}

/-- What is found is in the memory or was searched for, and starts at the place or behind. -/
lemma Recalls.find (h : c.Recalls table line) (inside : pos ≤ Text.size line)
    (state : table.state? index = some rules) {i : Nat} {rule : Rule}
    (hrule : rules[i]? = some rule) (bounded : rule.matcher.Bounded line) :
    (c.find ⟨index, i⟩ rule.matcher line pos).2.Recalls table line ∧
      ∀ r, (c.find ⟨index, i⟩ rule.matcher line pos).1 = some r →
        rule.Finds line r ∧ pos ≤ r.start := by
  unfold Cache.find
  split
  · constructor
    · intro key r found rules' rule' state' hrule'
      rw [lookup_record] at found
      split at found
      · next same =>
        subst same
        obtain rfl : rules' = rules := Option.some.inj (state'.symm.trans state)
        obtain rfl : rule' = rule := Option.some.inj (hrule'.symm.trans hrule)
        exact ⟨pos, inside, Option.some.inj found⟩
      · exact h key r found rules' rule' state' hrule'
    · intro r found
      exact ⟨⟨pos, inside, found⟩, (bounded pos r inside found).1⟩
  · next fresh =>
    refine ⟨h, fun r found => ?_⟩
    have entry : c.entries.lookup ⟨index, i⟩ = some (some r) := Option.join_eq_some_iff.1 found
    -- an answer that is used again lies ahead
    have ahead : pos ≤ r.start := by simpa [isStale, entry] using fresh
    exact ⟨h _ r entry rules rule state hrule, ahead⟩

/-- What is chosen was found for one of the rules, and starts at the place or behind. -/
lemma Recalls.choose (h : c.Recalls table line) (bounded : table.BoundedOn line)
    (inside : pos ≤ Text.size line) (state : table.state? index = some rules) :
    (Arbiter.cached.choose c index rules line pos).2.Recalls table line ∧
      ∀ rule r, (Arbiter.cached.choose c index rules line pos).1 = some (rule, r) →
        rule ∈ rules ∧ rule.Finds line r ∧ pos ≤ r.start := by
  obtain ⟨kept, winner⟩ := chooseFrom_keeps (I := Recalls table line)
    (Q := fun rule r => rule.Finds line r ∧ pos ≤ r.start)
    (fun i rule c hrule recalls => recalls.find inside state hrule
      (bounded rule (Table.mem_rules state (List.mem_of_getElem? hrule))))
    h List.drop_zero none
  refine ⟨kept, fun rule r e => ?_⟩
  rcases winner rule r e with none | found
  · cases none
  · exact found

end Cache

namespace Progress

variable {σ : Type} (arbiter : Arbiter σ) (table : Table) (line : Text)

/-- The states of a line in which steps are made, at most `limit`. -/
def steps : Nat → Progress σ → List (Progress σ)
  | 0, _ => []
  | limit + 1, s =>
    s :: match s.step arbiter table line with
      | .next _ _ after => steps limit after
      | _ => []

/-- A rule wins with an empty match at the very position, and opens or closes contexts. -/
def idles (s : Progress σ) : Bool :=
  match s.winner? arbiter table line with
  | none => false
  | some (rule, r) => r.start = s.position && r.stop = s.position && rule.transition ≠ .stay

variable {table line}

/-- The position is inside the line, and the cache recalls what was found in it. -/
structure Within (table : Table) (line : Text) (s : Progress Cache) : Prop where
  position : s.position ≤ Text.size line
  recalls : s.memory.Recalls table line

/-- Every line starts within itself, with nothing remembered. -/
lemma within_start (stack : ContextStack) (memory : Cache) :
    Within table line ⟨0, stack, memory.clear⟩ :=
  ⟨Nat.zero_le _, nofun⟩

/-- The winner of a step is found, at or behind the position and inside the line. -/
lemma Within.wins {s : Progress Cache} (h : s.Within table line) (bounded : table.BoundedOn line)
    {rules : LexicalState} {rule : Rule} {r : Match} {memory : Cache}
    (wins : Wins .cached table line s rules rule r memory) :
    memory.Recalls table line ∧ rule ∈ table.rules ∧ rule.Finds line r ∧
      s.position ≤ r.start ∧ r.start ≤ r.stop ∧ r.stop ≤ Text.size line := by
  obtain ⟨kept, winner⟩ := h.recalls.choose bounded h.position wins.state
  rw [wins.chosen] at kept winner
  obtain ⟨mem, found, ahead⟩ := winner rule r rfl
  have mem := Table.mem_rules wins.state mem
  obtain ⟨n, inside, e⟩ := found
  have bounds := bounded rule mem n r inside e
  exact ⟨kept, mem, ⟨n, inside, e⟩, ahead, bounds.2⟩

/-- The rule that wins is the winner. -/
lemma winner?_of_wins {arbiter : Arbiter σ} {s : Progress σ} {rules : LexicalState} {rule : Rule}
    {r : Match} {memory : σ} (wins : Wins arbiter table line s rules rule r memory) :
    s.winner? arbiter table line = some (rule, r) := by
  rw [winner?, wins.state]
  exact congrArg Prod.fst wins.chosen

/-- A step that goes on moves to the right or idles. -/
lemma Within.next {s after : Progress Cache} (h : s.Within table line)
    (bounded : table.BoundedOn line) {pieces : List Piece} {events : List Event}
    (e : s.step .cached table line = .next pieces events after) :
    after.Within table line ∧
      (s.position < after.position ∨
        after.position = s.position ∧ s.idles .cached table line = true) := by
  have takes := takes_step .cached table line s
  rw [e] at takes
  cases takes with
  | @skip rules rule r memory c wins idle here =>
    obtain ⟨recalls, _, _, ahead, forward, _⟩ := h.wins bounded wins
    have reached := total_pieces ahead forward rule
    have inside := (Text.isBoundary_of_charAt? here).le_size
    have pos : 0 < c.utf8Size := Char.utf8Size_pos c
    rw [Piece.total_append, Piece.total_ofSize, ← Nat.add_assoc, reached]
    refine ⟨⟨inside, recalls⟩, .inl ?_⟩
    dsimp only
    omega
  | @move rules rule r memory stack _ wins changes moved =>
    obtain ⟨recalls, _, _, ahead, forward, inside⟩ := h.wins bounded wins
    have reached := total_pieces ahead forward rule
    rw [reached]
    refine ⟨⟨inside, recalls⟩, ?_⟩
    dsimp only
    by_cases further : s.position < r.stop
    · exact .inl further
    · -- nothing was read, so the rule opens or closes contexts
      have stop : r.stop = s.position := by omega
      have start : r.start = s.position := by omega
      have empty : r.range.isEmpty = true := decide_eq_true (stop.trans start.symm).le
      have turns : rule.transition ≠ .stay := fun stay => changes ⟨empty, stay⟩
      refine .inr ⟨stop, ?_⟩
      simp [idles, winner?_of_wins wins, start, stop, turns]

/-- Where no rule that opens or closes contexts matches the empty text, nothing idles. -/
lemma Within.not_idles {s : Progress Cache} (h : s.Within table line)
    (bounded : table.BoundedOn line)
    (reads : ∀ rule ∈ table.rules, rule.transition ≠ .stay → rule.NeverEmpty) :
    s.idles .cached table line = false := by
  unfold idles
  split
  · rfl
  · next rule r won =>
    obtain ⟨rules, state, chosen⟩ := Option.bind_eq_some_iff.1 won
    have wins : Wins .cached table line s rules rule r _ := ⟨state, Prod.ext chosen rfl⟩
    obtain ⟨_, mem, found, _⟩ := h.wins bounded wins
    by_contra idle
    simp only [Bool.not_eq_false, Bool.and_eq_true, decide_eq_true_eq] at idle
    obtain ⟨⟨start, stop⟩, turns⟩ := idle
    exact reads rule mem turns line r found (start.trans stop.symm)

/-- All steps stay within the line. -/
lemma Within.steps {s : Progress Cache} (h : s.Within table line)
    (bounded : table.BoundedOn line) (limit : Nat) :
    ∀ t ∈ s.steps .cached table line limit, t.Within table line := by
  induction limit generalizing s with
  | zero => nofun
  | succ limit ih =>
    rw [Progress.steps]
    refine List.forall_mem_cons.2 ⟨h, ?_⟩
    cases step : s.step .cached table line with
    | fail failure => nofun
    | done pieces memory => nofun
    | next pieces events after => exact ih (h.next bounded step).1

/--
Of the steps that are made all but those that idle move to the right, except for the last one; and
if the limit is run into there is no last one.
-/
lemma Within.length_steps {s : Progress Cache} (h : s.Within table line)
    (bounded : table.BoundedOn line) (number limit : Nat) :
    (s.steps .cached table line limit).length ≤
        (s.steps .cached table line limit).countP (idles .cached table line) +
          (Text.size line - s.position) + 1 ∧
      ∀ n, (s.run .cached table number line limit).outcome = .error (.noProgress n) →
        n = number ∧
          limit ≤ (s.steps .cached table line limit).countP (idles .cached table line) +
            (Text.size line - s.position) := by
  induction limit generalizing s with
  | zero =>
    refine ⟨Nat.zero_le _, fun n failed => ?_⟩
    cases failed
    exact ⟨rfl, Nat.zero_le _⟩
  | succ limit ih =>
    have next := @Within.next table line s
    have failure := @exists_unknownState _ .cached table line s
    rw [Progress.steps, Progress.run, List.length_cons, List.countP_cons]
    generalize s.step .cached table line = step at next failure
    cases step with
    | fail cause =>
      obtain ⟨state, rfl⟩ := failure rfl
      exact ⟨by simp, fun n failed => by cases failed⟩
    | done pieces memory => exact ⟨by simp, fun n failed => by cases failed⟩
    | next pieces events after =>
      obtain ⟨within, moves⟩ := next h bounded rfl
      obtain ⟨short, out⟩ := ih within
      have inside := within.position
      -- a move to the right uses up a byte, and an idle step is counted
      have used : Text.size line - after.position + 1 ≤
          (if s.idles .cached table line = true then 1 else 0) +
            (Text.size line - s.position) := by
        rcases moves with right | ⟨same, idle⟩
        · omega
        · rw [if_pos idle, same]
          omega
      refine ⟨by dsimp only; omega, fun n failed => ?_⟩
      obtain ⟨rfl, most⟩ := out n failed
      exact ⟨rfl, by dsimp only; omega⟩

/-- Nothing idles if all rules that change the contexts read something. -/
lemma Within.countP_idles {s : Progress Cache} (h : s.Within table line)
    (bounded : table.BoundedOn line)
    (reads : ∀ rule ∈ table.rules, rule.transition ≠ .stay → rule.NeverEmpty) (limit : Nat) :
    (s.steps .cached table line limit).countP (idles .cached table line) = 0 := by
  refine List.countP_eq_zero.2 fun t mem => ?_
  rw [(h.steps bounded limit t mem).not_idles bounded reads]
  exact Bool.false_ne_true

/-- What has come to an end within a limit comes to the same end within a higher one. -/
lemma run_of_le {arbiter : Arbiter σ} {number limit : Nat} {s : Progress σ}
    (ends : ∀ n, (s.run arbiter table number line limit).outcome ≠ .error (.noProgress n))
    {limit' : Nat} (le : limit ≤ limit') :
    s.run arbiter table number line limit' = s.run arbiter table number line limit := by
  induction limit generalizing s limit' with
  | zero => exact absurd rfl (ends number)
  | succ limit ih =>
    obtain ⟨limit', rfl⟩ := Nat.exists_eq_add_of_le' le
    rw [← Nat.add_assoc, Progress.run, Progress.run]
    rw [Progress.run] at ends
    generalize s.step arbiter table line = step at ends
    cases step with
    | fail failure => rfl
    | done pieces memory => rfl
    | next pieces events after =>
      dsimp only at ends ⊢
      rw [ih ends (Nat.le_add_left limit limit')]

end Progress

/-- Lines fail in one of them, behind lines that do not. -/
lemma exists_line_of_error {σ : Type} {arbiter : Arbiter σ} {table : Table} {number : Nat}
    {stack : ContextStack} {memory : σ} {lines : List Line} {failure : HighlightFailure}
    (failed : (tokenizeLines arbiter table number stack memory lines).outcome = .error failure) :
    ∃ i line stack' memory', lines[i]? = some line ∧
      (tokenizeLines arbiter table number stack memory (lines.take i)).outcome
        = .ok (stack', memory') ∧
      (tokenizeLine arbiter table (number + i) line.content stack' memory').outcome
        = .error failure := by
  induction lines generalizing number stack memory with
  | nil => cases failed
  | cons line lines ih =>
    rw [tokenizeLines] at failed
    cases first : (tokenizeLine arbiter table number line.content stack memory).outcome with
    | error cause =>
      rw [first] at failed
      obtain rfl : cause = failure := Except.error.inj failed
      exact ⟨0, line, stack, memory, rfl, rfl, first⟩
    | ok left =>
      rw [first] at failed
      obtain ⟨i, line', stack', memory', here, before, there⟩ := ih failed
      refine ⟨i + 1, line', stack', memory', here, ?_, ?_⟩
      · rw [List.take_succ_cons, tokenizeLines, first]
        exact before
      · rwa [← Nat.add_assoc, Nat.add_right_comm]

/-- The line in which highlighting gets stuck has idled all steps but one a byte. -/
lemma exists_line_of_noProgress {table : Table} {text : Text} {classPrefix : String} {n : Nat}
    (bounded : ∀ line ∈ physicalLines text, table.BoundedOn line.content)
    (failed : highlight table classPrefix text = .error (.noProgress n)) :
    ∃ line stack, ∃ memory : Cache, (physicalLines text)[n]? = some line ∧
      (tokenizeLines .cached table 0 [] {} ((physicalLines text).take n)).outcome
        = .ok (stack, memory) ∧
      stepLimit line.content ≤
        (Progress.steps .cached table line.content (stepLimit line.content)
          ⟨0, stack, memory.clear⟩).countP (Progress.idles .cached table line.content) +
            Text.size line.content := by
  obtain ⟨i, line, stack, memory, here, before, there⟩ :=
    exists_line_of_error (highlight_eq_error_iff.1 failed)
  obtain ⟨number, most⟩ := ((Progress.within_start stack memory).length_steps
    (bounded line (List.mem_of_getElem? here)) (0 + i) (stepLimit line.content)).2 n there
  obtain rfl : n = i := number.trans (Nat.zero_add i)
  exact ⟨line, stack, memory, here, before, most⟩

/--
A line that comes to no end has idled, but for one step a byte, all the steps that a line may take.
In a grammar none of whose rules that open or close contexts matches the empty text every line ends
by itself, within one step more than it has bytes, and highlighting never gets stuck.
-/
theorem highlight_noProgress_accounted {table : Table} {text : Text}
    (bounded : ∀ line ∈ physicalLines text, table.BoundedOn line.content) (classPrefix : String) :
    (∀ n, highlight table classPrefix text = .error (.noProgress n) →
      ∃ line stack, ∃ memory : Cache, (physicalLines text)[n]? = some line ∧
        (tokenizeLines .cached table 0 [] {} ((physicalLines text).take n)).outcome
          = .ok (stack, memory) ∧
        max (32 * (Text.size line.content + 1)) 128 - Text.size line.content ≤
          (Progress.steps .cached table line.content (stepLimit line.content)
            ⟨0, stack, memory.clear⟩).countP (Progress.idles .cached table line.content)) ∧
    ((∀ rule ∈ table.rules, rule.transition ≠ .stay → rule.NeverEmpty) →
      (∀ line ∈ physicalLines text, ∀ (number : Nat) stack (memory : Cache) (limit : Nat),
        let s : Progress Cache := ⟨0, stack, memory.clear⟩
        (s.steps .cached table line.content limit).length ≤ Text.size line.content + 1 ∧
          (Text.size line.content + 1 ≤ limit →
            s.run .cached table number line.content limit
              = s.run .cached table number line.content (Text.size line.content + 1))) ∧
      ∀ n, highlight table classPrefix text ≠ .error (.noProgress n)) := by
  refine ⟨fun n failed => ?_, fun reads => ⟨?_, fun n failed => ?_⟩⟩
  · obtain ⟨line, stack, memory, here, before, most⟩ := exists_line_of_noProgress bounded failed
    refine ⟨line, stack, memory, here, before, Nat.sub_le_iff_le_add.2 ?_⟩
    rwa [Nat.mul_comm]
  · intro line hline number stack memory limit s
    have within : s.Within table line.content := Progress.within_start stack memory
    have never := within.countP_idles (bounded line hline) reads
    have counted := within.length_steps (bounded line hline) number
    refine ⟨?_, fun le => Progress.run_of_le (fun n failed => ?_) le⟩
    · have short := (counted limit).1
      rwa [never, Nat.zero_add] at short
    · have most := ((counted _).2 n failed).2
      rw [never, Nat.zero_add] at most
      exact Nat.not_succ_le_self _ most
  · obtain ⟨line, stack, memory, here, _, most⟩ := exists_line_of_noProgress bounded failed
    rw [(Progress.within_start stack memory).countP_idles
      (bounded line (List.mem_of_getElem? here)) reads, stepLimit] at most
    omega

namespace RuleDefinition

/-- Whether the pattern only reads on. -/
def readsOn (d : RuleDefinition) : Bool := d.plan?.any Plan.readsOn

/-- Whether every match is longer than nothing. -/
def reads (d : RuleDefinition) : Bool := d.plan?.any fun p => 0 < p.least

variable {d : RuleDefinition} {rule : Rule}

/-- Matches of a pattern that only reads on are bounded by the line. -/
lemma Yields.bounded (h : d.Yields Matcher.ofSource rule) (on : d.readsOn) (line : Text) :
    rule.matcher.Bounded line := by
  obtain ⟨p, plan, matcher⟩ := h.exists_plan?
  rw [readsOn, plan] at on
  intro n r _ found
  rw [matcher] at found
  have fits := (p.fits_of_find on found).1
  exact ⟨fits.le_start, fits.start_le_stop, fits.stop.le_size⟩

/-- A pattern that reads something is never matched by the empty text. -/
lemma Yields.neverEmpty (h : d.Yields Matcher.ofSource rule) (on : d.readsOn) (reads : d.reads) :
    rule.NeverEmpty := by
  obtain ⟨p, plan, matcher⟩ := h.exists_plan?
  rw [readsOn, plan] at on
  rw [RuleDefinition.reads, plan] at reads
  have long : 0 < p.plan.least := of_decide_eq_true reads
  rintro line r ⟨n, _, found⟩
  rw [matcher] at found
  have least := (p.fits_of_find on found).2
  omega

end RuleDefinition

namespace Definition

variable {d : Definition} {table : Table} (compiled : d.compile = .ok table)
include compiled

/-- A grammar whose patterns only read on is bounded on every line. -/
lemma boundedOn (on : d.states.flatten.all RuleDefinition.readsOn = true) (line : Text) :
    table.BoundedOn line := by
  intro rule mem
  obtain ⟨r, mem', yields⟩ := exists_yields_of_mem compiled mem
  exact yields.bounded (List.all_eq_true.1 on r mem') line

/-- Rules whose patterns read something are never matched by the empty text. -/
lemma neverEmpty (on : d.states.flatten.all RuleDefinition.readsOn = true)
    (reads : (d.states.flatten.all fun r => r.reads || r.transition? = some .stay) = true) :
    ∀ rule ∈ table.rules, rule.transition ≠ .stay → rule.NeverEmpty := by
  intro rule mem turns
  obtain ⟨r, mem', yields⟩ := exists_yields_of_mem compiled mem
  refine yields.neverEmpty (List.all_eq_true.1 on r mem') ?_
  have reads := List.all_eq_true.1 reads r mem'
  simpa [yields.transition?_eq, turns] using reads

end Definition

/-- Before an `x` a context is opened and closed without end. -/
def Definition.circling : Definition :=
  ⟨none, [[.shortTuple "(?=x)" (.whole "open") 1], [.shortTuple "(?=x)" (.whole "close") (-2)]]⟩

/-- Strings in quotes, and a rule that matches the empty text but leaves the contexts alone. -/
def Definition.skipping : Definition :=
  ⟨none,
    [[.shortTuple "é*" (.whole "accents") (-1), .shortTuple "\"" (.whole "string") 1],
      [.shortTuple "\"" (.whole "string") (-2)]]⟩

/-- The second line idles in one grammar; the other one reads all of its line. -/
theorem highlight_noProgress_accounted_circling :
    (∃ table, Definition.circling.compile = .ok table ∧
      (∀ line ∈ physicalLines ['a', '\n', 'x'], table.BoundedOn line.content) ∧
      highlight table "p-" ['a', '\n', 'x'] = .error (.noProgress 1) ∧
      ∃ line stack, ∃ memory : Cache, (physicalLines ['a', '\n', 'x'])[1]? = some line ∧
        127 ≤ (Progress.steps .cached table line.content 128 ⟨0, stack, memory.clear⟩).countP
          (Progress.idles .cached table line.content)) ∧
    ∃ table, Definition.skipping.compile = .ok table ∧
      (∀ line ∈ physicalLines ['a', '"', 'é'], table.BoundedOn line.content) ∧
      (∀ rule ∈ table.rules, rule.transition ≠ .stay → rule.NeverEmpty) ∧
      ∀ n, highlight table "p-" ['a', '"', 'é'] ≠ .error (.noProgress n) := by
  constructor
  · obtain ⟨table, compiled⟩ := Definition.exists_table (d := .circling) (by decide +kernel)
    have bounded := Definition.boundedOn compiled (by decide +kernel)
    have failed : highlight table "p-" ['a', '\n', 'x'] = .error (.noProgress 1) :=
      of_decide_eq_true (Definition.of_compile compiled
        (p := fun t => highlight t "p-" ['a', '\n', 'x'] = .error (.noProgress 1))
        (by decide +kernel))
    obtain ⟨line, stack, memory, here, _, most⟩ :=
      (highlight_noProgress_accounted (fun line _ => bounded line.content) "p-").1 1 failed
    obtain rfl : _ = line := Option.some.inj here
    exact ⟨table, compiled, fun line _ => bounded line.content, failed, _, stack, memory, rfl, most⟩
  · obtain ⟨table, compiled⟩ := Definition.exists_table (d := .skipping) (by decide +kernel)
    have bounded := Definition.boundedOn compiled (by decide +kernel)
    have reads := Definition.neverEmpty compiled (by decide +kernel) (by decide +kernel)
    have never : ∀ n, highlight table "p-" ['a', '"', 'é'] ≠ .error (.noProgress n) :=
      ((highlight_noProgress_accounted (fun line _ => bounded line.content) "p-").2 reads).2
    exact ⟨table, compiled, fun line _ => bounded line.content, reads, never⟩

end Highlighter
