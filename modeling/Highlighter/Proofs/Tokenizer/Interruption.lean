import Highlighter.Proofs.Tokenizer.Cache
import Highlighter.Proofs.Tokenizer.Step
import Highlighter.Tokenizer.Interruption

/-!
# What is left where a search is given up

Up to a search that is given up, the guarded arbiter chooses as the cached one does, so it makes the
same steps. Where a search is given up, the line is left as it is (`IsInterrupted`), and so are all
lines behind it. By induction on steps and lines the whole text is tokenized as without a guard, or
interrupted on a line on which a rule of the grammar gives up. For `highlight?` this is
`highlight?_eq`. It is interrupted in the first step if a rule of the root gives up and no rule
before it matches at the start of the text (`highlight?_eq_none`).
-/

namespace Highlighter

/-- A search for a rule of the grammar is given up on a line. -/
def Table.GivesUpOn (table : Table) (line : Text) : Prop :=
  ∃ rule ∈ table.rules, ∃ n, rule.matcher.givesUp line n = true

/-- What is left where a search was given up: no memory, in a state that the grammar has. -/
def IsInterrupted (table : Table) (o : Except HighlightFailure (ContextStack × Option Cache)) :
    Prop :=
  ∃ stack, o = .ok (stack, none) ∧ (table.state? (ContextStack.state stack)).isSome

/-- The choice is the one of the cache, unless the search for a rule is given up. -/
lemma Cache.chooseFrom?_eq (state : Nat) (line : Text) (pos i : Nat)
    (best : Option (Rule × Match)) (c : Cache) (rules : List Rule) :
    chooseFrom? state line pos i best c rules = some (chooseFrom state line pos i best c rules) ∨
      chooseFrom? state line pos i best c rules = none ∧
        ∃ rule ∈ rules, rule.matcher.givesUp line pos = true := by
  induction rules generalizing i best c with
  | nil => exact .inl rfl
  | cons rule rules ih =>
    rw [chooseFrom?, chooseFrom, find?]
    by_cases given : (c.isStale ⟨state, i⟩ pos && rule.matcher.givesUp line pos) = true
    · rw [if_pos given]
      exact .inr ⟨rfl, rule, List.mem_cons_self, (Bool.and_eq_true_iff.1 given).2⟩
    · rw [if_neg given]
      -- the rules behind this one
      have later : ∀ best c,
          chooseFrom? state line pos (i + 1) best c rules
              = some (chooseFrom state line pos (i + 1) best c rules) ∨
            chooseFrom? state line pos (i + 1) best c rules = none ∧
              ∃ r ∈ rule :: rules, r.matcher.givesUp line pos = true := by
        intro best c
        rcases ih (i + 1) best c with same | ⟨left, r, mem, gives⟩
        · exact .inl same
        · exact .inr ⟨left, r, List.mem_cons_of_mem rule mem, gives⟩
      obtain ⟨found, c'⟩ := c.find ⟨state, i⟩ rule.matcher line pos
      cases found with
      | none => exact later best c'
      | some r =>
        dsimp only
        split
        · split
          · exact .inl rfl
          · exact later _ c'
        · exact later best c'

/--
With nothing remembered, there is no choice if a rule gives up and no rule before it has a match at
the very place.
-/
lemma Cache.chooseFrom?_eq_none {state : Nat} {line : Text} {pos : Nat} {rules : List Rule}
    {n : Nat} {rule : Rule} (here : rules[n]? = some rule)
    (gives : rule.matcher.givesUp line pos = true)
    (ahead : ∀ j < n, ∀ r m, rules[j]? = some r → r.matcher.find line pos = some m → m.start ≠ pos)
    {i : Nat} {best : Option (Rule × Match)} {c : Cache}
    (fresh : ∀ j, i ≤ j → c.entries.lookup ⟨state, j⟩ = none) :
    chooseFrom? state line pos i best c rules = none := by
  induction rules generalizing n i best c with
  | nil => cases here
  | cons first rules ih =>
    have stale : c.isStale ⟨state, i⟩ pos = true := by rw [isStale, fresh i (Nat.le_refl i)]
    rw [chooseFrom?, find?, stale, Bool.true_and]
    cases n with
    | zero =>
      cases here
      rw [if_pos gives]
    | succ n =>
      by_cases given : first.matcher.givesUp line pos = true
      · rw [if_pos given]
      · rw [if_neg given, find, if_pos stale]
        -- the rules behind this one do not ask what is remembered of it
        have later : ∀ best r,
            chooseFrom? state line pos (i + 1) best (c.record ⟨state, i⟩ r) rules = none := by
          intro best r
          refine ih here (fun j lt => ahead (j + 1) (Nat.succ_lt_succ lt)) fun j le => ?_
          rw [lookup_record, if_neg (by simp; omega), fresh j (by omega)]
        cases found : first.matcher.find line pos with
        | none => exact later best none
        | some r =>
          have behind : r.start ≠ pos := ahead 0 (Nat.succ_pos n) first r rfl found
          dsimp only
          rw [if_neg behind]
          split
          · exact later _ _
          · exact later _ _

/-- The guarded arbiter chooses as the cached one, or loses its memory. -/
lemma Arbiter.guarded_choose (c : Cache) (index : Nat) (rules : LexicalState) (line : Text)
    (pos : Nat) :
    guarded.choose (some c) index rules line pos
        = ((cached.choose c index rules line pos).1,
            some (cached.choose c index rules line pos).2) ∨
      guarded.choose (some c) index rules line pos = (none, none) ∧
        ∃ rule ∈ rules, rule.matcher.givesUp line pos = true := by
  dsimp only [guarded, cached, Option.bind_some]
  rcases Cache.chooseFrom?_eq index line pos 0 none c rules with same | ⟨given, gives⟩
  · rw [same]
    exact .inl rfl
  · rw [given]
    exact .inr ⟨rfl, gives⟩

namespace Progress

/-- A guarded step is one with the cache, or the line is left because a rule gives up. -/
lemma guarded_step (s : Progress Cache) (table : Table) (line : Text) :
    (s.mapMemory some).step .guarded table line = (s.step .cached table line).mapMemory some ∨
      (∃ pieces, (s.mapMemory some).step .guarded table line = .done pieces none) ∧
        (table.state? (ContextStack.state s.stack)).isSome ∧ table.GivesUpOn line := by
  cases state : table.state? (ContextStack.state s.stack) with
  | none =>
    refine .inl (s.mapMemory_step some table line fun rules state' => ?_).symm
    cases state.symm.trans state'
  | some rules =>
    rcases Arbiter.guarded_choose s.memory (ContextStack.state s.stack) rules line s.position
      with same | ⟨given, rule, mem, gives⟩
    · refine .inl (s.mapMemory_step some table line fun rules' state' => ?_).symm
      obtain rfl : rules = rules' := Option.some.inj (state.symm.trans state')
      exact same
    · refine .inr ⟨?_, rfl, rule, List.mem_flatten.2 ⟨rules, ?_, mem⟩, s.position, gives⟩
      · unfold step
        dsimp only [mapMemory]
        rw [state]
        dsimp only
        rw [given]
        exact ⟨_, rfl⟩
      · exact List.mem_of_getElem? state

/-- Guarded steps are those with the cache, up to where a rule gives up. -/
lemma guarded_run (s : Progress Cache) (table : Table) (line : Text) (number limit : Nat) :
    (s.mapMemory some).run .guarded table number line limit
        = (s.run .cached table number line limit).mapMemory some ∨
      IsInterrupted table ((s.mapMemory some).run .guarded table number line limit).outcome ∧
        table.GivesUpOn line := by
  induction limit generalizing s with
  | zero => exact .inl rfl
  | succ limit ih =>
    rw [run, run]
    rcases s.guarded_step table line with same | ⟨⟨pieces, left⟩, known, gives⟩
    · rw [same]
      cases s.step .cached table line with
      | fail failure => exact .inl rfl
      | done pieces memory => exact .inl rfl
      | next pieces events after =>
        dsimp only [Step.mapMemory]
        rcases ih after with same | interrupted
        · rw [same]
          exact .inl rfl
        · exact .inr interrupted
    · rw [left]
      exact .inr ⟨⟨s.stack, rfl, known⟩, gives⟩

end Progress

/-- A guarded line is one with the cache, unless a rule gives up on it. -/
lemma guarded_tokenizeLine (table : Table) (number : Nat) (line : Text) (stack : ContextStack)
    (memory : Cache) :
    tokenizeLine .guarded table number line stack (some memory)
        = (tokenizeLine .cached table number line stack memory).mapMemory some ∨
      IsInterrupted table
          (tokenizeLine .guarded table number line stack (some memory)).outcome ∧
        table.GivesUpOn line :=
  Progress.guarded_run ⟨0, stack, memory.clear⟩ table line number (stepLimit line)

/-- At least one step is made in every line. -/
lemma exists_stepLimit (line : Text) : ∃ limit, stepLimit line = limit + 1 := by
  refine Nat.exists_eq_add_one.2 ?_
  unfold stepLimit
  omega

/-- Without a memory a line is left as it is. -/
lemma tokenizeLine_none {table : Table} {stack : ContextStack}
    (known : (table.state? (ContextStack.state stack)).isSome) (number : Nat) (line : Text) :
    (tokenizeLine .guarded table number line stack none).outcome = .ok (stack, none) := by
  obtain ⟨rules, state⟩ := Option.isSome_iff_exists.1 known
  obtain ⟨limit, steps⟩ := exists_stepLimit line
  rw [tokenizeLine, steps, Progress.run, Progress.step]
  dsimp only
  rw [state]
  rfl

/-- So are all lines. -/
lemma tokenizeLines_none {table : Table} {stack : ContextStack}
    (known : (table.state? (ContextStack.state stack)).isSome) (number : Nat) (lines : List Line) :
    (tokenizeLines .guarded table number stack none lines).outcome = .ok (stack, none) := by
  induction lines generalizing number with
  | nil => rfl
  | cons line lines ih =>
    rw [tokenizeLines]
    dsimp only
    rw [tokenizeLine_none known]
    exact ih (number + 1)

/-- Lines are tokenized as with the cache, or interrupted on one on which a rule gives up. -/
lemma guarded_tokenizeLines (table : Table) (number : Nat) (stack : ContextStack) (memory : Cache)
    (lines : List Line) :
    tokenizeLines .guarded table number stack (some memory) lines
        = (tokenizeLines .cached table number stack memory lines).mapMemory some ∨
      IsInterrupted table
          (tokenizeLines .guarded table number stack (some memory) lines).outcome ∧
        ∃ line ∈ lines, table.GivesUpOn line.content := by
  induction lines generalizing number stack memory with
  | nil => exact .inl rfl
  | cons line lines ih =>
    rw [tokenizeLines, tokenizeLines]
    rcases guarded_tokenizeLine table number line.content stack memory
      with same | ⟨⟨stack', left, known⟩, gives⟩
    · rw [same]
      obtain ⟨pieces, events, outcome⟩ :=
        tokenizeLine .cached table number line.content stack memory
      cases outcome with
      | error failure => exact .inl rfl
      | ok left =>
        dsimp only [LineReport.mapMemory, Except.map]
        rcases ih (number + 1) left.1 left.2 with same | ⟨interrupted, line', mem, gives⟩
        · rw [same]
          exact .inl rfl
        · exact .inr ⟨interrupted, line', List.mem_cons_of_mem line mem, gives⟩
    · dsimp only
      rw [left]
      refine .inr ⟨⟨stack', ?_, known⟩, line, List.mem_cons_self, gives⟩
      exact tokenizeLines_none known (number + 1) lines

/--
Highlighting has the result that it has without a guard, or none, and then a search for a rule of
the grammar is given up on a line of the text.
-/
theorem highlight?_eq (table : Table) (classPrefix : String) (text : Text) :
    highlight? table classPrefix text = some (highlight table classPrefix text) ∨
      highlight? table classPrefix text = none ∧
        ∃ line ∈ physicalLines text, table.GivesUpOn line.content := by
  unfold highlight? highlight highlightWithEvents tokenize
  rcases guarded_tokenizeLines table 0 [] {} (physicalLines text) with same | ⟨⟨_, left, _⟩, gives⟩
  · rw [same]
    obtain ⟨lines, events, outcome⟩ := tokenizeLines .cached table 0 [] {} (physicalLines text)
    cases outcome with
    | error failure => exact .inl rfl
    | ok left => exact .inl rfl
  · dsimp only
    rw [left]
    exact .inr ⟨rfl, gives⟩

/--
A text is not highlighted if a rule of the root gives up at its start and no rule before it has a
match there.
-/
theorem highlight?_eq_none {table : Table} {text : Text} {line : Line} {lines : List Line}
    (first : physicalLines text = line :: lines) {rules : LexicalState}
    (root : table.state? 0 = some rules) {n : Nat} {rule : Rule} (here : rules[n]? = some rule)
    (gives : rule.matcher.givesUp line.content 0 = true)
    (ahead : ∀ j < n, ∀ r m, rules[j]? = some r → r.matcher.find line.content 0 = some m →
      m.start ≠ 0)
    (classPrefix : String) : highlight? table classPrefix text = none := by
  have chosen : Arbiter.guarded.choose (some {}) 0 rules line.content 0 = (none, none) := by
    dsimp only [Arbiter.guarded, Option.bind_some]
    rw [Cache.chooseFrom?_eq_none here gives ahead fun _ _ => rfl]
  have left : (tokenizeLine .guarded table 0 line.content [] (some {})).outcome
      = .ok ([], none) := by
    obtain ⟨limit, steps⟩ := exists_stepLimit line.content
    have renewed : Arbiter.guarded.newLine (some {}) = some {} := rfl
    rw [tokenizeLine, steps, Progress.run, Progress.step]
    dsimp only [ContextStack.state]
    rw [root, renewed]
    dsimp only
    rw [chosen]
  have outcome : (tokenize .guarded table (some {}) text).outcome = .ok ([], none) := by
    rw [tokenize, first, tokenizeLines]
    dsimp only
    rw [left]
    exact tokenizeLines_none (Option.isSome_iff_exists.2 ⟨rules, root⟩) 1 lines
  unfold highlight?
  dsimp only
  rw [outcome]

end Highlighter
