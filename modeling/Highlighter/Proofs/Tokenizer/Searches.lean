import Highlighter.Proofs.Tokenizer.Halting

/-!
# How often is searched

The cache makes a search only if it does not know the answer: nothing was searched for under the key
in this line, or the last match lies behind. So what is found under a key goes further right with
every search, until nothing is found, and then the key is not searched for again
(`Cache.Leads.isChain_found`). A line of `n` bytes therefore makes at most `n + 2` searches for each
rule, however many steps it takes and whatever contexts are opened and closed. All that is asked of
the matchers is that matches start at or behind the place of the search, inside the line. The main
result is `highlight_searches_bounded`.
-/

namespace Highlighter

/-- Matches start at or behind the place of the search, inside the line. -/
def Matcher.StartsInside (m : Matcher) (line : Text) : Prop :=
  ∀ n r, m.find line n = some r → n ≤ r.start ∧ r.start ≤ Text.size line

/--
What a search may find behind another one under the same key: something further right, or nothing.
Behind a search that found nothing there is none.
-/
def Match.Precedes : Option Match → Option Match → Prop
  | none, _ => False
  | some _, none => True
  | some a, some b => a.start < b.start

/-- Ascending matches come first, and nothing is found at most once, at the end. -/
lemma Match.exists_hits {l : List (Option Match)} (h : l.IsChain Precedes) :
    ∃ (hits : List Match) (misses : List (Option Match)), l = hits.map some ++ misses ∧
      (hits.map Match.start).Pairwise (· < ·) ∧ (misses = [] ∨ misses = [none]) := by
  suffices chain : ∃ (hits : List Match) (misses : List (Option Match)),
      l = hits.map some ++ misses ∧ (hits.map Match.start).IsChain (· < ·) ∧
        (misses = [] ∨ misses = [none]) by
    obtain ⟨hits, misses, split, ascends, last⟩ := chain
    exact ⟨hits, misses, split, List.isChain_iff_pairwise.1 ascends, last⟩
  induction l with
  | nil => exact ⟨[], [], rfl, .nil, .inl rfl⟩
  | cons o l ih =>
    cases o with
    | none =>
      cases l with
      | nil => exact ⟨[], [none], rfl, .nil, .inr rfl⟩
      | cons p l => exact absurd (List.isChain_cons_cons.1 h).1 id
    | some a =>
      obtain ⟨hits, misses, rfl, ascends, last⟩ := ih h.tail
      refine ⟨a :: hits, misses, rfl, ?_, last⟩
      cases hits with
      | nil => exact .singleton _
      | cons b hits => exact ascends.cons_cons (List.isChain_cons_cons.1 h).1

/-- There are at most as many of them as places in a line, and one more. -/
lemma Match.length_le_of_isChain {l : List (Option Match)} (h : l.IsChain Precedes) {n : Nat}
    (inside : ∀ r, some r ∈ l → r.start ≤ n) : l.length ≤ n + 2 := by
  obtain ⟨hits, misses, rfl, ascends, last⟩ := exists_hits h
  have places : hits.map Match.start ⊆ List.range (n + 1) := by
    intro k mem
    obtain ⟨r, hr, rfl⟩ := List.mem_map.1 mem
    have here : r.start ≤ n := inside r (List.mem_append_left _ (List.mem_map_of_mem hr))
    exact List.mem_range.2 (Nat.lt_succ_of_le here)
  have few := (ascends.nodup.subperm places).length_le
  have rest : misses.length ≤ 1 := by
    rcases last with rfl | rfl
    · exact Nat.zero_le 1
    · exact Nat.le_refl 1
  simp only [List.length_map, List.length_range, List.length_append] at few ⊢
  omega

namespace Cache

/-- The search that is made for a rule from a place on, unless its answer is known. -/
def search (c : Cache) (key : RuleKey) (m : Matcher) (line : Text) (pos : Nat) :
    List (RuleKey × Option Match) :=
  if c.isStale key pos then [(key, m.find line pos)] else []

/-- The searches that are made to choose among the rules from index `i` on, in their order. -/
def searchesFrom (state : Nat) (line : Text) (pos : Nat) (i : Nat) (best : Option (Rule × Match))
    (c : Cache) : List Rule → List (RuleKey × Option Match)
  | [] => []
  | rule :: rules =>
    c.search ⟨state, i⟩ rule.matcher line pos ++
      match c.find ⟨state, i⟩ rule.matcher line pos with
      | (none, c) => searchesFrom state line pos (i + 1) best c rules
      | (some r, c) =>
        if improves best r then
          if r.start = pos then []
          else searchesFrom state line pos (i + 1) (some (rule, r)) c rules
        else searchesFrom state line pos (i + 1) best c rules

/--
Searches for rules of a grammar lead from one cache to another. Each one is made because its answer
is not known.
-/
inductive Leads (table : Table) (line : Text) :
    Cache → List (RuleKey × Option Match) → Cache → Prop where
  | done {c : Cache} : Leads table line c [] c
  | search {c c' : Cache} {key : RuleKey} {rules : LexicalState} {rule : Rule} {n : Nat}
      {log : List (RuleKey × Option Match)} :
    table.state? key.state = some rules →
    rules[key.rule]? = some rule →
    c.isStale key n = true →
    Leads table line (c.record key (rule.matcher.find line n)) log c' →
    Leads table line c ((key, rule.matcher.find line n) :: log) c'

/-- What searches have found under a key, in their order. -/
def found (key : RuleKey) (log : List (RuleKey × Option Match)) : List (Option Match) :=
  (log.filter fun e => e.1 = key).map Prod.snd

variable {table : Table} {line : Text} {c c' c'' : Cache} {log more : List (RuleKey × Option Match)}

/-- Searches can be logged one after the other. -/
lemma Leads.append (h : Leads table line c log c') (h' : Leads table line c' more c'') :
    Leads table line c (log ++ more) c'' := by
  induction h with
  | done => exact h'
  | search state hrule stale _ ih => exact .search state hrule stale (ih h')

/-- Every search is counted. -/
lemma Leads.searches_eq (h : Leads table line c log c') :
    c'.searches = c.searches + log.length := by
  induction h with
  | done => rfl
  | search _ _ _ _ ih =>
    rw [ih, record, List.length_cons]
    dsimp only
    omega

/-- A search under a key whose answer is not known finds something further right, or nothing. -/
lemma precedes_of_isStale {key : RuleKey} {n : Nat} {m : Matcher} (inside : m.StartsInside line)
    (stale : c.isStale key n = true) {o : Option Match} (known : c.entries.lookup key = some o) :
    Match.Precedes o (m.find line n) := by
  rw [isStale, known] at stale
  cases o with
  | none => cases stale
  | some a =>
    have behind : a.start < n := of_decide_eq_true stale
    cases result : m.find line n with
    | none => trivial
    | some b => exact Nat.lt_of_lt_of_le behind (inside n b result).1

/-- What is found under a key goes further right, behind what the cache knows. -/
lemma Leads.isChain_found (h : Leads table line c log c')
    (inside : ∀ rule ∈ table.rules, rule.matcher.StartsInside line) (key : RuleKey) :
    ((c.entries.lookup key).toList ++ found key log).IsChain Match.Precedes := by
  induction h with
  | @done c =>
    rw [found, List.filter_nil, List.map_nil, List.append_nil]
    cases c.entries.lookup key with
    | none => exact .nil
    | some o => exact .singleton o
  | @search c _ other rules rule n log state hrule stale _ ih =>
    rw [lookup_record] at ih
    by_cases same : key = other
    · subst same
      rw [if_pos rfl] at ih
      have here : found key ((key, rule.matcher.find line n) :: log)
          = rule.matcher.find line n :: found key log := by simp [found]
      rw [here]
      cases known : c.entries.lookup key with
      | none => exact ih
      | some o =>
        have mem := Table.mem_rules state (List.mem_of_getElem? hrule)
        exact ih.cons_cons (precedes_of_isStale (inside rule mem) stale known)
    · rw [if_neg same] at ih
      have here : found key ((other, rule.matcher.find line n) :: log) = found key log := by
        simp [found, Ne.symm same]
      rwa [here]

/-- Asking the cache leads from it by the search that it made, if any. -/
lemma leads_find {index : Nat} {rules : List Rule} (state : table.state? index = some rules)
    {i : Nat} {rule : Rule} (hrule : rules[i]? = some rule) (c : Cache) (line : Text) (pos : Nat) :
    Leads table line c (c.search ⟨index, i⟩ rule.matcher line pos)
      (c.find ⟨index, i⟩ rule.matcher line pos).2 := by
  unfold Cache.search Cache.find
  split
  · next stale => exact .search state hrule stale .done
  · exact .done

/-- The searches that are made to choose among rules lead to the cache that the choice leaves. -/
lemma leads_chooseFrom {index : Nat} {rules : List Rule} (state : table.state? index = some rules)
    {i : Nat} {suffix : List Rule} (tail : rules.drop i = suffix) (pos : Nat)
    (best : Option (Rule × Match)) (c : Cache) :
    Leads table line c (searchesFrom index line pos i best c suffix)
      (chooseFrom index line pos i best c suffix).2 := by
  induction suffix generalizing i best c with
  | nil => exact .done
  | cons rule suffix ih =>
    obtain ⟨hrule, tail'⟩ := getElem?_of_drop tail
    have first := leads_find state hrule c line pos
    rw [chooseFrom, searchesFrom]
    cases result : c.find ⟨index, i⟩ rule.matcher line pos with
    | mk o c' =>
      rw [result] at first
      cases o with
      | none => exact first.append (ih tail' best c')
      | some r =>
        dsimp only
        split
        · split
          · exact first.append .done
          · exact first.append (ih tail' _ c')
        · exact first.append (ih tail' best c')

end Cache

namespace Progress

/-- The searches of a step, in their order. -/
def searches (table : Table) (line : Text) (s : Progress Cache) : List (RuleKey × Option Match) :=
  match table.state? (ContextStack.state s.stack) with
  | none => []
  | some rules =>
    Cache.searchesFrom (ContextStack.state s.stack) line s.position 0 none s.memory rules

variable (table : Table) (line : Text)

/-- The searches of a step lead to the memory that it leaves. -/
lemma exists_leads_step (s : Progress Cache) :
    ∃ c, Cache.Leads table line s.memory (s.searches table line) c ∧
      (∀ pieces events after, s.step .cached table line = .next pieces events after →
        after.memory = c) ∧
      ∀ pieces memory, s.step .cached table line = .done pieces memory → memory = c := by
  have takes := takes_step .cached table line s
  unfold searches
  cases state : table.state? (ContextStack.state s.stack) with
  | none =>
    rw [step, state] at takes ⊢
    refine ⟨s.memory, .done, fun _ _ _ e => ?_, fun _ _ e => ?_⟩
    · cases e
    · cases e
  | some rules =>
    refine ⟨_, Cache.leads_chooseFrom state List.drop_zero s.position none s.memory, ?_, ?_⟩
    · intro pieces events after e
      rw [e] at takes
      cases takes with
      | skip wins | move wins =>
        obtain rfl := Option.some.inj (state.symm.trans wins.state)
        exact (congrArg Prod.snd wins.chosen).symm
    · intro pieces memory e
      rw [e] at takes
      cases takes with
      | rest active chosen =>
        obtain rfl := Option.some.inj (state.symm.trans active)
        exact (congrArg Prod.snd chosen).symm
      | last wins =>
        obtain rfl := Option.some.inj (state.symm.trans wins.state)
        exact (congrArg Prod.snd wins.chosen).symm

/-- The searches of all steps lead to the memory that a line leaves if it ends. -/
lemma exists_leads_steps (number limit : Nat) (s : Progress Cache) :
    ∃ c, Cache.Leads table line s.memory
        ((s.steps .cached table line limit).flatMap (searches table line)) c ∧
      ∀ stack memory, (s.run .cached table number line limit).outcome = .ok (stack, memory) →
        memory = c := by
  induction limit generalizing s with
  | zero => exact ⟨s.memory, .done, fun stack memory e => by cases e⟩
  | succ limit ih =>
    obtain ⟨c, first, next, done⟩ := exists_leads_step table line s
    rw [steps, Progress.run, List.flatMap_cons]
    cases step : s.step .cached table line with
    | fail failure => exact ⟨c, first.append .done, fun stack memory e => by cases e⟩
    | done pieces memory =>
      refine ⟨c, first.append .done, fun stack memory' e => ?_⟩
      cases e
      exact done pieces memory step
    | next pieces events after =>
      obtain rfl := next pieces events after step
      obtain ⟨c', rest, left⟩ := ih after
      exact ⟨c', first.append rest, left⟩

end Progress

/-- The searches of a line, in their order: under which key, and what was found. -/
def lineSearches (table : Table) (line : Text) (stack : ContextStack) (memory : Cache) :
    List (RuleKey × Option Match) :=
  (Progress.steps .cached table line (stepLimit line) ⟨0, stack, memory.clear⟩).flatMap
    (Progress.searches table line)

/-- The keys of all rules. -/
def Table.keys (table : Table) : List RuleKey :=
  table.states.zipIdx.flatMap fun p => (List.range p.1.length).map fun i => ⟨p.2, i⟩

/-- There is a key for every rule. -/
lemma Table.length_keys (table : Table) : table.keys.length = table.rules.length := by
  have sizes :
      table.states.zipIdx.map (List.length ∘ Prod.fst) = table.states.map List.length := by
    rw [← List.map_map, List.zipIdx_map_fst]
  rw [keys, rules, List.length_flatMap, List.length_flatten, ← sizes]
  simp [Function.comp_def]

/-- A rule is found by its key. -/
lemma Table.mem_keys {table : Table} {key : RuleKey} {rules : LexicalState} {rule : Rule}
    (state : table.state? key.state = some rules) (here : rules[key.rule]? = some rule) :
    key ∈ table.keys := by
  refine List.mem_flatMap.2 ⟨(rules, key.state), List.mem_zipIdx_iff_getElem?.2 state, ?_⟩
  exact List.mem_map.2 ⟨key.rule, List.mem_range.2 (List.getElem?_eq_some_iff.1 here).1, rfl⟩

section

variable {table : Table} {line : Text}
  (inside : ∀ rule ∈ table.rules, rule.matcher.StartsInside line)
include inside

/-- Searches have keys of the grammar, and find matches that start inside the line. -/
lemma Cache.Leads.of_mem {c c' : Cache} {log : List (RuleKey × Option Match)}
    (h : Leads table line c log c') :
    ∀ e ∈ log, e.1 ∈ table.keys ∧ ∀ r, e.2 = some r → r.start ≤ Text.size line := by
  induction h with
  | done => exact fun e mem => absurd mem List.not_mem_nil
  | @search _ _ _ _ rule n _ state hrule _ _ ih =>
    refine List.forall_mem_cons.2 ⟨⟨Table.mem_keys state hrule, fun r found => ?_⟩, ih⟩
    exact (inside rule (Table.mem_rules state (List.mem_of_getElem? hrule)) n r found).2

/-- From an empty cache a line takes for each rule at most two searches more than it has bytes. -/
lemma Cache.Leads.length_le {c c' : Cache} {log : List (RuleKey × Option Match)}
    (h : Leads table line c.clear log c') :
    log.length ≤ table.rules.length * (Text.size line + 2) := by
  have known := h.of_mem inside
  have each : ∀ key, (log.map Prod.fst).count key ≤ Text.size line + 2 := by
    intro key
    have counted : (log.map Prod.fst).count key = (found key log).length := by
      rw [found, List.length_map, ← List.countP_eq_length_filter, List.count, List.countP_map]
      exact List.countP_congr fun e _ => by simp
    rw [counted]
    refine Match.length_le_of_isChain (h.isChain_found inside key) fun r mem => ?_
    obtain ⟨e, mem, result⟩ := List.mem_map.1 mem
    exact (known e (List.mem_filter.1 mem).1).2 r result
  have few : (log.map Prod.fst).dedup.length ≤ table.rules.length := by
    rw [← Table.length_keys]
    refine ((List.nodup_dedup _).subperm fun key mem => ?_).length_le
    obtain ⟨e, made, rfl⟩ := List.mem_map.1 (List.mem_dedup.1 mem)
    exact (known e made).1
  calc log.length
      = ((log.map Prod.fst).dedup.map fun key => (log.map Prod.fst).count key).sum := by
        rw [List.sum_map_count_dedup_eq_length, List.length_map]
    _ ≤ (log.map Prod.fst).dedup.length * (Text.size line + 2) := by
        refine (List.sum_le_card_nsmul _ (Text.size line + 2) fun n mem => ?_).trans (by simp)
        obtain ⟨key, _, rfl⟩ := List.mem_map.1 mem
        exact each key
    _ ≤ table.rules.length * (Text.size line + 2) := Nat.mul_le_mul_right _ few

end

/-- The searches of a line lead from an empty cache to the memory that it leaves if it ends. -/
lemma exists_leads_tokenizeLine (table : Table) (line : Text) (number : Nat) (stack : ContextStack)
    (memory : Cache) :
    ∃ c, Cache.Leads table line memory.clear (lineSearches table line stack memory) c ∧
      ∀ stack' memory', (tokenizeLine .cached table number line stack memory).outcome
        = .ok (stack', memory') → memory' = c :=
  Progress.exists_leads_steps table line number (stepLimit line) ⟨0, stack, memory.clear⟩

/-- Lines that end make at most as many searches as each of them may. -/
lemma searches_tokenizeLines {table : Table} {lines : List Line}
    (inside : ∀ line ∈ lines, ∀ rule ∈ table.rules, rule.matcher.StartsInside line.content)
    {number : Nat} {stack stack' : ContextStack} {memory memory' : Cache}
    (ended : (tokenizeLines .cached table number stack memory lines).outcome
      = .ok (stack', memory')) :
    memory'.searches ≤ memory.searches +
      (lines.map fun line => table.rules.length * (Text.size line.content + 2)).sum := by
  induction lines generalizing number stack memory with
  | nil =>
    cases ended
    exact Nat.le_add_right _ _
  | cons line lines ih =>
    obtain ⟨here, later⟩ := List.forall_mem_cons.1 inside
    rw [tokenizeLines] at ended
    cases first : (tokenizeLine .cached table number line.content stack memory).outcome with
    | error failure =>
      rw [first] at ended
      cases ended
    | ok left =>
      rw [first] at ended
      have rest := ih later ended
      obtain ⟨c, leads, ends⟩ :=
        exists_leads_tokenizeLine table line.content number stack memory
      have counted : left.2.searches = memory.searches + _ :=
        ends left.1 left.2 first ▸ leads.searches_eq
      have few := leads.length_le here
      rw [List.map_cons, List.sum_cons]
      omega

/--
If highlighting succeeds, the number of searches that it reports is at most the sum over the lines
of two more than their bytes, for each rule of the grammar. In every line, with any contexts open,
the searches that are counted find under each key ascending matches, and then at most once nothing.
-/
theorem highlight_searches_bounded {table : Table} {text : Text}
    (inside : ∀ line ∈ physicalLines text, ∀ rule ∈ table.rules,
      rule.matcher.StartsInside line.content) (classPrefix : String) :
    (∀ tags, highlight table classPrefix text = .ok tags →
      ∃ searches,
        (highlightWithEvents table classPrefix text).events.getLast?
          = some (.complete tags.length searches) ∧
        searches ≤ ((physicalLines text).map fun line =>
          table.rules.length * (Text.size line.content + 2)).sum) ∧
    ∀ line ∈ physicalLines text, ∀ number stack memory,
      (∀ stack' memory',
        (tokenizeLine .cached table number line.content stack memory).outcome
          = .ok (stack', memory') →
        memory'.searches
          = memory.searches + (lineSearches table line.content stack memory).length) ∧
      ∀ key, ∃ (hits : List Match) (misses : List (Option Match)),
        ((lineSearches table line.content stack memory).filter fun e => e.1 = key).map Prod.snd
          = hits.map some ++ misses ∧
        (hits.map Match.start).Pairwise (· < ·) ∧ (misses = [] ∨ misses = [none]) := by
  constructor
  · intro tags highlighted
    rw [highlight, highlightWithEvents] at highlighted
    rw [highlightWithEvents]
    cases outcome : (tokenize .cached table {} text).outcome with
    | error failure =>
      rw [outcome] at highlighted
      cases highlighted
    | ok left =>
      rw [outcome] at highlighted
      obtain rfl : (tokenize .cached table {} text).tags classPrefix = tags :=
        Except.ok.inj highlighted
      refine ⟨left.2.searches, List.getLast?_concat, ?_⟩
      exact (searches_tokenizeLines inside outcome).trans (Nat.zero_add _).le
  · intro line hline number stack memory
    obtain ⟨c, leads, ends⟩ := exists_leads_tokenizeLine table line.content number stack memory
    refine ⟨fun stack' memory' ended => ?_, fun key => ?_⟩
    · rw [ends stack' memory' ended]
      exact leads.searches_eq
    · exact Match.exists_hits (leads.isChain_found (inside line hline) key)

/-- The matches of a pattern that only reads on start inside the line. -/
lemma Definition.startsInside {d : Definition} {table : Table} (compiled : d.compile = .ok table)
    (on : d.states.flatten.all RuleDefinition.readsOn = true) (line : Text) :
    ∀ rule ∈ table.rules, rule.matcher.StartsInside line := by
  intro rule mem n r found
  obtain ⟨definition, mem', yields⟩ := exists_yields_of_mem compiled mem
  obtain ⟨p, plan, matcher⟩ := yields.exists_plan?
  have reads := List.all_eq_true.1 on definition mem'
  rw [RuleDefinition.readsOn, plan] at reads
  rw [matcher] at found
  have fits := (p.fits_of_find reads found).1
  exact ⟨fits.le_start, fits.start.le_size⟩

/-- Before an `x` a context is opened without reading anything, and the `x` closes it. -/
def Definition.peeking : Definition :=
  ⟨none,
    [[.shortTuple "(?=x)" (.whole "open") 1, .shortTuple "é" (.whole "accent") (-1)],
      [.shortTuple "x" (.whole "close") (-2)]]⟩

/-- Two lines, of four bytes and of one. -/
def Text.twoPeekedLines : Text := ['x', 'é', 'x', '\n', 'x']

/-- Three rules may make `3 * 6 + 3 * 3` searches in the two lines. -/
theorem highlight_searches_bounded_peeking :
    ∃ table, Definition.peeking.compile = .ok table ∧
      (∀ line ∈ physicalLines Text.twoPeekedLines, ∀ rule ∈ table.rules,
        rule.matcher.StartsInside line.content) ∧
      (∃ tags searches, highlight table "p-" Text.twoPeekedLines = .ok tags ∧
        (highlightWithEvents table "p-" Text.twoPeekedLines).events.getLast?
          = some (.complete tags.length searches) ∧ searches ≤ 27) ∧
      ∃ (hits : List Match) (misses : List (Option Match)),
        ((lineSearches table ['x', 'é', 'x'] [] {}).filter fun e => e.1 = ⟨0, 0⟩).map Prod.snd
          = hits.map some ++ misses ∧
        (hits.map Match.start).Pairwise (· < ·) ∧ (misses = [] ∨ misses = [none]) := by
  obtain ⟨table, compiled⟩ := Definition.exists_table (d := .peeking) (by decide +kernel)
  have inside : ∀ line ∈ physicalLines Text.twoPeekedLines, ∀ rule ∈ table.rules,
      rule.matcher.StartsInside line.content :=
    fun line _ => Definition.startsInside compiled (by decide +kernel) line.content
  obtain ⟨tags, highlighted, _⟩ := Definition.exists_tags compiled "p-" Text.twoPeekedLines
    [0, 1, 1, 3, 3, 4, 5, 6] (by decide +kernel)
  have rules : table.rules.length = 3 :=
    of_decide_eq_true (Definition.of_compile compiled (p := fun t => t.rules.length = 3)
      (by decide +kernel))
  obtain ⟨few, order⟩ := highlight_searches_bounded inside "p-"
  obtain ⟨searches, reported, most⟩ := few tags highlighted
  rw [rules] at most
  refine ⟨table, compiled, inside, ⟨tags, searches, highlighted, reported, most⟩, ?_⟩
  exact (order ⟨0, ['x', 'é', 'x'], some .lf⟩ (by decide) 0 [] {}).2 ⟨0, 0⟩

end Highlighter
