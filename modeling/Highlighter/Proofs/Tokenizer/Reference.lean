import Highlighter.Proofs.Tokenizer.Pieces
import Highlighter.Proofs.Tokenizer.Step

/-!
# The cache changes nothing

The reference tokenizer has no memory: at every step it searches for all rules of the active state
from the current position on and takes the match that starts first, of those that start together the
one of the first rule. If matchers are stable, a cache that the line explains answers as a search
would, and the early end of arbitration misses nothing that starts earlier. So each step with the
cache does what the reference does, and by induction so do lines and texts. The main result is
`highlight_eq_reference`.
-/

namespace Highlighter

/-- What the rules of a state find from a place on, in the order of the rules. -/
def candidates (line : Text) (pos : Nat) (rules : List Rule) : List (Rule × Match) :=
  rules.filterMap fun rule => (rule.matcher.find line pos).map (rule, ·)

/-- A rule that finds nothing is no candidate. -/
lemma candidates_cons_of_miss {line : Text} {pos : Nat} {rule : Rule}
    (miss : rule.matcher.find line pos = none) (rules : List Rule) :
    candidates line pos (rule :: rules) = candidates line pos rules := by
  simp [candidates, miss]

/-- A rule that finds a match is a candidate. -/
lemma candidates_cons_of_hit {line : Text} {pos : Nat} {rule : Rule} {r : Match}
    (hit : rule.matcher.find line pos = some r) (rules : List Rule) :
    candidates line pos (rule :: rules) = (rule, r) :: candidates line pos rules := by
  simp [candidates, hit]

/-- Nothing is found before the place of the search. -/
lemma le_start_of_mem_candidates {line : Text} {pos : Nat} (hpos : Text.IsBoundary line pos)
    {rules : List Rule} (sound : ∀ rule ∈ rules, rule.matcher.Sound line) {c : Rule × Match}
    (h : c ∈ candidates line pos rules) : pos ≤ c.2.start := by
  obtain ⟨rule, hrule, listed⟩ := List.mem_filterMap.1 h
  obtain ⟨r, found, rfl⟩ := Option.map_eq_some_iff.1 listed
  exact ((sound rule hrule).bounds pos r hpos found).1

/-! ## The earliest match -/

/-- The earliest candidate is one of them. -/
lemma mem_of_earliest {cs : List (Rule × Match)} {c : Rule × Match} (h : earliest cs = some c) :
    c ∈ cs := by
  induction cs with
  | nil => cases h
  | cons d cs ih =>
    rw [earliest] at h
    split at h
    · cases h
      exact List.mem_cons_self
    · next e =>
      split at h
      · cases h
        exact List.mem_cons_of_mem _ (ih e)
      · cases h
        exact List.mem_cons_self

/-- A first match that starts before none of the others is the earliest. -/
lemma earliest_eq_head {c : Rule × Match} {cs : List (Rule × Match)}
    (h : ∀ d ∈ cs, c.2.start ≤ d.2.start) : earliest (c :: cs) = some c := by
  rw [earliest]
  split
  · rfl
  · next d e => rw [if_neg (Nat.not_lt.2 (h d (mem_of_earliest e)))]

/-- Of two matches at the front the second one is left out if it does not start earlier. -/
lemma earliest_cons_of_le {c d : Rule × Match} (cs : List (Rule × Match))
    (le : c.2.start ≤ d.2.start) : earliest (c :: d :: cs) = earliest (c :: cs) := by
  simp only [earliest]
  cases earliest cs with
  | none => simp [Nat.not_lt.2 le]
  | some x =>
    by_cases first : x.2.start < d.2.start
    · simp [first]
    · have later : ¬ x.2.start < c.2.start := by omega
      simp [first, later, Nat.not_lt.2 le]

/-- There is an earliest match among some, and it does not start behind the first. -/
lemma exists_earliest (c : Rule × Match) (cs : List (Rule × Match)) :
    ∃ d, earliest (c :: cs) = some d ∧ d.2.start ≤ c.2.start := by
  rw [earliest]
  split
  · exact ⟨c, rfl, Nat.le_refl _⟩
  · next d _ =>
    split
    · next lt => exact ⟨d, rfl, Nat.le_of_lt lt⟩
    · exact ⟨c, rfl, Nat.le_refl _⟩

/-- Of two matches at the front the first one is left out if the second one starts earlier. -/
lemma earliest_cons_of_lt {c d : Rule × Match} (cs : List (Rule × Match))
    (lt : d.2.start < c.2.start) : earliest (c :: d :: cs) = earliest (d :: cs) := by
  obtain ⟨x, e, le⟩ := exists_earliest d cs
  rw [earliest, e]
  simp [Nat.lt_of_le_of_lt le lt]

/--
What is right to choose among rules from a place on: the match with the least start, of those that
start together the one of the rule with the least index, and nothing only if no rule matches.
-/
def Rule.Least (rules : List Rule) (line : Text) (pos : Nat) : Option (Rule × Match) → Prop
  | none => ∀ rule ∈ rules, rule.matcher.find line pos = none
  | some (rule, r) =>
    ∃ i, rules[i]? = some rule ∧ rule.matcher.find line pos = some r ∧
      ∀ (j : Nat) (rule' : Rule) (r' : Match), rules[j]? = some rule' →
        rule'.matcher.find line pos = some r' →
          r.start < r'.start ∨ r.start = r'.start ∧ i ≤ j

/-- What holds of all that rules find, from what holds of the first rule and of the others. -/
lemma Rule.forall_found_cons {first : Rule} {rules : List Rule} {line : Text} {pos : Nat}
    {p : Nat → Match → Prop} (zero : ∀ r, first.matcher.find line pos = some r → p 0 r)
    (succ : ∀ j rule r, rules[j]? = some rule → rule.matcher.find line pos = some r → p (j + 1) r)
    (j : Nat) (rule : Rule) (r : Match) (hj : (first :: rules)[j]? = some rule)
    (hit : rule.matcher.find line pos = some r) : p j r := by
  cases j with
  | zero =>
    cases hj
    exact zero r hit
  | succ j => exact succ j rule r hj hit

/-- A rule in front that finds nothing has no say. -/
lemma Rule.Least.cons_of_miss {rules : List Rule} {line : Text} {pos : Nat}
    {o : Option (Rule × Match)} (h : Least rules line pos o) {first : Rule}
    (miss : first.matcher.find line pos = none) : Least (first :: rules) line pos o := by
  cases o with
  | none =>
    intro rule hrule
    rcases List.mem_cons.1 hrule with rfl | hrule
    · exact miss
    · exact h rule hrule
  | some c =>
    obtain ⟨i, hi, found, least⟩ := h
    refine ⟨i + 1, hi, found,
      Rule.forall_found_cons (fun r' hit' => ?_) fun j rule' r' hj hit' => ?_⟩
    · exact absurd (miss.symm.trans hit') nofun
    · exact (least j rule' r' hj hit').imp_right (And.imp_right Nat.succ_le_succ)

/-- A rule in front that finds something is right unless another match starts earlier. -/
lemma Rule.Least.cons_of_hit {rules : List Rule} {line : Text} {pos : Nat}
    {cs : List (Rule × Match)} (h : Least rules line pos (earliest cs)) {first : Rule} {r : Match}
    (hit : first.matcher.find line pos = some r) :
    Least (first :: rules) line pos (earliest ((first, r) :: cs)) := by
  have only : ∀ r', first.matcher.find line pos = some r' → r' = r :=
    fun r' hit' => Option.some.inj (hit'.symm.trans hit)
  rw [earliest]
  split
  · next none =>
    rw [none] at h
    refine ⟨0, rfl, hit, Rule.forall_found_cons (fun r' hit' => ?_) fun j rule' r' hj hit' => ?_⟩
    · exact .inr ⟨congrArg Match.start (only r' hit').symm, Nat.le_refl 0⟩
    · exact absurd ((h rule' (List.mem_of_getElem? hj)).symm.trans hit') nofun
  · next d best =>
    rw [best] at h
    obtain ⟨i, hi, hit_d, least⟩ := h
    split
    · -- an earlier match stays the choice, one place further back
      next lt =>
      refine ⟨i + 1, hi, hit_d,
        Rule.forall_found_cons (fun r' hit' => ?_) fun j rule' r' hj hit' => ?_⟩
      · rw [only r' hit']
        exact .inl lt
      · exact (least j rule' r' hj hit').imp_right (And.imp_right Nat.succ_le_succ)
    · next ge =>
      have first_le : r.start ≤ d.2.start := Nat.not_lt.1 ge
      refine ⟨0, rfl, hit, Rule.forall_found_cons (fun r' hit' => ?_) fun j rule' r' hj hit' => ?_⟩
      · exact .inr ⟨congrArg Match.start (only r' hit').symm, Nat.le_refl 0⟩
      · have later := least j rule' r' hj hit'
        omega

/-- The earliest of what the rules find is the right choice among them. -/
lemma least_earliest (line : Text) (pos : Nat) (rules : List Rule) :
    Rule.Least rules line pos (earliest (candidates line pos rules)) := by
  induction rules with
  | nil => exact nofun
  | cons first rules ih =>
    cases found : first.matcher.find line pos with
    | none =>
      rw [candidates_cons_of_miss found]
      exact ih.cons_of_miss found
    | some r =>
      rw [candidates_cons_of_hit found]
      exact ih.cons_of_hit found

/-! ## Choosing with the cache -/

namespace Cache

/-- A match that improves on the best so far takes its place. -/
lemma earliest_of_improves {best : Option (Rule × Match)} {r : Match}
    (h : improves best r = true) (rule : Rule) (cs : List (Rule × Match)) :
    earliest (best.toList ++ (rule, r) :: cs) = earliest ((rule, r) :: cs) := by
  cases best with
  | none => rfl
  | some b => exact earliest_cons_of_lt cs (by simpa [improves] using h)

/-- A match that does not improve on the best so far can be left out. -/
lemma earliest_of_not_improves {best : Option (Rule × Match)} {r : Match}
    (h : ¬ improves best r = true) (rule : Rule) (cs : List (Rule × Match)) :
    earliest (best.toList ++ (rule, r) :: cs) = earliest (best.toList ++ cs) := by
  cases best with
  | none => exact absurd rfl h
  | some b => exact earliest_cons_of_le cs (by simpa [improves] using h)

/-- With a cache the earliest match is found, among the best so far and those of the rules. -/
lemma Explained.chooseFrom_eq {table : Table} {line : Text} {pos index : Nat} {rules : List Rule}
    {c : Cache} (h : c.Explained table line pos) (sound : table.SoundOn line)
    (stable : table.StableOn line) (hpos : Text.IsBoundary line pos)
    (state : table.state? index = some rules) {i : Nat} {suffix : List Rule}
    (tail : rules.drop i = suffix) (best : Option (Rule × Match)) :
    (Cache.chooseFrom index line pos i best c suffix).1
      = earliest (best.toList ++ candidates line pos suffix) := by
  induction suffix generalizing i best c with
  | nil => cases best <;> rfl
  | cons rule suffix ih =>
    obtain ⟨hrule, tail'⟩ := getElem?_of_drop tail
    have mem : ∀ rule' ∈ rule :: suffix, rule' ∈ table.rules := fun rule' hrule' =>
      Table.mem_rules state (List.mem_of_mem_drop (tail ▸ hrule'))
    obtain ⟨answers, explained⟩ := h.find hpos state hrule
    have found := answers.eq_find (stable rule (mem rule List.mem_cons_self)) hpos
    rw [Cache.chooseFrom]
    split
    · next c' e =>
      rw [e] at found explained
      rw [ih explained tail' best, candidates_cons_of_miss found.symm]
    · next r c' e =>
      rw [e] at found explained
      rw [candidates_cons_of_hit found.symm]
      split
      · next better =>
        rw [earliest_of_improves better]
        split
        · -- no match starts before the place of the search, so the others need not be looked for
          next here =>
          refine (earliest_eq_head fun d hd => ?_).symm
          refine Nat.le_trans (Nat.le_of_eq here) (le_start_of_mem_candidates hpos ?_ hd)
          exact fun rule' hrule' => sound rule' (mem rule' (List.mem_cons_of_mem _ hrule'))
        · exact ih explained tail' (some (rule, r))
      · next worse => rw [earliest_of_not_improves worse, ih explained tail' best]

end Cache

/-- With the cache the same rule wins as without. -/
lemma Arbiter.cached_choose_eq {table : Table} {line : Text} {pos index : Nat}
    {rules : LexicalState} {c : Cache} (h : c.Explained table line pos)
    (sound : table.SoundOn line) (stable : table.StableOn line) (hpos : Text.IsBoundary line pos)
    (state : table.state? index = some rules) :
    (Arbiter.cached.choose c index rules line pos).1
      = (Arbiter.plain.choose () index rules line pos).1 :=
  h.chooseFrom_eq sound stable hpos state List.drop_zero none

/-! ## Forgetting the memory -/

/-- How far a line has come, without what is remembered. -/
abbrev Progress.forget {σ : Type} (s : Progress σ) : Progress Unit := s.mapMemory fun _ => ()

/-- What a step does, without what is remembered. -/
abbrev Step.forget {σ : Type} (s : Step σ) : Step Unit := s.mapMemory fun _ => ()

/-- What came of a line, without what is remembered. -/
abbrev LineReport.forget {σ : Type} (r : LineReport σ) : LineReport Unit :=
  r.mapMemory fun _ => ()

/-- What came of a text, without what is remembered. -/
abbrev TextReport.forget {σ : Type} (r : TextReport σ) : TextReport Unit :=
  r.mapMemory fun _ => ()

namespace Progress

variable {table : Table} {line : Text} {s : Progress Cache}

/-- A step with the cache does what a step without it does. -/
lemma Proper.forget_step (h : s.Proper table line) (sound : table.SoundOn line)
    (stable : table.StableOn line) :
    (s.step .cached table line).forget = s.forget.step .plain table line := by
  refine s.mapMemory_step _ table line fun rules state => ?_
  exact Prod.ext
    (Arbiter.cached_choose_eq h.explained sound stable h.boundary state).symm rfl

/-- All steps with the cache do what they do without it. -/
lemma Proper.forget_run (h : s.Proper table line) (sound : table.SoundOn line)
    (stable : table.StableOn line) (number limit : Nat) :
    (s.run .cached table number line limit).forget
      = s.forget.run .plain table number line limit := by
  induction limit generalizing s with
  | zero => rfl
  | succ limit ih =>
    have proper : ∀ pieces events after, s.step .cached table line = .next pieces events after →
        after.Proper table line := fun _ _ _ => h.next sound
    rw [Progress.run, Progress.run, ← h.forget_step sound stable]
    generalize s.step .cached table line = step at proper
    cases step with
    | fail failure => rfl
    | done pieces memory => rfl
    | next pieces events after =>
      -- the state behind the step is proper again, so the rest of the line agrees too
      dsimp only [Step.forget, Step.mapMemory]
      rw [← ih (proper pieces events after rfl)]
      rfl

end Progress

/-- With sound and stable matchers a line is tokenized as by the reference. -/
lemma forget_tokenizeLine {table : Table} {line : Text} (sound : table.SoundOn line)
    (stable : table.StableOn line) (number : Nat) (stack : ContextStack) (memory : Cache) :
    (tokenizeLine .cached table number line stack memory).forget
      = tokenizeLine .plain table number line stack () := by
  have proper := Progress.proper_start table line stack memory
  exact proper.forget_run sound stable number (stepLimit line)

/-- Lines are tokenized with the cache as without it. -/
lemma forget_tokenizeLines {table : Table} {lines : List Line}
    (sound : ∀ line ∈ lines, table.SoundOn line.content)
    (stable : ∀ line ∈ lines, table.StableOn line.content) (number : Nat) (stack : ContextStack)
    (memory : Cache) :
    (tokenizeLines .cached table number stack memory lines).forget
      = tokenizeLines .plain table number stack () lines := by
  induction lines generalizing number stack memory with
  | nil => rfl
  | cons line lines ih =>
    rw [tokenizeLines, tokenizeLines, ← forget_tokenizeLine (sound line List.mem_cons_self)
      (stable line List.mem_cons_self) number stack memory]
    obtain ⟨pieces, events, outcome⟩ := tokenizeLine .cached table number line.content stack memory
    cases outcome with
    | error failure => rfl
    | ok left =>
      -- both go on with the same contexts; what the cache holds does not matter for the next line
      dsimp only [LineReport.forget, LineReport.mapMemory, Except.map]
      rw [← ih (fun l hl => sound l (List.mem_cons_of_mem _ hl))
        (fun l hl => stable l (List.mem_cons_of_mem _ hl)) (number + 1) left.1 left.2]
      rfl

/-! ## The reference tokenizer -/

/-- The tags of the styled runs of a text, found with a search for every rule at every step. -/
def referenceHighlight (table : Table) (classPrefix : String) (text : Text) :
    Except HighlightFailure (List Tag) :=
  let report := tokenize .plain table () text
  report.outcome.map fun _ => report.tags classPrefix

/--
With matchers that are sound and stable on all lines of a text, highlighting it gives what the
reference tokenizer gives, tags or error. The reference has nothing to remember, and its choice
among the rules of a state is the match with the least start and, among those, the least index of
its rule.
-/
theorem highlight_eq_reference {table : Table} {text : Text} (classPrefix : String)
    (sound : ∀ line ∈ physicalLines text, table.SoundOn line.content)
    (stable : ∀ line ∈ physicalLines text, table.StableOn line.content) :
    highlight table classPrefix text = referenceHighlight table classPrefix text ∧
      ∀ index rules line pos,
        Rule.Least rules line pos (Arbiter.plain.choose () index rules line pos).1 := by
  refine ⟨?_, fun index rules line pos => least_earliest line pos rules⟩
  have same : (tokenize .cached table {} text).forget = tokenize .plain table () text :=
    forget_tokenizeLines sound stable 0 [] {}
  rw [referenceHighlight, highlight, highlightWithEvents, ← same]
  obtain ⟨lines, events, outcome⟩ := tokenize .cached table {} text
  cases outcome with
  | error failure => rfl
  | ok left => rfl

/-- A string over two lines, where the search for its end is answered by the cache. -/
theorem highlight_eq_reference_two_lines :
    ∃ table, Definition.quoting.compile = .ok table ∧
      (∀ line ∈ physicalLines Text.twoQuotedLines, table.SoundOn line.content) ∧
      (∀ line ∈ physicalLines Text.twoQuotedLines, table.StableOn line.content) ∧
      highlight table "p-" Text.twoQuotedLines
        = referenceHighlight table "p-" Text.twoQuotedLines := by
  obtain ⟨table, compiled, sound, stable⟩ := Definition.exists_quoting_table
  exact ⟨table, compiled, sound, stable, (highlight_eq_reference "p-" sound stable).1⟩

end Highlighter
