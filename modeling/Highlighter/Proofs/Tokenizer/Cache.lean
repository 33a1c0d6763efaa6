import Highlighter.Proofs.Grammar.Matcher
import Highlighter.Tokenizer.Cache

/-!
# What the cache remembers

Within a line every entry of the cache is the answer to an earlier search, made with the matcher of
the rule whose key it has (`Cache.Explained`). An answer is used again only if nothing was found or
if the match does not start before the place of the search. `Matcher.Answers` says just this of a
match that is handed out, and `Cache.chooseFrom` hands out nothing else.
-/

namespace Highlighter

namespace Cache

/-- Every entry is the answer to a search not behind a place, with the matcher of its rule. -/
def Explained (table : Table) (line : Text) (pos : Nat) (c : Cache) : Prop :=
  ∀ key o, c.entries.lookup key = some o →
    ∃ rules rule n, table.state? key.state = some rules ∧ rules[key.rule]? = some rule ∧
      n ≤ pos ∧ Text.IsBoundary line n ∧ rule.matcher.find line n = o

/-- A cleared cache remembers nothing that needs an explanation. -/
lemma explained_clear (table : Table) (line : Text) (pos : Nat) (c : Cache) :
    c.clear.Explained table line pos := by
  intro key o h
  cases h

/-- What is explained at a place is explained further right. -/
lemma Explained.mono {table : Table} {line : Text} {pos pos' : Nat} {c : Cache}
    (h : c.Explained table line pos) (le : pos ≤ pos') : c.Explained table line pos' := by
  intro key o found
  obtain ⟨rules, rule, n, hrules, hrule, hn, rest⟩ := h key o found
  exact ⟨rules, rule, n, hrules, hrule, Nat.le_trans hn le, rest⟩

/-- What is recorded under a key is found there, and other keys keep theirs. -/
lemma lookup_record (c : Cache) (key other : RuleKey) (r : Option Match) :
    (c.record key r).entries.lookup other =
      if other = key then some r else c.entries.lookup other := by
  have dropped : ∀ entries : List (RuleKey × Option Match), other ≠ key →
      (entries.filter fun e => e.1 != key).lookup other = entries.lookup other := by
    intro entries ne
    induction entries with
    | nil => rfl
    | cons e entries ih =>
      obtain ⟨k, o⟩ := e
      by_cases same : k = key
      · subst same
        have differ : (other == k) = false := beq_false_of_ne ne
        rw [List.filter_cons_of_neg (by simp), ih, List.lookup_cons, differ]
      · rw [List.filter_cons_of_pos (by simpa using same), List.lookup_cons, List.lookup_cons, ih]
  simp only [record, List.lookup_cons]
  by_cases same : other = key
  · simp [same]
  · have differ : (other == key) = false := by simpa using same
    simp [differ, same, dropped c.entries same]

/-- What stands first from an index on, and what is behind it. -/
lemma getElem?_of_drop {α : Type} {l : List α} {i : Nat} {a : α} {suffix : List α}
    (tail : l.drop i = a :: suffix) : l[i]? = some a ∧ l.drop (i + 1) = suffix := by
  constructor
  · rw [← List.head?_drop, tail, List.head?_cons]
  · rw [← List.tail_drop, tail, List.tail_cons]

section

variable {table : Table} {line : Text} {pos index : Nat} {rules : List Rule}

/-- A search through the cache gives an answer, and leaves the cache explained. -/
lemma Explained.find {c : Cache} (h : c.Explained table line pos)
    (hpos : Text.IsBoundary line pos) (state : table.state? index = some rules) {i : Nat}
    {rule : Rule} (hrule : rules[i]? = some rule) :
    rule.matcher.Answers line pos (c.find ⟨index, i⟩ rule.matcher line pos).1 ∧
      (c.find ⟨index, i⟩ rule.matcher line pos).2.Explained table line pos := by
  unfold Cache.find
  split
  · -- the rule was searched for
    refine ⟨⟨pos, Nat.le_refl _, hpos, rfl, .inl rfl⟩, fun key o found => ?_⟩
    rw [lookup_record] at found
    split at found
    · next same =>
      cases found
      subst same
      exact ⟨rules, rule, pos, state, hrule, Nat.le_refl _, hpos, rfl⟩
    · exact h key o found
  · -- an earlier answer is used
    next fresh =>
    refine ⟨?_, h⟩
    cases found : c.entries.lookup ⟨index, i⟩ with
    | none => simp [isStale, found] at fresh
    | some o =>
      obtain ⟨rules', rule', n, state', hrule', le, hn, e⟩ := h _ o found
      obtain rfl : rules' = rules := Option.some.inj (state'.symm.trans state)
      obtain rfl : rule' = rule := Option.some.inj (hrule'.symm.trans hrule)
      refine ⟨n, le, hn, e, .inr fun r hr => ?_⟩
      obtain rfl : o = some r := by simpa using hr
      simpa [isStale, found] using fresh

/--
What every search keeps of the cache and promises of the match that it gives, the choice among rules
keeps and promises too.
-/
lemma chooseFrom_keeps {I : Cache → Prop} {Q : Rule → Match → Prop}
    (search : ∀ i rule c, rules[i]? = some rule → I c →
      I (c.find ⟨index, i⟩ rule.matcher line pos).2 ∧
        ∀ r, (c.find ⟨index, i⟩ rule.matcher line pos).1 = some r → Q rule r)
    {c : Cache} (h : I c) {i : Nat} {suffix : List Rule} (tail : rules.drop i = suffix)
    (best : Option (Rule × Match)) :
    I (chooseFrom index line pos i best c suffix).2 ∧
      ∀ rule r, (chooseFrom index line pos i best c suffix).1 = some (rule, r) →
        best = some (rule, r) ∨ rule ∈ suffix ∧ Q rule r := by
  induction suffix generalizing i best c with
  | nil => exact ⟨h, fun rule r e => .inl e⟩
  | cons rule suffix ih =>
    obtain ⟨hrule, tail'⟩ := getElem?_of_drop tail
    obtain ⟨kept, promised⟩ := search i rule c hrule h
    rw [Cache.chooseFrom]
    split
    · next c' e =>
      rw [e] at kept
      obtain ⟨kept', winner⟩ := ih kept tail' best
      refine ⟨kept', fun rule' r' e' => (winner rule' r' e').imp_right fun later => ?_⟩
      exact ⟨List.mem_cons_of_mem _ later.1, later.2⟩
    · next r c' e =>
      rw [e] at kept promised
      have here : Q rule r := promised r rfl
      split
      · split
        · -- the rules behind this one are not searched for, and their entries stay as they are
          refine ⟨kept, fun rule' r' e' => .inr ?_⟩
          cases e'
          exact ⟨List.mem_cons_self, here⟩
        · obtain ⟨kept', winner⟩ := ih kept tail' (some (rule, r))
          refine ⟨kept', fun rule' r' e' => .inr ?_⟩
          rcases winner rule' r' e' with same | later
          · cases same
            exact ⟨List.mem_cons_self, here⟩
          · exact ⟨List.mem_cons_of_mem _ later.1, later.2⟩
      · obtain ⟨kept', winner⟩ := ih kept tail' best
        refine ⟨kept', fun rule' r' e' => (winner rule' r' e').imp_right fun later => ?_⟩
        exact ⟨List.mem_cons_of_mem _ later.1, later.2⟩

/-- The winner is the best so far or an answer for one of the rules. -/
lemma Explained.chooseFrom {c : Cache} (h : c.Explained table line pos)
    (hpos : Text.IsBoundary line pos) (state : table.state? index = some rules) {i : Nat}
    {suffix : List Rule} (tail : rules.drop i = suffix) (best : Option (Rule × Match)) :
    ((chooseFrom index line pos i best c suffix).2.Explained table line pos) ∧
      ∀ rule r, (chooseFrom index line pos i best c suffix).1 = some (rule, r) →
        best = some (rule, r) ∨ rule ∈ suffix ∧ rule.matcher.Answers line pos (some r) := by
  refine chooseFrom_keeps (I := fun c => c.Explained table line pos)
    (Q := fun rule r => rule.matcher.Answers line pos (some r))
    (fun i rule c hrule explained => ?_) h tail best
  obtain ⟨answers, explained'⟩ := explained.find hpos state hrule
  exact ⟨explained', fun r e => e ▸ answers⟩

/-- If there is no winner, no rule has a match. -/
lemma Explained.chooseFrom_none {c : Cache} (h : c.Explained table line pos)
    (hpos : Text.IsBoundary line pos) (state : table.state? index = some rules) {i : Nat}
    {suffix : List Rule} (tail : rules.drop i = suffix) {best : Option (Rule × Match)}
    (lost : (Cache.chooseFrom index line pos i best c suffix).1 = none) :
    best = none ∧ ∀ rule ∈ suffix, rule.matcher.Answers line pos none := by
  induction suffix generalizing i best c with
  | nil => exact ⟨lost, fun _ mem => by cases mem⟩
  | cons rule suffix ih =>
    obtain ⟨hrule, tail'⟩ := getElem?_of_drop tail
    obtain ⟨answers, explained⟩ := h.find hpos state hrule
    rw [Cache.chooseFrom] at lost
    split at lost
    · next c' e =>
      rw [e] at answers explained
      obtain ⟨none, others⟩ := ih explained tail' lost
      exact ⟨none, List.forall_mem_cons.2 ⟨answers, others⟩⟩
    · next r c' e =>
      rw [e] at explained
      split at lost
      · split at lost
        · cases lost
        · cases (ih explained tail' lost).1
      · -- the best so far is as good as the match, so there is one
        next worse =>
        obtain ⟨rfl, _⟩ := ih explained tail' lost
        exact absurd rfl worse

end

end Cache

/-- The winner that the cache finds is a rule of the state with a match that fits. -/
lemma Arbiter.cached_choose {table : Table} {line : Text} {pos index : Nat} {rules : LexicalState}
    {c : Cache} (sound : table.SoundOn line) (h : c.Explained table line pos)
    (hpos : Text.IsBoundary line pos) (state : table.state? index = some rules) :
    ((Arbiter.cached.choose c index rules line pos).2.Explained table line pos) ∧
      ∀ rule r, (Arbiter.cached.choose c index rules line pos).1 = some (rule, r) →
        rule ∈ rules ∧ r.Fits line pos := by
  obtain ⟨explained, winner⟩ := h.chooseFrom hpos state (List.drop_zero (l := rules)) none
  refine ⟨explained, fun rule r e => ?_⟩
  rcases winner rule r e with none | ⟨mem, answers⟩
  · cases none
  · exact ⟨mem, answers.fits (sound rule (Table.mem_rules state mem))⟩

end Highlighter
