import Highlighter.Proofs.Pattern.Stability
import Highlighter.Proofs.Tokenizer.Cache

/-!
# When the cache answers what a search would find

Since it was cleared the cache is asked for the rules of a line, from places that never go to the
left for one rule. Its answers are those of a search from the same place (`Cache.IsFresh`) if and
only if the matcher is stable on the line: an earlier answer is used again exactly where a stable
matcher would find it again. Matchers of local patterns are stable. Those that ask where the search
began or move the start of the match need not be, and then the cache hands out what a search would
not find. The main result is `cache_isFresh_iff_stable`.
-/

namespace Highlighter

namespace Cache

/-- The answers to calls one after the other, each under a key and from a place on. -/
def findAll (matcher : RuleKey → Matcher) (line : Text) :
    Cache → List (RuleKey × Nat) → List (Option Match)
  | _, [] => []
  | c, (key, pos) :: calls =>
    (c.find key (matcher key) line pos).1 ::
      findAll matcher line (c.find key (matcher key) line pos).2 calls

/-- The places that calls under a key search from, in their order. -/
def places (key : RuleKey) (calls : List (RuleKey × Nat)) : List Nat :=
  (calls.filter fun q => q.1 = key).map Prod.snd

/-- The calls under a key go from boundary to boundary of a line, and never to the left. -/
structure Ascending (line : Text) (key : RuleKey) (calls : List (RuleKey × Nat)) : Prop where
  boundary : ∀ pos ∈ places key calls, Text.IsBoundary line pos
  sorted : (places key calls).Pairwise (· ≤ ·)

/--
Whatever is called under other keys meanwhile, since it was cleared the cache gives under the key of
a matcher, call by call, what the matcher finds.
-/
def IsFresh (m : Matcher) (line : Text) : Prop :=
  ∀ (matcher : RuleKey → Matcher) (key : RuleKey) (c : Cache) (calls : List (RuleKey × Nat)),
    matcher key = m → Ascending line key calls →
    ∀ (i : Nat) (pos : Nat), calls[i]? = some (key, pos) →
      (c.clear.findAll matcher line calls)[i]? = some (m.find line pos)

variable {line : Text} {key other : RuleKey} {m : Matcher} {pos : Nat}
  {calls : List (RuleKey × Nat)}

/-- A call under the key adds its place. -/
lemma places_cons_self : places key ((key, pos) :: calls) = pos :: places key calls := by
  simp [places]

/-- A call under another key adds none. -/
lemma places_cons_of_ne (ne : other ≠ key) :
    places key ((other, pos) :: calls) = places key calls := by
  simp [places, ne]

/-- A call under a key leaves what is known under others. -/
lemma lookup_find_of_ne (ne : key ≠ other) (c : Cache) (m : Matcher) (line : Text) (pos : Nat) :
    (c.find other m line pos).2.entries.lookup key = c.entries.lookup key := by
  unfold Cache.find
  split
  · rw [lookup_record, if_neg ne]
  · rfl

/-- What is known under a key is the answer to a search not behind some places. -/
def KnowsBehind (m : Matcher) (line : Text) (key : RuleKey) (ahead : List Nat) (c : Cache) : Prop :=
  ∀ o, c.entries.lookup key = some o →
    ∃ n, Text.IsBoundary line n ∧ (∀ pos ∈ ahead, n ≤ pos) ∧ m.find line n = o

/-- A call gives what a stable matcher finds, and that is known from then on. -/
lemma KnowsBehind.find {c : Cache} {ahead : List Nat} (h : c.KnowsBehind m line key (pos :: ahead))
    (stable : m.Stable line) (hpos : Text.IsBoundary line pos) (sorted : ∀ k ∈ ahead, pos ≤ k) :
    (c.find key m line pos).1 = m.find line pos ∧
      (c.find key m line pos).2.KnowsBehind m line key ahead := by
  unfold Cache.find
  split
  · -- the search is made, and its answer is known from its own place on
    refine ⟨rfl, fun o known => ⟨pos, hpos, sorted, ?_⟩⟩
    rw [lookup_record, if_pos rfl] at known
    exact Option.some.inj known
  · next fresh =>
    cases known : c.entries.lookup key with
    | none => simp [isStale, known] at fresh
    | some o =>
      obtain ⟨n, hn, le, answer⟩ := h o known
      have lies : ∀ r, o = some r → pos ≤ r.start := by
        rintro r rfl
        simpa [isStale, known] using fresh
      refine ⟨?_, fun o' known' => ?_⟩
      · exact Matcher.Answers.eq_find
          ⟨n, le pos List.mem_cons_self, hn, answer, .inr lies⟩ stable hpos
      · obtain rfl : o = o' := Option.some.inj (known.symm.trans known')
        exact ⟨n, hn, fun k mem => le k (List.mem_cons_of_mem _ mem), answer⟩

/-- With a stable matcher all calls under its key are answered by what it finds. -/
lemma KnowsBehind.findAll {matcher : RuleKey → Matcher} {c : Cache}
    (h : c.KnowsBehind (matcher key) line key (places key calls))
    (stable : (matcher key).Stable line) (ascends : Ascending line key calls) {i : Nat}
    (here : calls[i]? = some (key, pos)) :
    (c.findAll matcher line calls)[i]? = some ((matcher key).find line pos) := by
  induction calls generalizing c i with
  | nil => cases here
  | cons call calls ih =>
    obtain ⟨other, at'⟩ := call
    obtain ⟨boundary, sorted⟩ := ascends
    rw [Cache.findAll]
    by_cases same : other = key
    · subst same
      rw [places_cons_self] at h boundary sorted
      obtain ⟨hpos, boundary⟩ := List.forall_mem_cons.1 boundary
      obtain ⟨first, sorted⟩ := List.pairwise_cons.1 sorted
      obtain ⟨answer, knows⟩ := h.find stable hpos first
      cases i with
      | zero =>
        cases here
        exact congrArg some answer
      | succ i => exact ih knows ⟨boundary, sorted⟩ here
    · rw [places_cons_of_ne same] at h boundary sorted
      cases i with
      | zero =>
        cases here
        exact absurd rfl same
      | succ i =>
        refine ih (fun o known => ?_) ⟨boundary, sorted⟩ here
        rw [lookup_find_of_ne (Ne.symm same)] at known
        exact h o known

/-- The second of two calls is answered by what the first one has found, if that lies ahead. -/
lemma find_record_find {n k : Nat} (ahead : ∀ r, m.find line n = some r → k ≤ r.start) :
    ((record {} key (m.find line n)).find key m line k).1 = m.find line n := by
  have known : (record {} key (m.find line n)).entries.lookup key = some (m.find line n) := by
    rw [lookup_record, if_pos rfl]
  have fresh : (record {} key (m.find line n)).isStale key k = false := by
    rw [isStale, known]
    cases found : m.find line n with
    | none => rfl
    | some r => exact decide_eq_false (Nat.not_lt.2 (ahead r found))
  rw [Cache.find, fresh, known]
  rfl

/-- If all answers are what the matcher finds, a search further right finds what lies ahead. -/
lemma IsFresh.find_eq (h : IsFresh m line) {n k : Nat} (hn : Text.IsBoundary line n)
    (hk : Text.IsBoundary line k) (le : n ≤ k)
    (ahead : ∀ r, m.find line n = some r → k ≤ r.start) : m.find line k = m.find line n := by
  let key : RuleKey := ⟨0, 0⟩
  have ascends : Ascending line key [(key, n), (key, k)] := by
    have both : places key [(key, n), (key, k)] = [n, k] := by
      rw [places_cons_self, places_cons_self, places, List.filter_nil, List.map_nil]
    constructor
    · rw [both]
      exact List.forall_mem_cons.2 ⟨hn, List.forall_mem_singleton.2 hk⟩
    · rw [both]
      exact List.pairwise_pair.2 le
  have second := h (fun _ => m) key {} _ rfl ascends 1 k rfl
  have answer : ((record {} key (m.find line n)).find key m line k).1 = m.find line k :=
    Option.some.inj second
  exact answer.symm.trans (find_record_find ahead)

/-- The cache answers what the matcher finds if and only if the matcher is stable. -/
lemma isFresh_iff_stable (m : Matcher) (line : Text) : IsFresh m line ↔ m.Stable line := by
  constructor
  · intro fresh
    constructor
    · intro n k hn hk le miss
      rw [fresh.find_eq hn hk le (by simp [miss]), miss]
    · intro n k r hn hk le found ahead
      rw [fresh.find_eq hn hk le (by simpa [found] using ahead), found]
  · intro stable matcher key c calls same ascends i pos here
    subst same
    refine KnowsBehind.findAll (fun o known => ?_) stable ascends here
    cases known

end Cache

/--
For every pattern that can be read and on every line, the cache gives for all calls that ascend what
a search finds if and only if the matcher is stable on the line: a match that lies ahead is still
the first one, and a miss stays a miss further right. That is so on all lines if the pattern neither
asks where the search began nor moves the start of the match.
-/
theorem cache_isFresh_iff_stable {source : String} {m : Matcher}
    (accepted : Matcher.ofSource source = .ok m) :
    (∀ line, Cache.IsFresh m line ↔ m.Stable line) ∧
      ∀ p, Pattern.read source.toList = .ok p → p.isLocal = true →
        ∀ line, Cache.IsFresh m line := by
  refine ⟨Cache.isFresh_iff_stable m, fun p read isLocal line => ?_⟩
  rw [Matcher.ofSource, read] at accepted
  cases accepted
  exact (Cache.isFresh_iff_stable _ line).2 (Pattern.stable_of_isLocal isLocal source line)

/-- What a check says of an outcome holds of the value it comes with. -/
lemma Except.exists_ok_of_any {ε α : Type} {x : Except ε α} {f : α → Bool}
    (h : x.toOption.any f = true) : ∃ a, x = .ok a ∧ f a = true := by
  cases x with
  | error cause => cases h
  | ok a => exact ⟨a, rfl, h⟩

/-- A pattern that looks behind passes over an early letter and is answered by no stale match. -/
theorem cache_isFresh_iff_stable_behind :
    ∃ m p, Matcher.ofSource "(?<=é)a|b\\b" = .ok m ∧
      Pattern.read "(?<=é)a|b\\b".toList = .ok p ∧ p.isLocal = true ∧
      m.find ['a', 'é', 'a', 'b'] 0 = some ⟨⟨3, 4⟩, []⟩ ∧
      Cache.IsFresh m ['a', 'é', 'a', 'b'] := by
  have checked : (Pattern.read "(?<=é)a|b\\b".toList).toOption.any (fun p =>
      p.isLocal && p.find ['a', 'é', 'a', 'b'] 0 == some ⟨⟨3, 4⟩, []⟩) = true := by
    decide +kernel
  obtain ⟨p, read, holds⟩ := Except.exists_ok_of_any checked
  obtain ⟨isLocal, found⟩ := Bool.and_eq_true_iff.1 holds
  have accepted : Matcher.ofSource "(?<=é)a|b\\b" = .ok (p.matcher "(?<=é)a|b\\b") := by
    rw [Matcher.ofSource, read]
    rfl
  exact ⟨_, p, accepted, read, isLocal, eq_of_beq found,
    (cache_isFresh_iff_stable accepted).2 p read isLocal _⟩

/--
A pattern that asks for the start of the search is missed where a search finds it, and one that
moves the start of the match is found where a search does not.
-/
theorem cache_answers_unlike_search :
    (∃ m, Matcher.ofSource "\\Ga" = .ok m ∧
      Cache.findAll (fun _ => m) ['b', 'a'] {} [(⟨0, 0⟩, 0), (⟨0, 0⟩, 1)] = [none, none] ∧
      [0, 1].map (m.find ['b', 'a']) = [none, some ⟨⟨1, 2⟩, []⟩] ∧
      ¬ Cache.IsFresh m ['b', 'a']) ∧
    ∃ m, Matcher.ofSource "a\\Kb" = .ok m ∧
      Cache.findAll (fun _ => m) ['a', 'b'] {} [(⟨0, 0⟩, 0), (⟨0, 0⟩, 1)]
        = [some ⟨⟨1, 2⟩, []⟩, some ⟨⟨1, 2⟩, []⟩] ∧
      [0, 1].map (m.find ['a', 'b']) = [some ⟨⟨1, 2⟩, []⟩, none] ∧
      ¬ Cache.IsFresh m ['a', 'b'] := by
  have start : Text.IsBoundary ['b', 'a'] 0 ∧ Text.IsBoundary ['b', 'a'] 1 := by decide
  have start' : Text.IsBoundary ['a', 'b'] 0 ∧ Text.IsBoundary ['a', 'b'] 1 := by decide
  constructor
  · have checked : (Matcher.ofSource "\\Ga").toOption.any (fun m =>
        Cache.findAll (fun _ => m) ['b', 'a'] {} [(⟨0, 0⟩, 0), (⟨0, 0⟩, 1)] == [none, none] &&
          [0, 1].map (m.find ['b', 'a']) == [none, some ⟨⟨1, 2⟩, []⟩]) = true := by
      decide +kernel
    obtain ⟨m, accepted, holds⟩ := Except.exists_ok_of_any checked
    simp only [Bool.and_eq_true, beq_iff_eq] at holds
    obtain ⟨answers, searches⟩ := holds
    refine ⟨m, accepted, answers, searches, fun fresh => ?_⟩
    obtain ⟨miss, found⟩ : m.find ['b', 'a'] 0 = none ∧ m.find ['b', 'a'] 1 ≠ none := by
      simp only [List.map_cons, List.map_nil, List.cons.injEq] at searches
      simp [searches.1, searches.2.1]
    exact found ((fresh.find_eq start.1 start.2 (by decide) (by simp [miss])).trans miss)
  · have checked : (Matcher.ofSource "a\\Kb").toOption.any (fun m =>
        Cache.findAll (fun _ => m) ['a', 'b'] {} [(⟨0, 0⟩, 0), (⟨0, 0⟩, 1)]
            == [some ⟨⟨1, 2⟩, []⟩, some ⟨⟨1, 2⟩, []⟩] &&
          [0, 1].map (m.find ['a', 'b']) == [some ⟨⟨1, 2⟩, []⟩, none]) = true := by
      decide +kernel
    obtain ⟨m, accepted, holds⟩ := Except.exists_ok_of_any checked
    simp only [Bool.and_eq_true, beq_iff_eq] at holds
    obtain ⟨answers, searches⟩ := holds
    refine ⟨m, accepted, answers, searches, fun fresh => ?_⟩
    obtain ⟨found, miss⟩ :
        m.find ['a', 'b'] 0 = some ⟨⟨1, 2⟩, []⟩ ∧ m.find ['a', 'b'] 1 = none := by
      simp only [List.map_cons, List.map_nil, List.cons.injEq] at searches
      exact ⟨searches.1, searches.2.1⟩
    have same := fresh.find_eq start'.1 start'.2 (by decide) (by simp [found, Match.start])
    rw [found, miss] at same
    cases same

end Highlighter
