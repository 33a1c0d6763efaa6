import Highlighter.Proofs.Grammar.Matcher
import Highlighter.Proofs.Pattern.Reach

/-!
# What a search finds

A pattern that only reads on finds matches that fit the line, at least as long as its plan
(`Pattern.fits_of_find`). So its matcher is sound on every line. A pattern that asks for nothing but
the end of the line is found from every place (`Pattern.exists_find_lineEnd`).
-/

namespace Highlighter

namespace Cursor

variable {line : Text}

/-- The place that is sought is one of the line, at the offset that was asked for. -/
lemma on_of_seek? {before after : List Char} {offset target : Nat} {c : Cursor}
    (start : On line ⟨before, after, offset⟩) (found : seek? before offset target after = some c) :
    c.On line ∧ c.offset = target := by
  induction after generalizing before offset with
  | nil =>
    rw [seek?] at found
    split at found
    · next here =>
      cases found
      exact ⟨start, here⟩
    · cases found
  | cons x after ih =>
    rw [seek?] at found
    split at found
    · next here =>
      cases found
      exact ⟨start, here⟩
    · split at found
      · refine ih ⟨by simpa using start.parts, ?_⟩ found
        have size : Text.size before = offset := start.size
        simp [size, Nat.add_comm]
      · cases found

/-- The place behind the beginning of a line is found by its size. -/
lemma seek?_append (before : List Char) (offset : Nat) (a b : Text) :
    seek? before offset (offset + Text.size a) (a ++ b)
      = some ⟨a.reverse ++ before, b, offset + Text.size a⟩ := by
  induction a generalizing before offset with
  | nil => cases b <;> simp [seek?]
  | cons x a ih =>
    have pos : 0 < x.utf8Size := Char.utf8Size_pos x
    rw [List.cons_append, seek?, if_neg (by simp; omega), if_pos (by simp; omega), Text.size_cons,
      ← Nat.add_assoc, ih]
    simp

/-- Every boundary is found. -/
lemma exists_seek? {n : Nat} (hn : Text.IsBoundary line n) : ∃ c, seek? [] 0 n line = some c := by
  obtain ⟨a, b, rfl, rfl⟩ := Text.isBoundary_iff.1 hn
  have found := seek?_append [] 0 a b
  rw [Nat.zero_add] at found
  exact ⟨_, found⟩

end Cursor

/-- What a group has captured lies between boundaries of the line. -/
lemma Registers.On.range? {line : Text} {rs : Registers} (h : rs.On line) {group : Nat} {r : Range}
    (captured : rs.range? group = some r) :
    Text.IsBoundary line r.start ∧ Text.IsBoundary line r.stop := by
  have places := h.of group
  unfold Registers.range? at captured
  split at captured
  · next start stop e =>
    cases captured
    rw [e] at places
    exact ⟨places _ (.inl rfl), places _ (.inr rfl)⟩
  · cases captured

namespace Pattern

variable {line : Text} {p : Pattern} {s : Search}

/-- A match at a place starts there, fits the line and is as long as the plan asks for. -/
lemma fits_of_matchAt (h : p.plan.readsOn) {c : Cursor} (hc : c.On line) {r : Match}
    (found : p.matchAt s c = some r) :
    r.Fits line c.offset ∧ r.start + p.plan.least ≤ r.stop := by
  have begin : Attempt.On line ⟨c, s.size, List.replicate p.groups {}, none, 0⟩ := by
    refine ⟨hc, fun r hr n hn => ?_, rfl⟩
    obtain rfl := List.eq_of_mem_replicate hr
    simp at hn
  have moves : Attempt.Moves line p.plan.least (p.plan.run s (p.callee s maxCalls)) :=
    Plan.moves_run h
  have reached := moves.good_ok begin
  unfold matchAt attempt at found
  split at found
  · next t e =>
    rw [e] at reached
    obtain ⟨on, far⟩ := reached
    cases found
    have start : (p.toMatch c.offset t).start = c.offset := by
      have le : c.offset ≤ t.offset := Nat.le_trans (Nat.le_add_right _ _) far
      simp [toMatch, Match.start, on.kept, le]
    have stop : (p.toMatch c.offset t).stop = t.offset := rfl
    rw [start, stop]
    refine ⟨⟨start.ge, ?_, ?_, on.cursor.isBoundary, fun g hg => ?_⟩, far⟩
    · rw [start, stop]
      exact Nat.le_trans (Nat.le_add_right _ _) far
    · rw [start]
      exact hc.isBoundary
    · obtain ⟨i, _, captured⟩ := List.mem_map.1 hg
      exact on.registers.range? captured
  · cases found

/-- What is found at or behind a place fits the line from there on. -/
lemma fits_of_findFrom (h : p.plan.readsOn) {before after : List Char} {offset : Nat}
    (hc : Cursor.On line ⟨before, after, offset⟩) {r : Match}
    (found : p.findFrom s before offset after = some r) :
    r.Fits line offset ∧ r.start + p.plan.least ≤ r.stop := by
  induction after generalizing before offset with
  | nil => exact fits_of_matchAt h hc found
  | cons x after ih =>
    rw [findFrom] at found
    split at found
    · next m e =>
      cases found
      exact fits_of_matchAt h hc e
    · have size : Text.size before = offset := hc.size
      have next : Cursor.On line ⟨x :: before, after, offset + x.utf8Size⟩ :=
        ⟨by simpa using hc.parts, by simp [size, Nat.add_comm]⟩
      obtain ⟨fits, long⟩ := ih next found
      exact ⟨{ fits with le_start := Nat.le_trans (Nat.le_add_right _ _) fits.le_start }, long⟩

/-- What a pattern finds that only reads on fits the line and is as long as its plan asks for. -/
theorem fits_of_find (h : p.plan.readsOn) {n : Nat} {r : Match} (found : p.find line n = some r) :
    r.Fits line n ∧ r.start + p.plan.least ≤ r.stop := by
  unfold find at found
  split at found
  · next c e =>
    obtain ⟨on, rfl⟩ := Cursor.on_of_seek? ⟨rfl, rfl⟩ e
    exact fits_of_findFrom h on found
  · cases found

/-- The end of the line is found from every place of the line. -/
theorem exists_find_lineEnd (h : p.plan = .anchor .lineEnd) {n : Nat}
    (hn : Text.IsBoundary line n) :
    ∃ r, p.find line n = some r := by
  have at_end : ∀ s before offset, ∃ r, p.matchAt s ⟨before, [], offset⟩ = some r := by
    intro s before offset
    simp [matchAt, attempt, h, Plan.run, Anchor.holds]
  have further : ∀ s after before offset, ∃ r, p.findFrom s before offset after = some r := by
    intro s after
    induction after with
    | nil => exact at_end s
    | cons x after ih =>
      intro before offset
      rw [findFrom]
      split
      · next m _ => exact ⟨m, rfl⟩
      · exact ih _ _
  obtain ⟨c, found⟩ := Cursor.exists_seek? hn
  unfold find
  rw [found]
  exact further _ _ _ _

/-- The matcher of a pattern that only reads on is sound. -/
lemma sound_of_readsOn (h : p.plan.readsOn) (source : String) (line : Text) :
    (p.matcher source).Sound line :=
  Matcher.sound_iff.2 fun _ _ _ found => (fits_of_find h found).1

end Pattern

end Highlighter
