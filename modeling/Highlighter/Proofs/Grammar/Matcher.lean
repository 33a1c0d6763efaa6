import Mathlib
import Highlighter.Grammar.Definition
import Highlighter.Proofs.Text.Lines

/-!
# What matchers promise

Soundness says that what a search finds fits the line (`Match.Fits`), stability that a search need
not be repeated while its answer lies ahead (`Matcher.Answers.eq_find`). On a given line both can be
checked by making all searches, which `Matcher.checkSound` and `Matcher.checkStable` do.
-/

namespace Highlighter

/-- All boundaries of a text that starts at an offset. -/
def Text.boundariesFrom (n : Nat) : Text → List Nat
  | [] => [n]
  | c :: t => n :: boundariesFrom (n + c.utf8Size) t

/-- All boundaries of a text. -/
def Text.boundaries (t : Text) : List Nat := boundariesFrom 0 t

/-- Boundaries are counted from a first offset on. -/
lemma Text.mem_boundariesFrom {t : Text} {n k : Nat} :
    k ∈ boundariesFrom n t ↔ ∃ a b, t = a ++ b ∧ n + size a = k := by
  induction t generalizing n with
  | nil => simp [boundariesFrom, eq_comm]
  | cons c t ih =>
    simp only [boundariesFrom, List.mem_cons, ih]
    constructor
    · rintro (rfl | ⟨a, b, rfl, rfl⟩)
      · exact ⟨[], c :: t, rfl, rfl⟩
      · exact ⟨c :: a, b, rfl, by simp [Nat.add_assoc]⟩
    · rintro ⟨a, b, e, rfl⟩
      cases a with
      | nil => exact .inl rfl
      | cons d a =>
        cases e
        exact .inr ⟨a, b, rfl, by simp [Nat.add_assoc]⟩

/-- The listed boundaries are all there are. -/
lemma Text.mem_boundaries {t : Text} {n : Nat} : n ∈ boundaries t ↔ IsBoundary t n := by
  simp [boundaries, mem_boundariesFrom, isBoundary_iff]

/-- A match that lies at or behind a place of a line, on boundaries. -/
structure Match.Fits (line : Text) (pos : Nat) (r : Match) : Prop where
  le_start : pos ≤ r.start
  start_le_stop : r.start ≤ r.stop
  start : Text.IsBoundary line r.start
  stop : Text.IsBoundary line r.stop
  groups : ∀ g, some g ∈ r.groups → Text.IsBoundary line g.start ∧ Text.IsBoundary line g.stop

/-- Whether a match lies at or behind a place of a line, on boundaries. -/
def Match.checkFits (line : Text) (pos : Nat) (r : Match) : Bool :=
  let places := Text.boundaries line
  pos ≤ r.start && r.start ≤ r.stop && places.contains r.start && places.contains r.stop &&
    r.groups.all fun g => g.all fun g => places.contains g.start && places.contains g.stop

/-- The check of a match finds out whether it fits. -/
lemma Match.checkFits_iff {line : Text} {pos : Nat} {r : Match} :
    r.checkFits line pos = true ↔ r.Fits line pos := by
  simp only [checkFits, Bool.and_eq_true, decide_eq_true_eq, List.all_eq_true,
    List.contains_iff_mem, Text.mem_boundaries]
  constructor
  · rintro ⟨⟨⟨⟨le_start, start_le_stop⟩, start⟩, stop⟩, groups⟩
    refine ⟨le_start, start_le_stop, start, stop, fun g hg => ?_⟩
    simpa [Text.mem_boundaries] using groups (some g) hg
  · intro fits
    refine ⟨⟨⟨⟨fits.le_start, fits.start_le_stop⟩, fits.start⟩, fits.stop⟩, fun g hg => ?_⟩
    cases g with
    | none => rfl
    | some g => simpa [Text.mem_boundaries] using fits.groups g hg

namespace Matcher

/--
What may be taken for the first match from a place on: the answer to a search from there, or one to
a search further left that still lies ahead.
-/
def Answers (m : Matcher) (line : Text) (pos : Nat) (o : Option Match) : Prop :=
  ∃ n, n ≤ pos ∧ Text.IsBoundary line n ∧ m.find line n = o ∧
    (n = pos ∨ ∀ r, o = some r → pos ≤ r.start)

/-- A matcher is sound if all that it finds fits. -/
lemma sound_iff {m : Matcher} {line : Text} :
    m.Sound line ↔ ∀ n r, Text.IsBoundary line n → m.find line n = some r → r.Fits line n := by
  constructor
  · intro sound n r hn found
    obtain ⟨le_start, start_le_stop, _⟩ := sound.bounds n r hn found
    obtain ⟨start, stop, groups⟩ := sound.boundary n r hn found
    exact ⟨le_start, start_le_stop, start, stop, groups⟩
  · intro h
    constructor
    · intro n r hn found
      have fits := h n r hn found
      exact ⟨fits.le_start, fits.start_le_stop, fits.stop.le_size⟩
    · intro n r hn found
      have fits := h n r hn found
      exact ⟨fits.start, fits.stop, fits.groups⟩

/-- An answer with a match fits the line, if the matcher is sound. -/
lemma Answers.fits {m : Matcher} {line : Text} {pos : Nat} {r : Match}
    (h : m.Answers line pos (some r)) (sound : m.Sound line) : r.Fits line pos := by
  obtain ⟨n, _, hn, found, ahead⟩ := h
  have fits := sound_iff.1 sound n r hn found
  rcases ahead with rfl | ahead
  · exact fits
  · exact { fits with le_start := ahead r rfl }

/-- Answers of a stable matcher are those that a search finds. -/
lemma Answers.eq_find {m : Matcher} {line : Text} {pos : Nat} {o : Option Match}
    (h : m.Answers line pos o) (stable : m.Stable line) (hpos : Text.IsBoundary line pos) :
    o = m.find line pos := by
  obtain ⟨n, le, hn, found, rfl | ahead⟩ := h
  · exact found.symm
  · cases o with
    | none => exact (stable.miss n pos hn hpos le found).symm
    | some r => exact (stable.hit n pos r hn hpos le found (ahead r rfl)).symm

/-- Makes all searches in a line and checks that what they find fits. -/
def checkSound (m : Matcher) (line : Text) : Bool :=
  (Text.boundaries line).all fun n => (m.find line n).all (Match.checkFits line n)

/-- Makes all searches in a line and checks that one further left answers for one further right. -/
def checkStable (m : Matcher) (line : Text) : Bool :=
  (Text.boundaries line).all fun n => (Text.boundaries line).all fun k =>
    k < n || match m.find line n with
      | none => (m.find line k).isNone
      | some r => r.start < k || m.find line k == some r

/-- The check for soundness finds out whether a matcher is sound on a line. -/
lemma checkSound_iff {m : Matcher} {line : Text} : m.checkSound line = true ↔ m.Sound line := by
  simp only [checkSound, List.all_eq_true, Text.mem_boundaries, sound_iff]
  constructor
  · intro h n r hn found
    have checked := h n hn
    rw [found] at checked
    exact Match.checkFits_iff.1 checked
  · intro h n hn
    cases found : m.find line n with
    | none => rfl
    | some r => exact Match.checkFits_iff.2 (h n r hn found)

/-- A matcher that passes the check for stability is stable on the line. -/
lemma stable_of_checkStable {m : Matcher} {line : Text} (h : m.checkStable line = true) :
    m.Stable line := by
  simp only [checkStable, List.all_eq_true, Text.mem_boundaries] at h
  constructor
  · intro n k hn hk le miss
    have checked := h n hn k hk
    simpa [miss, Nat.not_lt.2 le] using checked
  · intro n k r hn hk le found ahead
    have checked := h n hn k hk
    simpa [found, Nat.not_lt.2 le, Nat.not_lt.2 ahead] using checked

end Matcher

/-- The matchers of a grammar are sound on a line. -/
def Table.SoundOn (table : Table) (line : Text) : Prop :=
  ∀ rule ∈ table.rules, rule.matcher.Sound line

/-- The rules of a state are rules of the grammar. -/
lemma Table.mem_rules {table : Table} {index : Nat} {rules : LexicalState} {rule : Rule}
    (state : table.state? index = some rules) (h : rule ∈ rules) : rule ∈ table.rules :=
  List.mem_flatten.2 ⟨rules, List.mem_of_getElem? state, h⟩

/-- The matchers of a grammar are stable on a line. -/
def Table.StableOn (table : Table) (line : Text) : Prop :=
  ∀ rule ∈ table.rules, rule.matcher.Stable line

/-- Checks the matchers of a grammar on all lines of a text. -/
def Table.checks (check : Matcher → Text → Bool) (text : Text) (table : Table) : Bool :=
  (physicalLines text).all fun line => table.rules.all fun rule => check rule.matcher line.content

/-- A table that passes the check for soundness is sound on all lines. -/
lemma Table.soundOn_of_checks {table : Table} {text : Text}
    (h : table.checks Matcher.checkSound text = true) :
    ∀ line ∈ physicalLines text, table.SoundOn line.content := by
  intro line hline rule hrule
  simp only [checks, List.all_eq_true] at h
  exact Matcher.checkSound_iff.1 (h line hline rule hrule)

/-- A table that passes the check for stability is stable on all lines. -/
lemma Table.stableOn_of_checks {table : Table} {text : Text}
    (h : table.checks Matcher.checkStable text = true) :
    ∀ line ∈ physicalLines text, table.StableOn line.content := by
  intro line hline rule hrule
  simp only [checks, List.all_eq_true] at h
  exact Matcher.stable_of_checkStable (h line hline rule hrule)

/-- What holds of the table that comes of a definition holds of the table that came of it. -/
lemma Definition.of_compile {d : Definition} {table : Table} (compiled : d.compile = .ok table)
    {p : Table → Bool} (h : d.compile.toOption.any p = true) : p table = true := by
  simpa [compiled, Except.toOption] using h

/-- A definition that compiles has a table. -/
lemma Definition.exists_table {d : Definition} (compiles : d.compile.isOk = true) :
    ∃ table, d.compile = .ok table := by
  cases compiled : d.compile with
  | error e => cases compiled ▸ compiles
  | ok table => exact ⟨table, rfl⟩

/-- A grammar of strings in quotes, which may go on over lines and set accents apart. -/
def Definition.quoting : Definition :=
  ⟨none,
    [[.shortTuple "\"" (.whole "string") 1],
      [.shortTuple "\"" (.whole "string") (-2),
        .shortTuple "(é)x?" (.groups [some "accent"]) (-1)]]⟩

/-- A string in quotes with an accent in each of its two lines. -/
def Text.twoQuotedLines : Text := ['"', 'é', '\n', 'é', '"']

/-- What the matchers of the grammar promise on the lines of the string. -/
lemma Definition.exists_quoting_table :
    ∃ table, quoting.compile = .ok table ∧
      (∀ line ∈ physicalLines Text.twoQuotedLines, table.SoundOn line.content) ∧
      ∀ line ∈ physicalLines Text.twoQuotedLines, table.StableOn line.content := by
  obtain ⟨table, compiled⟩ := exists_table (d := quoting) (by decide +kernel)
  refine ⟨table, compiled, Table.soundOn_of_checks ?_, Table.stableOn_of_checks ?_⟩
  · exact of_compile compiled (by decide +kernel)
  · exact of_compile compiled (by decide +kernel)

end Highlighter
