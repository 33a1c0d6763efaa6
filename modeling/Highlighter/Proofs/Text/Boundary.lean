import Mathlib.Tactic.Lemma
import Highlighter.Text.Line

/-!
# Boundaries of a text

A boundary is the size of some beginning of the text. From this view come the facts that the other
proofs use: boundaries do not exceed the size of the text, a boundary of a part is one of the whole
when moved by what stands before the part, and two boundaries enclose a slice.
-/

namespace Highlighter.Text

/-- Boundaries are the sizes of the beginnings of a text. -/
lemma isBoundary_iff {t : Text} {n : Nat} : IsBoundary t n ↔ ∃ a b, t = a ++ b ∧ size a = n := by
  constructor
  · intro h
    obtain ⟨⟨a, b⟩, hab⟩ := Option.isSome_iff_exists.1 h
    exact ⟨a, b, splitAt?_eq_some hab⟩
  · rintro ⟨a, b, rfl, rfl⟩
    simp [IsBoundary]

/-- A text starts at a boundary. -/
@[simp] lemma isBoundary_zero (t : Text) : IsBoundary t 0 := isBoundary_iff.2 ⟨[], t, rfl, rfl⟩

/-- A text ends at a boundary. -/
@[simp] lemma isBoundary_size (t : Text) : IsBoundary t (size t) :=
  isBoundary_iff.2 ⟨t, [], by simp, rfl⟩

/-- No boundary is behind the end. -/
lemma IsBoundary.le_size {t : Text} {n : Nat} (h : IsBoundary t n) : n ≤ size t := by
  obtain ⟨a, b, rfl, rfl⟩ := isBoundary_iff.1 h
  simp

/-- Every character has bytes. -/
lemma size_eq_zero {t : Text} : size t = 0 ↔ t = [] := by
  cases t with
  | nil => simp
  | cons c t =>
    have pos : 0 < c.utf8Size := Char.utf8Size_pos c
    simp only [size_cons, reduceCtorEq, iff_false]
    omega

/-- Two divisions of one text at the same offset are equal. -/
lemma append_inj_of_size {s t x y : Text} (same : s ++ x = t ++ y) (sizes : size s = size t) :
    s = t ∧ x = y := by
  have cut : splitAt? (s ++ x) (size s) = some (t, y) := by
    rw [same, sizes, splitAt?_append]
  rw [splitAt?_append] at cut
  cases cut
  exact ⟨rfl, rfl⟩

/-- A boundary of a part is a boundary of the whole. -/
lemma IsBoundary.append {t : Text} {n : Nat} (h : IsBoundary t n) (a b : Text) :
    IsBoundary (a ++ t ++ b) (size a + n) := by
  obtain ⟨c, d, rfl, rfl⟩ := isBoundary_iff.1 h
  exact isBoundary_iff.2 ⟨a ++ c, d ++ b, by simp, by simp⟩

/-- Behind the beginning `a`, boundaries of a text are those of the rest. -/
lemma IsBoundary.drop {a t : Text} {n : Nat} (h : IsBoundary (a ++ t) n) (le : size a ≤ n) :
    IsBoundary t (n - size a) := by
  obtain ⟨c, d, e, rfl⟩ := isBoundary_iff.1 h
  rcases List.append_eq_append_iff.1 e with ⟨x, rfl, rfl⟩ | ⟨x, rfl, rfl⟩
  · exact isBoundary_iff.2 ⟨x, d, rfl, by simp⟩
  · -- the boundary lies inside `a`, so it can only be where `a` ends
    have hx : size x = 0 := by simp at le; omega
    simp [hx]

/-- The later of two boundaries is one. -/
lemma IsBoundary.max {t : Text} {m n : Nat} (hm : IsBoundary t m) (hn : IsBoundary t n) :
    IsBoundary t (max m n) := by
  rcases Nat.le_total m n with h | h
  · rwa [Nat.max_eq_right h]
  · rwa [Nat.max_eq_left h]

/-- So is the earlier one. -/
lemma IsBoundary.min {t : Text} {m n : Nat} (hm : IsBoundary t m) (hn : IsBoundary t n) :
    IsBoundary t (min m n) := by
  rcases Nat.le_total m n with h | h
  · rwa [Nat.min_eq_left h]
  · rwa [Nat.min_eq_right h]

/-- The place behind a character is a boundary. -/
lemma isBoundary_of_charAt? {t : Text} {n : Nat} {c : Char} (h : charAt? t n = some c) :
    IsBoundary t (n + c.utf8Size) := by
  unfold charAt? at h
  split at h
  · next a d rest e =>
    cases h
    obtain ⟨rfl, rfl⟩ := splitAt?_eq_some e
    exact isBoundary_iff.2 ⟨a ++ [c], rest, by simp, by simp⟩
  · cases h

/-- Only at the end of a text no character starts at a boundary. -/
lemma IsBoundary.eq_size_of_charAt? {t : Text} {n : Nat} (h : IsBoundary t n)
    (none : charAt? t n = none) : n = size t := by
  obtain ⟨a, b, rfl, rfl⟩ := isBoundary_iff.1 h
  cases b with
  | nil => simp
  | cons c b => simp [charAt?] at none

/-- The slice between the sizes of two beginnings. -/
lemma slice?_append (a b c : Text) : slice? (a ++ b ++ c) (size a) (size a + size b) = some b := by
  have cut : splitAt? (a ++ (b ++ c)) (size a) = some (a, b ++ c) := splitAt?_append a (b ++ c)
  have le : ¬ size a + size b < size a := by omega
  simp [slice?, le, List.append_assoc, cut]

/-- A slice that starts behind `a` is a beginning of what stands there. -/
lemma slice?_append_left {a b s : Text} {n : Nat} :
    slice? (a ++ b) (size a) n = some s ↔ ∃ c, b = s ++ c ∧ size (a ++ s) = n := by
  constructor
  · intro h
    by_cases lt : n < size a
    · simp [slice?, lt] at h
    · simp only [slice?, if_neg lt, splitAt?_append] at h
      obtain ⟨_, ⟨⟩, h⟩ := Option.bind_eq_some_iff.1 h
      obtain ⟨⟨s, c⟩, cut, ⟨⟩⟩ := Option.bind_eq_some_iff.1 h
      obtain ⟨rfl, sizes⟩ := splitAt?_eq_some cut
      refine ⟨c, rfl, ?_⟩
      rw [size_append, sizes]
      omega
  · rintro ⟨c, rfl, rfl⟩
    rw [← List.append_assoc, size_append]
    exact slice?_append a s c

/-- The character behind a first part is the first one of the second. -/
lemma charAt?_append (a b : Text) : charAt? (a ++ b) (size a) = b.head? := by
  rw [charAt?, splitAt?_append]
  cases b <;> rfl

/-- Two boundaries in order enclose a slice. -/
lemma IsBoundary.exists_slice {t : Text} {m n : Nat} (hm : IsBoundary t m) (hn : IsBoundary t n)
    (le : m ≤ n) : ∃ a b c, t = a ++ b ++ c ∧ size a = m ∧ size a + size b = n := by
  obtain ⟨a, rest, rfl, rfl⟩ := isBoundary_iff.1 hm
  obtain ⟨b, c, rfl, hb⟩ := isBoundary_iff.1 (hn.drop le)
  exact ⟨a, b, c, by simp, rfl, by omega⟩

end Highlighter.Text
