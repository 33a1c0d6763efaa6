/-!
# Texts and byte offsets

A text is the list of its characters. Offsets into a text count UTF-8 bytes, so an offset is
meaningful only where it falls between two characters. `splitAt?` cuts a text at an offset and
refuses one that lies inside a character or behind the end; `IsBoundary` is that condition.
-/

namespace Highlighter

/-- A text is the list of its characters. -/
abbrev Text := List Char

namespace Text

/-- Number of UTF-8 bytes of a text. -/
def size : List Char → Nat
  | [] => 0
  | c :: t => c.utf8Size + size t

/-- No characters have no bytes. -/
@[simp] theorem size_nil : size [] = 0 := rfl

/-- One more character adds its bytes. -/
@[simp] theorem size_cons (c : Char) (t : List Char) : size (c :: t) = c.utf8Size + size t := rfl

/-- Sizes add up. -/
@[simp] theorem size_append (s t : List Char) : size (s ++ t) = size s + size t := by
  induction s with
  | nil => simp
  | cons c s ih => simp [ih, Nat.add_assoc]

/-- The two parts of a text before and after a byte offset, if the offset is a boundary. -/
def splitAt? : List Char → Nat → Option (List Char × List Char)
  | t, 0 => some ([], t)
  | [], _ + 1 => none
  | c :: t, n + 1 =>
    if c.utf8Size ≤ n + 1 then
      (splitAt? t (n + 1 - c.utf8Size)).map fun p => (c :: p.1, p.2)
    else none

/-- An offset is a boundary if it lies at the start, at the end or between two characters. -/
def IsBoundary (t : List Char) (n : Nat) : Prop := (splitAt? t n).isSome

instance (t : List Char) (n : Nat) : Decidable (IsBoundary t n) :=
  inferInstanceAs (Decidable ((splitAt? t n).isSome = true))

/-- The characters between two boundaries. -/
def slice? (t : List Char) (start stop : Nat) : Option (List Char) := do
  if stop < start then none
  let (_, rest) ← splitAt? t start
  let (middle, _) ← splitAt? rest (stop - start)
  return middle

/-- The character that starts at a byte offset. -/
def charAt? (t : List Char) (n : Nat) : Option Char :=
  match splitAt? t n with
  | some (_, c :: _) => some c
  | _ => none

/-- What `splitAt?` returns is a cut of the text at that offset. -/
theorem splitAt?_eq_some {t a b : List Char} {n : Nat} (h : splitAt? t n = some (a, b)) :
    t = a ++ b ∧ size a = n := by
  induction t generalizing n a b with
  | nil =>
    cases n with
    | zero => simp [splitAt?] at h; simp [h]
    | succ n => simp [splitAt?] at h
  | cons c t ih =>
    cases n with
    | zero => simp [splitAt?] at h; simp [h]
    | succ n =>
      simp only [splitAt?] at h
      split at h
      · next hc =>
        obtain ⟨⟨x, y⟩, hxy, heq⟩ := Option.map_eq_some_iff.1 h
        simp only [Prod.mk.injEq] at heq
        obtain ⟨rfl, rfl⟩ := heq
        obtain ⟨rfl, hsize⟩ := ih hxy
        exact ⟨rfl, by simp [hsize]; omega⟩
      · simp at h

/-- Cutting a concatenation at the size of its first part gives back the two parts. -/
@[simp] theorem splitAt?_append (a b : List Char) : splitAt? (a ++ b) (size a) = some (a, b) := by
  induction a with
  | nil => simp [splitAt?]
  | cons c a ih =>
    have hc : 0 < c.utf8Size := Char.utf8Size_pos c
    obtain ⟨n, hn⟩ : ∃ n, c.utf8Size + size a = n + 1 := ⟨c.utf8Size + size a - 1, by omega⟩
    simp only [List.cons_append, size_cons, hn, splitAt?]
    have hle : c.utf8Size ≤ n + 1 := by omega
    have hsub : n + 1 - c.utf8Size = size a := by omega
    simp [hle, hsub, ih]

end Text

end Highlighter
