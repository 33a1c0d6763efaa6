import Highlighter.Proofs.Text.Boundary

/-!
# Where the lines of a text stand

The contents and endings of the lines add up to the text, no content has a line feed or a carriage
return in it, and only the last line may lack an ending. Hence each content is found in the text at
the start of its line, and lines are apart from one another by at least one byte.
-/

namespace Highlighter

/-- The characters of an ending, none if it is missing. -/
def LineBreak.optionText : Option LineBreak → Text
  | some b => b.toText
  | none => []

/-- A line break has bytes. -/
lemma LineBreak.size_toText_pos (b : LineBreak) : 0 < Text.size b.toText := by
  cases b <;> decide

namespace Text

/-- A character that ends lines. -/
def EndsLine (c : Char) : Prop := c = '\r' ∨ c = '\n'

/-- Contents and endings add up to the text. -/
lemma flatMap_pieces (t : Text) :
    (pieces t).flatMap (fun p => p.1 ++ LineBreak.optionText p.2) = t := by
  fun_induction pieces t with
  | case1 => rfl
  | case2 t ih | case3 t _ ih | case4 t ih =>
    rw [List.flatMap_cons, ih]
    rfl
  | case5 c t _ _ _ e ih =>
    rw [e] at ih
    simp [← ih, LineBreak.optionText]
  | case6 c t _ _ _ content ending rest e ih =>
    -- `c` belongs to the first line of the rest
    rw [e] at ih
    simp [← ih]

/-- Only the empty text has no pieces. -/
lemma pieces_eq_nil {t : Text} (h : pieces t = []) : t = [] := by
  rw [← flatMap_pieces t, h]
  rfl

/-- No content has a character in it that ends lines. -/
lemma not_endsLine_of_mem_pieces {t : Text} {p : Text × Option LineBreak} (h : p ∈ pieces t) :
    ∀ c ∈ p.1, ¬ EndsLine c := by
  fun_induction pieces t generalizing p with
  | case1 => cases h
  | case2 t ih | case3 t _ ih | case4 t ih =>
    rcases List.mem_cons.1 h with rfl | h
    · simp
    · exact ih h
  | case5 c t _ hr hn e ih =>
    obtain rfl := List.mem_singleton.1 h
    intro d hd
    obtain rfl := List.mem_singleton.1 hd
    rintro (rfl | rfl)
    · exact hr rfl
    · exact hn rfl
  | case6 c t _ hr hn content ending rest e ih =>
    rw [e] at ih
    rcases List.mem_cons.1 h with rfl | h
    · intro d hd
      rcases List.mem_cons.1 hd with rfl | hd
      · rintro (rfl | rfl)
        · exact hr rfl
        · exact hn rfl
      · exact ih List.mem_cons_self d hd
    · exact ih (List.mem_cons_of_mem _ h)

/-- A line without an ending is the last one. -/
lemma pairwise_pieces (t : Text) : (pieces t).Pairwise fun p _ => p.2.isSome := by
  fun_induction pieces t with
  | case1 => exact .nil
  | case2 t ih | case3 t _ ih | case4 t ih => exact .cons (fun _ _ => rfl) ih
  | case5 => simp
  | case6 c t _ _ _ content ending rest e ih =>
    rw [e] at ih
    obtain ⟨first, others⟩ := List.pairwise_cons.1 ih
    exact .cons first others

end Text

namespace Line

/-- The size of an ending is that of its text. -/
lemma endingSize_eq (l : Line) : l.endingSize = Text.size (LineBreak.optionText l.ending) := by
  unfold endingSize LineBreak.optionText
  cases l.ending <;> rfl

/-- A placed line keeps the content and the ending that it was made from. -/
lemma mem_pieces_of_mem_place {ps : List (Text × Option LineBreak)} {n : Nat} {l : Line}
    (h : l ∈ place n ps) : (l.content, l.ending) ∈ ps := by
  induction ps generalizing n with
  | nil => cases h
  | cons p ps ih =>
    rcases List.mem_cons.1 h with rfl | h
    · exact List.mem_cons_self
    · exact List.mem_cons_of_mem _ (ih h)

/-- A placed line is found with its ending in the concatenation of all, where it starts. -/
lemma exists_append_of_mem_place {ps : List (Text × Option LineBreak)} {n : Nat} {l : Line}
    (h : l ∈ place n ps) :
    ∃ a b, ps.flatMap (fun p => p.1 ++ LineBreak.optionText p.2)
        = a ++ l.content ++ (LineBreak.optionText l.ending ++ b) ∧ n + Text.size a = l.start := by
  induction ps generalizing n with
  | nil => cases h
  | cons p ps ih =>
    rcases List.mem_cons.1 h with rfl | h
    · refine ⟨[], ps.flatMap (fun p => p.1 ++ LineBreak.optionText p.2), by simp, by simp⟩
    · obtain ⟨a, b, e, hn⟩ := ih h
      refine ⟨p.1 ++ LineBreak.optionText p.2 ++ a, b, by simp [e], ?_⟩
      simp only [next, stop, endingSize_eq] at hn
      simp only [Text.size_append]
      omega

/-- Lines that are placed from an offset on do not start before it. -/
lemma le_start_of_mem_place {ps : List (Text × Option LineBreak)} {n : Nat} {l : Line}
    (h : l ∈ place n ps) : n ≤ l.start := by
  obtain ⟨a, _, _, hn⟩ := exists_append_of_mem_place h
  omega

/-- Between the content of a line and the lines behind it stands an ending. -/
lemma pairwise_place {ps : List (Text × Option LineBreak)} (n : Nat)
    (ended : ps.Pairwise fun p _ => p.2.isSome) :
    (place n ps).Pairwise fun l k => l.stop < k.start := by
  induction ps generalizing n with
  | nil => exact .nil
  | cons p ps ih =>
    obtain ⟨first, others⟩ := List.pairwise_cons.1 ended
    refine .cons (fun k hk => ?_) (ih _ others)
    -- a line follows, so this one has an ending
    obtain ⟨b, hb⟩ := Option.isSome_iff_exists.1 (first _ (mem_pieces_of_mem_place hk))
    have pos := LineBreak.size_toText_pos b
    have le := le_start_of_mem_place hk
    rw [next, endingSize_eq, show LineBreak.optionText p.2 = b.toText by rw [hb]; rfl] at le
    omega

end Line

/-- The content of a line is found in the text at the start of the line. -/
lemma exists_append_of_mem_physicalLines {t : Text} {l : Line} (h : l ∈ physicalLines t) :
    ∃ a b, t = a ++ l.content ++ b ∧ Text.size a = l.start := by
  obtain ⟨a, b, e, hn⟩ := Line.exists_append_of_mem_place h
  rw [Text.flatMap_pieces] at e
  exact ⟨a, _, e, by omega⟩

/-- No character of a line ends lines. -/
lemma not_endsLine_of_mem_physicalLines {t : Text} {l : Line} (h : l ∈ physicalLines t) :
    ∀ c ∈ l.content, ¬ Text.EndsLine c :=
  Text.not_endsLine_of_mem_pieces (Line.mem_pieces_of_mem_place h)

/-- Every line stops before the next one starts. -/
lemma pairwise_physicalLines (t : Text) :
    (physicalLines t).Pairwise fun l k => l.stop < k.start :=
  Line.pairwise_place 0 (Text.pairwise_pieces t)

/-- A boundary of a line is a boundary of the text. -/
lemma isBoundary_of_mem_physicalLines {t : Text} {l : Line} (h : l ∈ physicalLines t) {n : Nat}
    (hn : Text.IsBoundary l.content n) : Text.IsBoundary t (l.start + n) := by
  obtain ⟨a, b, rfl, hs⟩ := exists_append_of_mem_physicalLines h
  rw [← hs]
  exact hn.append a b

/-- What two boundaries of a line enclose is a slice of the line and one of the text. -/
lemma exists_slice_of_mem_physicalLines {t : Text} {l : Line} (h : l ∈ physicalLines t) {m n : Nat}
    (hm : Text.IsBoundary l.content m) (hn : Text.IsBoundary l.content n) (le : m ≤ n) :
    ∃ covered, Text.slice? l.content m n = some covered ∧
      Text.slice? t (l.start + m) (l.start + n) = some covered ∧ covered ⊆ l.content := by
  obtain ⟨a, covered, c, e, rfl, rfl⟩ := hm.exists_slice hn le
  obtain ⟨before, after, rfl, start⟩ := exists_append_of_mem_physicalLines h
  refine ⟨covered, ?_, ?_, ?_⟩
  · rw [e]
    exact Text.slice?_append a covered c
  · have cut := Text.slice?_append (before ++ a) covered (c ++ after)
    rw [Text.size_append, start, Nat.add_assoc] at cut
    rw [e]
    simpa using cut
  · intro x hx
    simp [e, hx]

end Highlighter
