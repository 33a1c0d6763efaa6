import Mathlib.Data.List.Chain
import Highlighter.Proofs.Text.Lines

/-!
# The lines of a text are its only partition into lines

What it means that ranges of offsets divide a text into lines is said without a way to find them:
the ranges follow one another from the start of the text to its end, contents have no character that
ends lines, and what stands between a content and the next line is an ending that is not torn apart
(`IsPartition`). Such ranges are determined line by line, since the text decides where its first
line stops and how it ends (`Text.FirstLine.unique`). The main result is
`physicalLines_unique_partition`.
-/

namespace Highlighter

/-- Where the content of a line starts and stops, and where the next line starts. -/
structure LineRange where
  start : Nat
  stop : Nat
  next : Nat
  deriving DecidableEq, Repr

/-- The offsets of a line. -/
def Line.range (l : Line) : LineRange := ⟨l.start, l.stop, l.next⟩

/--
The offsets lie between characters, the content has no character that ends lines, and behind it
stands an ending, of which nothing is left over. The ending may be missing behind a content that is
not empty.
-/
structure IsLine (t : Text) (r : LineRange) : Prop where
  boundaries : Text.IsBoundary t r.start ∧ Text.IsBoundary t r.stop ∧ Text.IsBoundary t r.next
  content : ∃ content, Text.slice? t r.start r.stop = some content ∧ '\r' ∉ content ∧ '\n' ∉ content
  gap : ∃ gap ∈ [[], ['\n'], ['\r'], ['\r', '\n']], Text.slice? t r.stop r.next = some gap
  unended : Text.slice? t r.stop r.next = some [] → r.start < r.stop
  untorn : Text.slice? t r.stop r.next = some ['\r'] → Text.charAt? t r.next ≠ some '\n'

/--
The ranges are lines of the text, each starts where the one before it points to, the first one at
the start of the text, and the last one points to its end. Only the last one may lack an ending.
-/
structure IsPartition (t : Text) (rs : List LineRange) : Prop where
  nil_iff : rs = [] ↔ t = []
  first : ∀ r ∈ rs.head?, r.start = 0
  contiguous : rs.IsChain fun r s => r.next = s.start
  last : ∀ r ∈ rs.getLast?, r.next = Text.size t
  lines : ∀ r ∈ rs, IsLine t r
  ended : rs.Pairwise fun r _ => Text.slice? t r.stop r.next ≠ some []

/-! ## The first line of a text -/

namespace Text

/-- A text divided into the content of its first line, the ending of this line, and the rest. -/
structure FirstLine (t content : Text) (ending : Option LineBreak) (rest : Text) : Prop where
  whole : t = content ++ (LineBreak.optionText ending ++ rest)
  plain : ∀ c ∈ content, ¬ EndsLine c
  unended : ending = none → content ≠ [] ∧ rest = []
  untorn : ending = some .cr → rest.head? ≠ some '\n'

namespace FirstLine

variable {t content content' rest rest' : Text} {ending ending' : Option LineBreak}

/-- A text with a first line is not empty. -/
lemma ne_nil (h : FirstLine t content ending rest) : t ≠ [] := by
  rw [h.whole]
  cases ending with
  | none => simp [(h.unended rfl).1]
  | some b => cases b <;> simp [LineBreak.optionText, LineBreak.toText]

/-- The content goes on until the first character that ends lines. -/
lemma content_eq_takeWhile (h : FirstLine t content ending rest) :
    content = t.takeWhile fun c => c ≠ '\r' ∧ c ≠ '\n' := by
  have inside : ∀ c ∈ content, decide (c ≠ '\r' ∧ c ≠ '\n') = true := by
    intro c hc
    simpa [EndsLine] using h.plain c hc
  rw [h.whole, List.takeWhile_append_of_pos inside]
  cases ending with
  | none => simp [(h.unended rfl).2, LineBreak.optionText]
  | some b => cases b <;> simp [LineBreak.optionText, LineBreak.toText]

/-- A text says how its first line ends. -/
lemma ending_unique (h : FirstLine t content ending rest) (h' : FirstLine t content ending' rest') :
    ending = ending' := by
  have same : LineBreak.optionText ending ++ rest = LineBreak.optionText ending' ++ rest' :=
    List.append_cancel_left (h.whole.symm.trans h'.whole)
  have unended := fun e => (h.unended e).2
  have unended' := fun e => (h'.unended e).2
  have untorn := h.untorn
  have untorn' := h'.untorn
  -- only a carriage return begins like another ending, and then a line feed is torn from it
  rcases ending with _ | _ | _ | _ <;> rcases ending' with _ | _ | _ | _ <;>
    grind [LineBreak.optionText, LineBreak.toText]

/-- A text has one first line. -/
lemma unique (h : FirstLine t content ending rest) (h' : FirstLine t content' ending' rest') :
    content = content' ∧ ending = ending' ∧ rest = rest' := by
  obtain rfl : content = content' := h.content_eq_takeWhile.trans h'.content_eq_takeWhile.symm
  obtain rfl := h.ending_unique h'
  have same := h.whole.symm.trans h'.whole
  exact ⟨rfl, rfl, List.append_cancel_left (List.append_cancel_left same)⟩

end FirstLine

/-- The first of the pieces is the first line, and the others are those of the rest. -/
lemma exists_firstLine_of_pieces {t : Text} (filled : t ≠ []) :
    ∃ content ending rest, FirstLine t content ending rest ∧
      pieces t = (content, ending) :: pieces rest := by
  fun_induction pieces t with
  | case1 => exact absurd rfl filled
  | case2 t => exact ⟨[], some .crlf, t, ⟨rfl, by simp, by simp, by simp⟩, rfl⟩
  | case3 t apart =>
    refine ⟨[], some .cr, t, ⟨rfl, by simp, by simp, fun _ e => ?_⟩, rfl⟩
    obtain ⟨t', rfl⟩ := List.head?_eq_some_iff.1 e
    exact apart t' rfl
  | case4 t => exact ⟨[], some .lf, t, ⟨rfl, by simp, by simp, by simp⟩, rfl⟩
  | case5 c t _ hcr hlf e =>
    obtain rfl := pieces_eq_nil e
    refine ⟨[c], none, [], ⟨rfl, ?_, by simp, by simp⟩, rfl⟩
    simpa [EndsLine] using ⟨hcr, hlf⟩
  | case6 c t _ hcr hlf content ending rest e ih =>
    -- `c` belongs to the first line of what follows it
    have more : t ≠ [] := by
      rintro rfl
      cases e
    obtain ⟨content', ending', behind, first, here⟩ := ih more
    rw [e] at here
    cases here
    refine ⟨c :: content, ending, behind, ⟨?_, ?_, ?_, first.untorn⟩, rfl⟩
    · rw [List.cons_append, ← first.whole]
    · refine List.forall_mem_cons.2 ⟨?_, first.plain⟩
      simpa [EndsLine] using ⟨hcr, hlf⟩
    · exact fun missing => ⟨by simp, (first.unended missing).2⟩

/-- A text is cut into its first line and the pieces of the rest. -/
lemma FirstLine.pieces_eq {t content rest : Text} {ending : Option LineBreak}
    (h : FirstLine t content ending rest) : pieces t = (content, ending) :: pieces rest := by
  obtain ⟨content', ending', rest', first, here⟩ := exists_firstLine_of_pieces h.ne_nil
  obtain ⟨rfl, rfl, rfl⟩ := h.unique first
  exact here

end Text

/-! ## Lines by their offsets -/

namespace LineBreak

/-- Endings are known by their text. -/
lemma optionText_injective : Function.Injective optionText := by
  rintro (_ | _ | _ | _) (_ | _ | _ | _) <;> simp [optionText, toText]

/-- The possible gaps are the texts of endings. -/
lemma mem_gaps_iff {gap : Text} :
    gap ∈ [[], ['\n'], ['\r'], ['\r', '\n']] ↔ ∃ ending, optionText ending = gap := by
  constructor
  · intro h
    simp only [List.mem_cons, List.not_mem_nil, or_false] at h
    rcases h with rfl | rfl | rfl | rfl
    exacts [⟨none, rfl⟩, ⟨some .lf, rfl⟩, ⟨some .cr, rfl⟩, ⟨some .crlf, rfl⟩]
  · rintro ⟨_ | _ | _ | _, rfl⟩ <;> simp [optionText, toText]

end LineBreak

/-- The range of a line behind some text. -/
lemma Line.range_behind (a content : Text) (ending : Option LineBreak) :
    Line.range ⟨Text.size a, content, ending⟩ = ⟨Text.size a, Text.size (a ++ content),
      Text.size (a ++ content ++ LineBreak.optionText ending)⟩ := by
  simp only [range, next, stop, endingSize_eq, Text.size_append]

section

variable {a t content rest : Text} {ending : Option LineBreak}

/-- A text is its first line, its ending and the rest. -/
lemma Text.FirstLine.append_eq (h : FirstLine t content ending rest) (a : Text) :
    a ++ t = a ++ content ++ LineBreak.optionText ending ++ rest := by
  simp only [h.whole, List.append_assoc]

/-- Behind the first line stands its ending. -/
lemma Text.FirstLine.slice?_gap (h : FirstLine t content ending rest) :
    slice? (a ++ t) (size (a ++ content)) (size (a ++ content ++ LineBreak.optionText ending))
      = some (LineBreak.optionText ending) := by
  rw [h.append_eq, List.append_assoc _ _ rest]
  exact slice?_append_left.2 ⟨rest, rfl, rfl⟩

/-- The first line of what stands behind `a` is a line of the whole text. -/
lemma Text.FirstLine.isLine (h : FirstLine t content ending rest) :
    IsLine (a ++ t) (Line.range ⟨size a, content, ending⟩) := by
  rw [Line.range_behind]
  constructor
  case boundaries =>
    have cut := h.append_eq a
    exact ⟨isBoundary_iff.2 ⟨_, _, rfl, rfl⟩,
      isBoundary_iff.2 ⟨_, _, cut.trans (List.append_assoc _ _ rest), rfl⟩,
      isBoundary_iff.2 ⟨_, _, cut, rfl⟩⟩
  case content =>
    refine ⟨content, slice?_append_left.2 ⟨_, h.whole, rfl⟩, fun hc => ?_, fun hc => ?_⟩
    · exact h.plain _ hc (.inl rfl)
    · exact h.plain _ hc (.inr rfl)
  case gap => exact ⟨_, LineBreak.mem_gaps_iff.2 ⟨ending, rfl⟩, h.slice?_gap⟩
  case unended =>
    intro empty
    rw [h.slice?_gap] at empty
    have missing : ending = none := LineBreak.optionText_injective (Option.some.inj empty)
    have pos : size content ≠ 0 := mt size_eq_zero.1 (h.unended missing).1
    dsimp only
    rw [size_append]
    omega
  case untorn =>
    intro cr
    rw [h.slice?_gap] at cr
    rw [h.append_eq, charAt?_append]
    exact h.untorn (LineBreak.optionText_injective (Option.some.inj cr))

/-- A line that starts behind `a` is the first line of what stands there. -/
lemma IsLine.exists_firstLine {r : LineRange} (h : IsLine (a ++ t) r)
    (start : r.start = Text.size a)
    (last : Text.slice? (a ++ t) r.stop r.next = some [] → r.next = Text.size (a ++ t)) :
    ∃ content ending rest, Text.FirstLine t content ending rest ∧
      r = Line.range ⟨Text.size a, content, ending⟩ := by
  obtain ⟨first, stop, next⟩ := r
  dsimp only at start last
  subst start
  obtain ⟨content, inside, cr, lf⟩ := h.content
  obtain ⟨behind, rfl, rfl⟩ := Text.slice?_append_left.1 inside
  obtain ⟨_, mem, gap⟩ := h.gap
  obtain ⟨ending, rfl⟩ := LineBreak.mem_gaps_iff.1 mem
  have unended := h.unended
  have untorn := h.untorn
  dsimp only at gap unended untorn
  rw [← List.append_assoc] at gap last unended untorn
  obtain ⟨rest, rfl, rfl⟩ := Text.slice?_append_left.1 gap
  refine ⟨content, ending, rest, ⟨rfl, ?_, ?_, ?_⟩, (Line.range_behind a content ending).symm⟩
  · rintro c hc (rfl | rfl)
    exacts [cr hc, lf hc]
  · rintro rfl
    have nonempty := unended gap
    have all := last gap
    rw [Text.size_append] at nonempty
    rw [← List.append_assoc, Text.size_append _ rest] at all
    refine ⟨?_, Text.size_eq_zero.1 (by omega)⟩
    rintro rfl
    simp at nonempty
  · rintro rfl
    have apart := untorn gap
    rwa [← List.append_assoc, Text.charAt?_append] at apart

end

/-- The ranges are lines one behind the other, from an offset to the end of the text. -/
def CutsFrom (t : Text) : Nat → List LineRange → Prop
  | n, [] => n = Text.size t
  | n, r :: rs => r.start = n ∧ IsLine t r ∧
      (rs ≠ [] → Text.slice? t r.stop r.next ≠ some []) ∧ CutsFrom t r.next rs

/-- Lines one behind the other follow each other, and only the last of them is unended. -/
lemma cutsFrom_iff {t : Text} {n : Nat} {rs : List LineRange} :
    CutsFrom t n rs ↔ (rs = [] → n = Text.size t) ∧ (∀ r ∈ rs.head?, r.start = n) ∧
      (rs.IsChain fun r s => r.next = s.start) ∧ (∀ r ∈ rs.getLast?, r.next = Text.size t) ∧
      (∀ r ∈ rs, IsLine t r) ∧ rs.Pairwise fun r _ => Text.slice? t r.stop r.next ≠ some [] := by
  induction rs generalizing n with
  | nil => simp [CutsFrom]
  | cons r rs ih =>
    have last_iff : (∀ s ∈ (r :: rs).getLast?, s.next = Text.size t) ↔
        (rs = [] → r.next = Text.size t) ∧ ∀ s ∈ rs.getLast?, s.next = Text.size t := by
      cases rs <;> simp
    rw [CutsFrom, ih, last_iff, List.isChain_cons, List.forall_mem_cons, List.pairwise_cons]
    constructor
    · rintro ⟨start, line, more, all, first, contiguous, last, lines, ended⟩
      exact ⟨fun none => absurd none (List.cons_ne_nil r rs), by simpa using start,
        ⟨fun s hs => (first s hs).symm, contiguous⟩, ⟨all, last⟩, ⟨line, lines⟩,
        fun _ hs => more (List.ne_nil_of_mem hs), ended⟩
    · rintro ⟨-, start, ⟨first, contiguous⟩, ⟨all, last⟩, ⟨line, lines⟩, more, ended⟩
      refine ⟨start r rfl, line, fun some => ?_, all, fun s hs => (first s hs).symm, contiguous,
        last, lines, ended⟩
      obtain ⟨s, hs⟩ := List.exists_mem_of_ne_nil rs some
      exact more s hs

/-- The ranges of a text are that of its first line and those of the rest, behind it. -/
lemma Text.FirstLine.map_range_place {a t content rest : Text} {ending : Option LineBreak}
    (h : FirstLine t content ending rest) :
    (Line.place (size a) (pieces t)).map Line.range = Line.range ⟨size a, content, ending⟩ ::
      (Line.place (size (a ++ content ++ LineBreak.optionText ending)) (pieces rest)).map
        Line.range := by
  have next : Line.next ⟨size a, content, ending⟩
      = size (a ++ content ++ LineBreak.optionText ending) :=
    congrArg LineRange.next (Line.range_behind a content ending)
  rw [h.pieces_eq, Line.place, next]
  rfl

/--
Lines one behind the other are the lines of the text: both begin with the first line of what stands
behind `a`, and then go on behind it.
-/
lemma cutsFrom_iff_eq {a t : Text} {rs : List LineRange} :
    CutsFrom (a ++ t) (Text.size a) rs
      ↔ rs = (Line.place (Text.size a) (Text.pieces t)).map Line.range := by
  induction rs generalizing a t with
  | nil =>
    rw [CutsFrom, Text.size_append]
    constructor
    · intro all
      obtain rfl : t = [] := Text.size_eq_zero.1 (by omega)
      rfl
    · intro none
      by_cases empty : t = []
      · rw [empty]
        rfl
      · obtain ⟨content, ending, rest, first, -⟩ := Text.exists_firstLine_of_pieces empty
        rw [first.map_range_place] at none
        cases none
  | cons r rs ih =>
    constructor
    · rintro ⟨start, line, more, others⟩
      have last : Text.slice? (a ++ t) r.stop r.next = some [] → r.next = Text.size (a ++ t) := by
        intro empty
        obtain rfl : rs = [] := by
          by_contra some
          exact more some empty
        exact others
      obtain ⟨content, ending, rest, first, rfl⟩ := line.exists_firstLine start last
      rw [Line.range_behind, first.append_eq] at others
      rw [first.map_range_place, ← ih.1 others]
    · intro e
      have some : t ≠ [] := by
        rintro rfl
        cases e
      obtain ⟨content, ending, rest, first, -⟩ := Text.exists_firstLine_of_pieces some
      rw [first.map_range_place] at e
      obtain ⟨rfl, others⟩ := List.cons.inj e
      refine ⟨rfl, first.isLine, fun more empty => more ?_, ?_⟩
      · -- a line without an ending has nothing behind it
        rw [Line.range_behind, first.slice?_gap] at empty
        have missing : ending = none := LineBreak.optionText_injective (Option.some.inj empty)
        rw [others, (first.unended missing).2]
        rfl
      · rw [Line.range_behind, first.append_eq]
        exact ih.2 others

/-- A partition cuts the text from its start on. -/
lemma isPartition_iff_cutsFrom {t : Text} {rs : List LineRange} :
    IsPartition t rs ↔ CutsFrom t 0 rs := by
  constructor
  · intro h
    refine cutsFrom_iff.2 ⟨fun none => ?_, h.first, h.contiguous, h.last, h.lines, h.ended⟩
    rw [h.nil_iff.1 none]
    rfl
  · intro h
    obtain ⟨all, first, contiguous, last, lines, ended⟩ := cutsFrom_iff.1 h
    refine ⟨⟨fun none => Text.size_eq_zero.1 (all none).symm, ?_⟩, first, contiguous, last, lines,
      ended⟩
    rintro rfl
    exact (@cutsFrom_iff_eq [] [] rs).1 h

/-- The offsets of a line enclose its content and its ending. -/
lemma slice?_of_mem_physicalLines {t : Text} {l : Line} (h : l ∈ physicalLines t) :
    Text.slice? t l.start l.stop = some l.content ∧
      Text.slice? t l.stop l.next = some (LineBreak.optionText l.ending) := by
  obtain ⟨a, b, cut, start⟩ := Line.exists_append_of_mem_place h
  rw [Text.flatMap_pieces] at cut
  rw [Nat.zero_add] at start
  have offsets := Line.range_behind a l.content l.ending
  rw [start] at offsets
  obtain ⟨-, stop, next⟩ := LineRange.mk.inj offsets
  constructor
  · rw [← start, stop, cut, List.append_assoc]
    exact Text.slice?_append_left.2 ⟨_, rfl, rfl⟩
  · rw [stop, next, cut]
    exact Text.slice?_append_left.2 ⟨_, rfl, rfl⟩

/--
The lines of a text are its only partition: ranges of offsets divide the text into lines just if
they are those of its lines. The content and the ending of a line are what its offsets enclose.
-/
theorem physicalLines_unique_partition (t : Text) :
    (∀ rs, IsPartition t rs ↔ rs = (physicalLines t).map Line.range) ∧
    ∀ l ∈ physicalLines t, Text.slice? t l.start l.stop = some l.content ∧
      Text.slice? t l.stop l.next = some (LineBreak.optionText l.ending) := by
  refine ⟨fun rs => ?_, fun l hl => slice?_of_mem_physicalLines hl⟩
  rw [isPartition_iff_cutsFrom]
  exact @cutsFrom_iff_eq [] t rs

/-- An accented letter, empty lines, all three endings, and a carriage return at the very end. -/
def Text.mixed : Text := ['é', '\n', '\r', '\r', '\n', 'x', '\r']

/-- With its carriage return and line feed torn apart, the third line would be two lines. -/
theorem physicalLines_unique_partition_mixed :
    IsPartition .mixed [⟨0, 2, 3⟩, ⟨3, 3, 4⟩, ⟨4, 4, 6⟩, ⟨6, 7, 8⟩] ∧
    ¬ IsPartition .mixed [⟨0, 2, 3⟩, ⟨3, 3, 4⟩, ⟨4, 4, 5⟩, ⟨5, 5, 6⟩, ⟨6, 7, 8⟩] ∧
    ∃ l ∈ physicalLines .mixed, l = ⟨0, ['é'], some .lf⟩ ∧
      Text.slice? Text.mixed 0 2 = some ['é'] ∧ Text.slice? Text.mixed 2 3 = some ['\n'] := by
  obtain ⟨partition, enclosed⟩ := physicalLines_unique_partition .mixed
  refine ⟨(partition _).2 (by decide), fun torn => absurd ((partition _).1 torn) (by decide), ?_⟩
  have mem : ⟨0, ['é'], some .lf⟩ ∈ physicalLines .mixed := by decide
  exact ⟨_, mem, rfl, enclosed _ mem⟩

end Highlighter
