import Highlighter.Proofs.Markup.Fragment
import Highlighter.Proofs.Tokenizer.Pieces

/-!
# The runs of a text

Joined pieces fit a line as well as the pieces did, and neighbours among them differ in style. So
the runs of a line lie on its boundaries, do not overlap, and where two of them touch their elements
differ. Lines are apart from one another, and so are runs in different lines: the tags of a whole
text are the tags of flat spans. The main result is `highlight_flat_runs`.
-/

namespace Highlighter

namespace Piece

/-- Joined pieces fit as the pieces did. -/
lemma Fit.join {line : Text} {n : Nat} {ps : List Piece} (h : Fit line n ps) :
    Fit line n (join ps) := by
  induction ps generalizing n with
  | nil => exact h
  | cons p ps ih =>
    obtain ⟨pos, boundary, rest⟩ := h
    have joined := ih rest
    rw [Piece.join]
    split
    · exact ⟨pos, boundary, trivial⟩
    · next q qs e =>
      rw [e] at joined
      split
      · obtain ⟨_, boundary', rest'⟩ := joined
        rw [Nat.add_assoc] at boundary' rest'
        exact ⟨Nat.add_pos_left pos _, boundary', rest'⟩
      · exact ⟨pos, boundary, joined⟩

/-- Neighbours among joined pieces differ in style. -/
lemma isChain_join (ps : List Piece) : (join ps).IsChain fun p q => p.style ≠ q.style := by
  induction ps with
  | nil => exact .nil
  | cons p ps ih =>
    rw [join]
    split
    · exact .singleton p
    · next q qs e =>
      rw [e] at ih
      split
      · next same =>
        -- the joined piece has the style of `q`, so it differs from what followed `q`
        cases qs with
        | nil => exact .singleton _
        | cons q' qs =>
          obtain ⟨differ, rest⟩ := List.isChain_cons_cons.1 ih
          exact List.isChain_cons_cons.2 ⟨same ▸ differ, rest⟩
      · next differ => exact List.isChain_cons_cons.2 ⟨differ, ih⟩

end Piece

namespace Run

/-- Runs of pieces that fit lie on boundaries, behind the offset where the pieces start. -/
lemma of_mem_place {line : Text} {n : Nat} {ps : List Piece} (fit : Piece.Fit line n ps)
    (hn : Text.IsBoundary line n) {r : Run} (h : r ∈ place n ps) :
    n ≤ r.start ∧ r.start < r.stop ∧ Text.IsBoundary line r.start ∧
      Text.IsBoundary line r.stop := by
  induction ps generalizing n with
  | nil => cases h
  | cons p ps ih =>
    obtain ⟨size, style⟩ := p
    obtain ⟨pos, boundary, rest⟩ := fit
    cases style with
    | none =>
      obtain ⟨le, inside⟩ := ih rest boundary h
      exact ⟨Nat.le_of_add_right_le le, inside⟩
    | some style =>
      rcases List.mem_cons.1 h with rfl | h
      · exact ⟨Nat.le_refl _, Nat.lt_add_of_pos_right pos, hn, boundary⟩
      · obtain ⟨le, inside⟩ := ih rest boundary h
        exact ⟨Nat.le_of_add_right_le le, inside⟩

/-- Only the first piece can become a run that starts where the pieces start. -/
lemma head?_of_mem_place {line : Text} {n : Nat} {ps : List Piece} (fit : Piece.Fit line n ps)
    {r : Run} (h : r ∈ place n ps) (start : r.start = n) :
    ∃ size, ps.head? = some ⟨size, some r.style⟩ := by
  cases ps with
  | nil => cases h
  | cons p ps =>
    obtain ⟨size, style⟩ := p
    obtain ⟨pos, boundary, rest⟩ := fit
    have later : r ∉ place (n + size) ps := by
      intro h
      have le : n + size ≤ r.start := (of_mem_place rest boundary h).1
      have some : 0 < size := pos
      omega
    cases style with
    | none => exact absurd h later
    | some style =>
      rcases List.mem_cons.1 h with rfl | h
      · exact ⟨size, rfl⟩
      · exact absurd h later

/-- Runs do not overlap, and differ in style where they touch. -/
lemma pairwise_place {line : Text} {n : Nat} {ps : List Piece} (fit : Piece.Fit line n ps)
    (hn : Text.IsBoundary line n) (differ : ps.IsChain fun p q => p.style ≠ q.style) :
    (place n ps).Pairwise fun r s => r.stop ≤ s.start ∧ (r.stop = s.start → r.style ≠ s.style) := by
  induction ps generalizing n with
  | nil => exact .nil
  | cons p ps ih =>
    obtain ⟨size, style⟩ := p
    obtain ⟨pos, boundary, rest⟩ := fit
    have others := ih rest boundary differ.tail
    cases style with
    | none => exact others
    | some style =>
      refine .cons (fun r hr => ⟨(of_mem_place rest boundary hr).1, fun touch same => ?_⟩) others
      -- a run that touches comes from the next piece, which differs in style
      obtain ⟨size', first⟩ := head?_of_mem_place rest hr touch.symm
      have ne := (List.isChain_cons.1 differ).1 _ first
      exact ne (congrArg some same)

/-- Runs of different styles in a line have different elements. -/
lemma element_ne {r s : Run} (classPrefix : String) (line : Text) (h : r.style ≠ s.style) :
    r.element classPrefix line ≠ s.element classPrefix line := by
  intro same
  -- a link and a span differ in their names, two spans in their classes
  have names : (r.element classPrefix line).name = (s.element classPrefix line).name :=
    congrArg Element.name same
  have classes : (r.element classPrefix line).get? "class"
      = (s.element classPrefix line).get? "class" := congrArg (Element.get? · "class") same
  unfold element at names classes
  split at names
  · next link =>
    split at names
    · next link' => exact h (link.trans link'.symm)
    · simp [Element.anchor, Element.span, Element.set] at names
  · next plain =>
    split at names
    · simp [Element.anchor, Element.span, Element.set] at names
    · next plain' =>
      rw [if_neg plain, if_neg plain'] at classes
      simp [Element.span, Element.set, Element.get?] at classes
      exact h classes

/-- The element of a run is no line break. -/
lemma isLineBreak_element (classPrefix : String) (line : Text) (r : Run) :
    (r.element classPrefix line).isLineBreak = false := by
  unfold element
  split
  · exact (by decide : Text.eqIgnoreCase "a".toList "br".toList = false)
  · exact (by decide : Text.eqIgnoreCase "span".toList "br".toList = false)

/-- A run in a line, as a span of the text. -/
def span (classPrefix : String) (line : Line) (r : Run) : Span :=
  ⟨line.start + r.start, line.start + r.stop, r.element classPrefix line.content⟩

end Run

namespace Line

/-- The spans of the runs of a line. -/
def spans (classPrefix : String) (line : Line) (pieces : List Piece) : List Span :=
  (Run.ofPieces pieces).map (Run.span classPrefix line)

/-- The tags of a line are those of its spans. -/
lemma tags_eq (classPrefix : String) (line : Line) (pieces : List Piece) :
    line.tags classPrefix pieces = (line.spans classPrefix pieces).flatMap Span.tags := by
  rw [tags, spans, List.flatMap_map]
  rfl

variable {line : Line} {pieces : List Piece} {classPrefix : String}

/-- Where the span of a run lies in its line. -/
lemma of_mem_spans (fit : Piece.Fit line.content 0 pieces) {s : Span}
    (h : s ∈ line.spans classPrefix pieces) :
    line.start ≤ s.start ∧ s.start < s.stop ∧ s.stop ≤ line.stop ∧
      Text.IsBoundary line.content (s.start - line.start) ∧
      Text.IsBoundary line.content (s.stop - line.start) ∧ s.element.isLineBreak = false := by
  obtain ⟨r, hr, rfl⟩ := List.mem_map.1 h
  obtain ⟨_, lt, start, stop⟩ := Run.of_mem_place fit.join (Text.isBoundary_zero _) hr
  have le := stop.le_size
  simp only [Run.span, Line.stop, Nat.add_sub_cancel_left]
  exact ⟨by omega, by omega, by omega, start, stop, Run.isLineBreak_element ..⟩

/-- The spans of a line do not overlap, and differ in their elements where they touch. -/
lemma pairwise_spans (fit : Piece.Fit line.content 0 pieces) :
    (line.spans classPrefix pieces).Pairwise fun s t =>
      s.stop ≤ t.start ∧ (s.stop = t.start → s.element ≠ t.element) := by
  have runs := Run.pairwise_place fit.join (Text.isBoundary_zero _) (Piece.isChain_join pieces)
  refine List.pairwise_map.2 (runs.imp fun {r s} h => ⟨Nat.add_le_add_left h.1 _, fun touch => ?_⟩)
  exact Run.element_ne classPrefix line.content (h.2 (Nat.add_left_cancel touch))

end Line

/-- The spans of all runs of a text. -/
def TextReport.spans {σ : Type} (classPrefix : String) (r : TextReport σ) : List Span :=
  r.lines.flatMap fun p => p.1.spans classPrefix p.2

/-- The tags of all lines are those of their spans. -/
lemma TextReport.tags_eq {σ : Type} (classPrefix : String) (r : TextReport σ) :
    r.tags classPrefix = (r.spans classPrefix).flatMap Span.tags := by
  rw [tags, spans, List.flatMap_assoc]
  exact List.flatMap_congr fun p _ => p.1.tags_eq classPrefix p.2

/-- Highlighting returns the failure of the tokenizer, or the tags of all runs. -/
lemma highlight_eq (table : Table) (classPrefix : String) (text : Text) :
    highlight table classPrefix text = (tokenize .cached table {} text).outcome.map
      fun _ => (tokenize .cached table {} text).tags classPrefix := by
  unfold highlight highlightWithEvents
  dsimp only
  cases (tokenize .cached table {} text).outcome <;> rfl

/-- Highlighting succeeds where the tokenizer does, with the tags of all runs. -/
lemma highlight_eq_ok_iff {table : Table} {classPrefix : String} {text : Text} {tags : List Tag} :
    highlight table classPrefix text = .ok tags ↔ (tokenize .cached table {} text).outcome.isOk ∧
      (tokenize .cached table {} text).tags classPrefix = tags := by
  rw [highlight_eq]
  cases (tokenize .cached table {} text).outcome <;> simp [Except.map, Except.isOk, Except.toBool]

/-- Highlighting fails where the tokenizer does, with its failure. -/
lemma highlight_eq_error_iff {table : Table} {classPrefix : String} {text : Text}
    {failure : HighlightFailure} :
    highlight table classPrefix text = .error failure ↔
      (tokenize .cached table {} text).outcome = .error failure := by
  rw [highlight_eq]
  cases (tokenize .cached table {} text).outcome <;> simp [Except.map]

/-- What highlighting returns are the tags of the spans of the text. -/
lemma highlight_eq_ok {table : Table} {classPrefix : String} {text : Text} {tags : List Tag}
    (ok : highlight table classPrefix text = .ok tags) :
    tags = ((tokenize .cached table {} text).spans classPrefix).flatMap Span.tags := by
  rw [← (highlight_eq_ok_iff.1 ok).2]
  exact TextReport.tags_eq classPrefix _

/-- The tags of a text by a grammar, known by their offsets. -/
lemma Definition.exists_tags {d : Definition} {table : Table} (compiled : d.compile = .ok table)
    (classPrefix : String) (text : Text) (offsets : List Nat)
    (h : d.compile.toOption.any (fun t => (highlight t classPrefix text).toOption.any fun tags =>
      tags.map Tag.offset == offsets) = true) :
    ∃ tags, highlight table classPrefix text = .ok tags ∧ tags.map Tag.offset = offsets := by
  have returned := of_compile compiled h
  cases ok : highlight table classPrefix text with
  | error failure => simp [ok, Except.toOption] at returned
  | ok tags => exact ⟨tags, rfl, by simpa [ok, Except.toOption] using returned⟩

section

variable {table : Table} {classPrefix : String} {text : Text}
  (sound : ∀ line ∈ physicalLines text, table.SoundOn line.content)

include sound

/-- Every span of a text is one of a line of the text, whose pieces fit it. -/
lemma exists_line_of_mem_spans {s : Span}
    (h : s ∈ (tokenize .cached table {} text).spans classPrefix) :
    ∃ line pieces, line ∈ physicalLines text ∧ Piece.Fit line.content 0 pieces ∧
      s ∈ line.spans classPrefix pieces := by
  obtain ⟨⟨line, pieces⟩, mem, hs⟩ := List.mem_flatMap.1 h
  obtain ⟨hline, fit⟩ := fit_tokenizeLines sound mem
  exact ⟨line, pieces, hline, fit, hs⟩

/-- The spans of a text do not overlap, and differ in their elements where they touch. -/
lemma pairwise_spans :
    ((tokenize .cached table {} text).spans classPrefix).Pairwise fun s t =>
      s.stop ≤ t.start ∧ (s.stop = t.start → s.element ≠ t.element) := by
  have fits : ∀ p ∈ (tokenize .cached table {} text).lines, Piece.Fit p.1.content 0 p.2 :=
    fun p hp => (fit_tokenizeLines sound hp).2
  have apart : (tokenize .cached table {} text).lines.Pairwise fun p q => p.1.stop < q.1.start :=
    List.pairwise_map.1 ((pairwise_physicalLines text).sublist (sublist_tokenizeLines ..))
  refine List.pairwise_flatMap.2 ⟨fun p hp => Line.pairwise_spans (fits p hp), ?_⟩
  -- spans of different lines do not even touch
  refine apart.imp_of_mem fun {p q} hp hq lt s hs t ht => ?_
  have stop_le := (Line.of_mem_spans (fits p hp) hs).2.2.1
  have le_start := (Line.of_mem_spans (fits q hq) ht).1
  exact ⟨by omega, fun touch => absurd touch (by omega)⟩

/-- The spans of a text are flat. -/
lemma flat_spans : Span.Flat ((tokenize .cached table {} text).spans classPrefix) where
  nonempty s hs := by
    obtain ⟨line, pieces, _, fit, mem⟩ := exists_line_of_mem_spans sound hs
    exact (Line.of_mem_spans fit mem).2.1
  ordered := (pairwise_spans sound).imp And.left

/-- The spans of a text lie on boundaries, and their elements are no line breaks. -/
lemma isBoundary_of_mem_spans {s : Span}
    (h : s ∈ (tokenize .cached table {} text).spans classPrefix) :
    Text.IsBoundary text s.start ∧ Text.IsBoundary text s.stop ∧
      s.element.isLineBreak = false := by
  obtain ⟨line, pieces, hline, fit, mem⟩ := exists_line_of_mem_spans sound h
  obtain ⟨le, lt, _, start, stop, plain⟩ := Line.of_mem_spans fit mem
  have moved := isBoundary_of_mem_physicalLines hline start
  have moved' := isBoundary_of_mem_physicalLines hline stop
  rw [Nat.add_sub_cancel' le] at moved
  rw [Nat.add_sub_cancel' (by omega)] at moved'
  exact ⟨moved, moved', plain⟩

/-- A span of a text covers characters of one line, none of which ends lines. -/
lemma exists_slice_of_mem_spans {s : Span}
    (h : s ∈ (tokenize .cached table {} text).spans classPrefix) :
    ∃ covered, Text.slice? text s.start s.stop = some covered ∧
      ∀ c ∈ covered, ¬ Text.EndsLine c := by
  obtain ⟨line, pieces, hline, fit, mem⟩ := exists_line_of_mem_spans sound h
  obtain ⟨le, lt, _, start, stop, _⟩ := Line.of_mem_spans fit mem
  obtain ⟨covered, _, cut, subset⟩ :=
    exists_slice_of_mem_physicalLines hline start stop (by omega)
  rw [Nat.add_sub_cancel' le, Nat.add_sub_cancel' (by omega)] at cut
  exact ⟨covered, cut, fun x hx => not_endsLine_of_mem_physicalLines hline x (subset hx)⟩

end

/--
The tags that highlighting returns are pairs around runs of the text. Every run covers something, on
boundaries of the text, inside the content of one line, so that no line ends in it. Runs follow one
another without overlapping, and where two of them touch their elements differ.
-/
theorem highlight_flat_runs {table : Table} {classPrefix : String} {text : Text} {tags : List Tag}
    (sound : ∀ line ∈ physicalLines text, table.SoundOn line.content)
    (ok : highlight table classPrefix text = .ok tags) :
    ∃ runs : List Span, tags = runs.flatMap Span.tags ∧
      (∀ r ∈ runs, r.start < r.stop ∧
        Text.IsBoundary text r.start ∧ Text.IsBoundary text r.stop ∧
        (∃ line ∈ physicalLines text, line.start ≤ r.start ∧ r.stop ≤ line.stop) ∧
        ∃ covered, Text.slice? text r.start r.stop = some covered ∧
          '\r' ∉ covered ∧ '\n' ∉ covered) ∧
      runs.Pairwise fun r s => r.stop ≤ s.start ∧ (r.stop = s.start → r.element ≠ s.element) := by
  refine ⟨_, highlight_eq_ok ok, fun r hr => ?_, pairwise_spans sound⟩
  obtain ⟨line, pieces, hline, fit, mem⟩ := exists_line_of_mem_spans sound hr
  obtain ⟨le_start, lt, stop_le, _⟩ := Line.of_mem_spans fit mem
  obtain ⟨start, stop, _⟩ := isBoundary_of_mem_spans sound hr
  obtain ⟨covered, cut, clean⟩ := exists_slice_of_mem_spans sound hr
  refine ⟨lt, start, stop, ⟨line, hline, le_start, stop_le⟩, covered, cut, ?_, ?_⟩
  · exact fun cr => clean _ cr (.inl rfl)
  · exact fun lf => clean _ lf (.inr rfl)

/-- The runs of a string over two lines touch the runs of its accents. -/
theorem highlight_flat_runs_two_lines :
    ∃ table tags, Definition.quoting.compile = .ok table ∧
      (∀ line ∈ physicalLines Text.twoQuotedLines, table.SoundOn line.content) ∧
      highlight table "p-" Text.twoQuotedLines = .ok tags ∧
      tags.map Tag.offset = [0, 1, 1, 3, 4, 6, 6, 7] ∧
      ∃ runs : List Span, tags = runs.flatMap Span.tags ∧
        runs.Pairwise fun r s => r.stop ≤ s.start ∧ (r.stop = s.start → r.element ≠ s.element) := by
  obtain ⟨table, compiled, sound, _⟩ := Definition.exists_quoting_table
  have returned := Definition.of_compile compiled
    (p := fun t => (highlight t "p-" Text.twoQuotedLines).toOption.any fun tags =>
      tags.map Tag.offset == [0, 1, 1, 3, 4, 6, 6, 7]) (by cbv)
  cases ok : highlight table "p-" Text.twoQuotedLines with
  | error e => simp [ok, Except.toOption] at returned
  | ok tags =>
    obtain ⟨runs, e, _, apart⟩ := highlight_flat_runs sound ok
    exact ⟨table, tags, compiled, sound, ok, by simpa [ok, Except.toOption] using returned,
      runs, e, apart⟩

end Highlighter
