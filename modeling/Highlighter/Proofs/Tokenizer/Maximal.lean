import Highlighter.Proofs.Tokenizer.Emission
import Highlighter.Proofs.Tokenizer.Runs

/-!
# Runs are the stretches of one style

Joining neighbours of one style changes the style of no byte, and afterwards neighbours differ. So
the styled ones of joined pieces are just the stretches of bytes of one style that cannot be made
longer (`Run.Maximal`), however the line was divided into pieces. The main result is
`highlight_maximal_runs`.
-/

namespace Highlighter

namespace Piece

/-- The style of the piece that covers a byte. -/
def styleAt : List Piece → Nat → Option String
  | [], _ => none
  | p :: ps, b => if b < p.size then p.style else styleAt ps (b - p.size)

/-- A byte has its style from the pieces that it lies in. -/
lemma styleAt_append (ps qs : List Piece) (b : Nat) :
    styleAt (ps ++ qs) b = if b < total ps then styleAt ps b else styleAt qs (b - total ps) := by
  induction ps generalizing b with
  | nil => simp
  | cons p ps ih =>
    rw [List.cons_append, styleAt, styleAt, total, ih]
    by_cases first : b < p.size
    · have inside : b < p.size + total ps := by omega
      rw [if_pos first, if_pos inside, if_pos first]
    · have same : b - p.size < total ps ↔ b < p.size + total ps := by omega
      simp only [if_neg first, same, Nat.sub_sub]

/-- The bytes of a piece have its style. -/
lemma styleAt_of_split {before after : List Piece} {p : Piece} {b : Nat} (le : total before ≤ b)
    (lt : b < total before + p.size) : styleAt (before ++ p :: after) b = p.style := by
  rw [styleAt_append, if_neg (Nat.not_lt.2 le), styleAt, if_pos (by omega)]

/-- Every byte lies in a piece. -/
lemma exists_split {ps : List Piece} {b : Nat} (lt : b < total ps) :
    ∃ before p after, ps = before ++ p :: after ∧ total before ≤ b ∧
      b < total before + p.size := by
  induction ps generalizing b with
  | nil => cases lt
  | cons p ps ih =>
    by_cases first : b < p.size
    · exact ⟨[], p, ps, rfl, Nat.zero_le b, by simpa using first⟩
    · rw [total] at lt
      obtain ⟨before, q, after, rfl, le, lt'⟩ := @ih (b - p.size) (by omega)
      refine ⟨p :: before, q, after, rfl, ?_, ?_⟩
      · rw [total]
        omega
      · rw [total]
        omega

/-- Joining changes the style of no byte. -/
lemma styleAt_join (ps : List Piece) (b : Nat) : styleAt (join ps) b = styleAt ps b := by
  induction ps generalizing b with
  | nil => rfl
  | cons p ps ih =>
    rw [join, styleAt]
    split
    · next e =>
      rw [styleAt, ← ih, e]
    · next q qs e =>
      rw [← ih, e]
      split
      · next same =>
        rw [styleAt, styleAt, ← same, Nat.sub_sub]
        by_cases first : b < p.size
        · have inside : b < p.size + q.size := by omega
          rw [if_pos first, if_pos inside]
        · have second : b - p.size < q.size ↔ b < p.size + q.size := by omega
          simp only [if_neg first, second]
      · rfl

/-- Joining keeps the total. -/
lemma total_join (ps : List Piece) : total (join ps) = total ps := by
  induction ps with
  | nil => rfl
  | cons p ps ih =>
    rw [join, total, ← ih]
    split
    · next e => rw [e]; rfl
    · next q qs e =>
      rw [e]
      split
      · simp only [total]
        omega
      · rfl

/-- Pieces that fit a line are not empty. -/
lemma Fit.size_pos {line : Text} {n : Nat} {ps : List Piece} (h : Fit line n ps) :
    ∀ p ∈ ps, 0 < p.size := by
  induction ps generalizing n with
  | nil => simp
  | cons p ps ih => exact List.forall_mem_cons.2 ⟨h.1, ih h.2.2⟩

/-- Pieces that cannot be joined any more: none is empty, and neighbours differ in style. -/
structure Joined (ps : List Piece) : Prop where
  size_pos : ∀ p ∈ ps, 0 < p.size
  differ : ps.IsChain fun p q => p.style ≠ q.style

/-- Right behind a piece the style is another one, unless the pieces end there. -/
lemma Joined.styleAt_behind {before after : List Piece} {p : Piece}
    (joined : Joined (before ++ p :: after))
    (more : total before + p.size < total (before ++ p :: after)) :
    styleAt (before ++ p :: after) (total before + p.size) ≠ p.style := by
  cases after with
  | nil => simp [total] at more
  | cons q after =>
    have pos : 0 < q.size := joined.size_pos q (by simp)
    have behind : total (before ++ [p]) = total before + p.size := by simp [total]
    have style : styleAt (before ++ [p] ++ q :: after) (total before + p.size) = q.style :=
      styleAt_of_split (by omega) (by omega)
    rw [List.append_assoc, List.singleton_append] at style
    rw [style]
    exact (List.isChain_append_cons_cons.1 joined.differ).2.1.symm

/-- Right before a piece the style is another one. -/
lemma Joined.styleAt_before {before after : List Piece} {p : Piece}
    (joined : Joined (before ++ p :: after)) {b : Nat} (next : b + 1 = total before) :
    styleAt (before ++ p :: after) b ≠ p.style := by
  rcases List.eq_nil_or_concat' before with rfl | ⟨front, q, rfl⟩
  · cases next
  · have pos : 0 < q.size := joined.size_pos q (by simp)
    rw [List.append_assoc, List.singleton_append] at joined ⊢
    rw [total_append, total, total_nil, Nat.add_zero] at next
    rw [styleAt_of_split (by omega) (by omega)]
    exact (List.isChain_append_cons_cons.1 joined.differ).2.1

end Piece

namespace Run

/--
A run is maximal among the first bytes of a line if all its bytes have its style, and the bytes
right before and right behind it, if there are any, have not.
-/
structure Maximal (size : Nat) (styleAt : Nat → Option String) (r : Run) : Prop where
  nonempty : r.start < r.stop
  inside : r.stop ≤ size
  styled : ∀ b, r.start ≤ b → b < r.stop → styleAt b = some r.style
  before : ∀ b, b + 1 = r.start → styleAt b ≠ some r.style
  behind : r.stop < size → styleAt r.stop ≠ some r.style

/-- Runs are placed one after the other. -/
lemma place_append (n : Nat) (ps qs : List Piece) :
    place n (ps ++ qs) = place n ps ++ place (n + Piece.total ps) qs := by
  induction ps generalizing n with
  | nil => rfl
  | cons p ps ih =>
    obtain ⟨size, style⟩ := p
    cases style with
    | none => rw [List.cons_append, place, place, ih, Piece.total, Nat.add_assoc]
    | some style =>
      rw [List.cons_append, place, place, ih, Piece.total, Nat.add_assoc, List.cons_append]

/-- A run is a styled piece, placed behind the pieces before it. -/
lemma exists_split_of_mem_place {n : Nat} {ps : List Piece} {r : Run} (h : r ∈ place n ps) :
    ∃ before size after, ps = before ++ ⟨size, some r.style⟩ :: after ∧
      r.start = n + Piece.total before ∧ r.stop = r.start + size := by
  induction ps generalizing n with
  | nil => cases h
  | cons p ps ih =>
    obtain ⟨size, style⟩ := p
    have later (mem : r ∈ place (n + size) ps) :
        ∃ before size' after,
          (⟨size, style⟩ :: ps : List Piece) = before ++ ⟨size', some r.style⟩ :: after ∧
          r.start = n + Piece.total before ∧ r.stop = r.start + size' := by
      obtain ⟨before, size', after, rfl, start, stop⟩ := ih mem
      refine ⟨⟨size, style⟩ :: before, size', after, rfl, ?_, stop⟩
      rw [start, Piece.total, Nat.add_assoc]
    cases style with
    | none => exact later h
    | some style =>
      rcases List.mem_cons.1 h with rfl | h
      · exact ⟨[], size, ps, rfl, rfl, rfl⟩
      · exact later h

/-- A styled piece becomes a run. -/
lemma mem_place_of_split {before after : List Piece} {p : Piece} {r : Run}
    (style : p.style = some r.style) (start : r.start = Piece.total before)
    (stop : r.stop = Piece.total before + p.size) : r ∈ place 0 (before ++ p :: after) := by
  obtain ⟨size, _⟩ := p
  obtain ⟨_, _, _⟩ := r
  dsimp only at style start stop
  subst style start stop
  rw [place_append, Nat.zero_add]
  exact List.mem_append_right _ (List.mem_cons_self ..)

/-- The runs of joined pieces are maximal. -/
lemma maximal_of_mem_place {ps : List Piece} (joined : Piece.Joined ps) {r : Run}
    (h : r ∈ place 0 ps) : r.Maximal (Piece.total ps) (Piece.styleAt ps) := by
  obtain ⟨before, size, after, rfl, start, stop⟩ := exists_split_of_mem_place h
  rw [Nat.zero_add] at start
  have pos : 0 < size := joined.size_pos ⟨size, some r.style⟩ (by simp)
  have whole : Piece.total (before ++ ⟨size, some r.style⟩ :: after)
      = r.stop + Piece.total after := by
    rw [Piece.total_append, Piece.total, stop, start, Nat.add_assoc]
  constructor
  case nonempty => omega
  case inside => omega
  case styled =>
    intro b le lt
    exact Piece.styleAt_of_split (start ▸ le) (by dsimp only; omega)
  case before =>
    intro b next
    exact joined.styleAt_before (next.trans start)
  case behind =>
    intro more
    rw [stop, start] at more ⊢
    exact joined.styleAt_behind more

/-- Every maximal run is one of the runs of joined pieces. -/
lemma mem_place_of_maximal {ps : List Piece} (joined : Piece.Joined ps) {r : Run}
    (max : r.Maximal (Piece.total ps) (Piece.styleAt ps)) : r ∈ place 0 ps := by
  have first : r.start < Piece.total ps := Nat.lt_of_lt_of_le max.nonempty max.inside
  obtain ⟨before, p, after, rfl, le, lt⟩ := Piece.exists_split first
  -- the piece around the first byte has the style of the run
  have style : p.style = some r.style :=
    (Piece.styleAt_of_split le lt).symm.trans (max.styled _ (Nat.le_refl _) max.nonempty)
  have inside : Piece.total before + p.size ≤ Piece.total (before ++ p :: after) := by
    rw [Piece.total_append, Piece.total]
    omega
  have start : r.start = Piece.total before := by
    by_contra ne
    refine max.before (r.start - 1) (by omega) ?_
    rw [Piece.styleAt_of_split (by omega) (by omega), style]
  have stop : r.stop = Piece.total before + p.size := by
    rcases Nat.lt_trichotomy r.stop (Piece.total before + p.size) with short | same | long
    · refine absurd ?_ (max.behind (Nat.lt_of_lt_of_le short inside))
      rw [Piece.styleAt_of_split (by have := max.nonempty; omega) short, style]
    · exact same
    · have more := Nat.lt_of_lt_of_le long max.inside
      refine absurd ?_ (joined.styleAt_behind more)
      rw [max.styled _ (by omega) long, style]
  exact mem_place_of_split style start stop

/-- The runs of a line are its maximal runs, however it was divided into pieces. -/
lemma mem_ofPieces_iff {line : Text} {ps : List Piece} (fit : Piece.Fit line 0 ps) {r : Run} :
    r ∈ ofPieces ps ↔ r.Maximal (Piece.total ps) (Piece.styleAt ps) := by
  have joined : Piece.Joined (Piece.join ps) := ⟨fit.join.size_pos, Piece.isChain_join ps⟩
  have same : Piece.styleAt (Piece.join ps) = Piece.styleAt ps := funext (Piece.styleAt_join ps)
  rw [← same, ← Piece.total_join]
  exact ⟨maximal_of_mem_place joined, mem_place_of_maximal joined⟩

end Run

/--
An element marks text under a style: a link to what the text names under the link style, else a
`span` with the class of the style and nothing else.
-/
def Element.Marks (classPrefix style : String) (covered : Text) (e : Element) : Prop :=
  if style = "sh_url" then
    e.name = "a" ∧ e.attributes.entries
      = [("class", classPrefix ++ "sh_url"), ("href", String.ofList (Link.destination covered))]
  else e.name = "span" ∧ e.attributes.entries = [("class", classPrefix ++ style)]

/-- The element of a run marks the text that it covers. -/
lemma Run.marks_element {line covered : Text} {r : Run} (classPrefix : String)
    (cut : Text.slice? line r.start r.stop = some covered) :
    (r.element classPrefix line).Marks classPrefix r.style covered := by
  unfold Element.Marks Run.element Link.style
  by_cases link : r.style = "sh_url"
  · have behind : ¬ "href" < "class" := by decide
    rw [if_pos link, if_pos link, link, cut]
    refine ⟨rfl, ?_⟩
    simp [Element.anchor, Element.set, Attributes.set, Attributes.insertInto, Attributes.empty,
      behind]
  · rw [if_neg link, if_neg link]
    exact ⟨rfl, rfl⟩

/--
Every byte of a line gets its style once, and the runs are what these styles say. What is emitted in
a line adds up to its content, and the tags are those of the stretches of one style that cannot be
made longer, line after line from left to right. The element of a stretch marks the text that it
covers.
-/
theorem highlight_maximal_runs {table : Table} {classPrefix : String} {text : Text}
    {tags : List Tag} (sound : ∀ line ∈ physicalLines text, table.SoundOn line.content)
    (ok : highlight table classPrefix text = .ok tags) :
    ∃ emitted, emitted = emittedLines .cached table 0 [] {} (physicalLines text) ∧
      emitted.map Prod.fst = physicalLines text ∧
      (∀ p ∈ emitted, Piece.total (p.2.map Emission.piece) = Text.size p.1.content) ∧
      ∃ (runs : Line × List Emission → List Run) (element : Line × List Emission → Run → Element),
        tags = emitted.flatMap (fun p => (runs p).flatMap fun r =>
          [.start (p.1.start + r.start) (element p r), .stop (p.1.start + r.stop)]) ∧
        ∀ p ∈ emitted,
          (runs p).Pairwise (fun r s => r.stop ≤ s.start) ∧
          (∀ r, r ∈ runs p ↔
            r.Maximal (Text.size p.1.content) (Piece.styleAt (p.2.map Emission.piece))) ∧
          ∀ r ∈ runs p, ∃ covered,
            Text.slice? text (p.1.start + r.start) (p.1.start + r.stop) = some covered ∧
            (element p r).Marks classPrefix r.style covered := by
  obtain ⟨outcome, rfl⟩ := highlight_eq_ok_iff.1 ok
  have totals := total_emittedLines sound outcome
  have report := lines_tokenizeLines outcome
  refine ⟨_, rfl, map_fst_emittedLines outcome, totals,
    fun p => Run.ofPieces (p.2.map Emission.piece),
    fun p r => r.element classPrefix p.1.content, ?_, fun p hp => ?_⟩
  · rw [TextReport.tags, tokenize, report, List.flatMap_map]
    rfl
  have mem : (p.1, p.2.map Emission.piece) ∈ (tokenize .cached table {} text).lines :=
    report ▸ List.mem_map_of_mem hp
  obtain ⟨hline, fit⟩ := fit_tokenizeLines sound mem
  have zero := Text.isBoundary_zero p.1.content
  refine ⟨?_, fun r => totals p hp ▸ Run.mem_ofPieces_iff fit, fun r hr => ?_⟩
  · exact (Run.pairwise_place fit.join zero (Piece.isChain_join _)).imp And.left
  · obtain ⟨_, lt, start, stop⟩ := Run.of_mem_place fit.join zero hr
    obtain ⟨covered, here, there, _⟩ :=
      exists_slice_of_mem_physicalLines hline start stop (Nat.le_of_lt lt)
    exact ⟨covered, there, Run.marks_element classPrefix here⟩

/-- A string over two lines has a run in each, and each touches the run of an accent. -/
theorem highlight_maximal_runs_two_lines :
    ∃ table tags, Definition.quoting.compile = .ok table ∧
      (∀ line ∈ physicalLines Text.twoQuotedLines, table.SoundOn line.content) ∧
      highlight table "p-" Text.twoQuotedLines = .ok tags ∧
      tags.map Tag.offset = [0, 1, 1, 3, 4, 6, 6, 7] ∧
      ∃ (emitted : List (Line × List Emission)) (runs : Line × List Emission → List Run),
        emitted.map Prod.fst = physicalLines Text.twoQuotedLines ∧
        tags.map Tag.offset = emitted.flatMap (fun p =>
          (runs p).flatMap fun r => [p.1.start + r.start, p.1.start + r.stop]) ∧
        ∀ p ∈ emitted, ∀ r, r ∈ runs p ↔
          r.Maximal (Text.size p.1.content) (Piece.styleAt (p.2.map Emission.piece)) := by
  obtain ⟨table, compiled, sound, _⟩ := Definition.exists_quoting_table
  obtain ⟨tags, ok, offsets⟩ := Definition.exists_tags compiled "p-" Text.twoQuotedLines
    [0, 1, 1, 3, 4, 6, 6, 7] (by cbv)
  obtain ⟨emitted, _, all, _, runs, element, e, maximal⟩ := highlight_maximal_runs sound ok
  refine ⟨table, tags, compiled, sound, ok, offsets, emitted, runs, all, ?_,
    fun p hp => (maximal p hp).2.1⟩
  rw [e, List.map_flatMap]
  simp only [List.map_flatMap, List.map_cons, List.map_nil, Tag.offset_start, Tag.offset_stop]

end Highlighter
