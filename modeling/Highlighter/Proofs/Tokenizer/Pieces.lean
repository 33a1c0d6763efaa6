import Highlighter.Proofs.Tokenizer.Cache
import Highlighter.Proofs.Text.Lines
import Highlighter.Tokenizer.Highlight

/-!
# The pieces of a line

Pieces fit a line from an offset on if each has some bytes and ends on a boundary of the line
(`Piece.Fit`). The pieces of one step fit from the position of the step on, and the step moves on by
their size; when the line is done they have reached its end. From this, by induction on the steps,
all pieces of a line fit it, and they fill it if no error occurred.
-/

namespace Highlighter

namespace Piece

/-- Pieces that are not empty and end on boundaries of a line. -/
def Fit (line : Text) : Nat → List Piece → Prop
  | _, [] => True
  | n, p :: ps => 0 < p.size ∧ Text.IsBoundary line (n + p.size) ∧ Fit line (n + p.size) ps

/-- Consecutive pieces fit if the second ones fit behind the first. -/
lemma fit_append {line : Text} {n : Nat} {ps qs : List Piece} :
    Fit line n (ps ++ qs) ↔ Fit line n ps ∧ Fit line (n + total ps) qs := by
  induction ps generalizing n with
  | nil => simp [Fit]
  | cons p ps ih => simp [Fit, ih, total, and_assoc, Nat.add_assoc]

/-- Pieces that fit end on a boundary if they start on one. -/
lemma Fit.isBoundary {line : Text} {n : Nat} {ps : List Piece} (h : Fit line n ps)
    (hn : Text.IsBoundary line n) : Text.IsBoundary line (n + total ps) := by
  induction ps generalizing n with
  | nil => exact hn
  | cons p ps ih =>
    obtain ⟨_, boundary, rest⟩ := h
    rw [total, ← Nat.add_assoc]
    exact ih rest boundary

/-- A piece up to a boundary fits. -/
lemma fit_ofSize {line : Text} {n k : Nat} (style : Option String) (le : n ≤ k)
    (hk : Text.IsBoundary line k) : Fit line n (ofSize (k - n) style) := by
  unfold ofSize
  split
  · trivial
  · next some =>
    have reached : n + (k - n) = k := by omega
    exact ⟨Nat.pos_of_ne_zero some, by rwa [reached], trivial⟩

/-- The pieces of groups have the size of the match from the cursor on, wherever the groups lie. -/
lemma total_ofGroups_eq_sub {fallback : Option String} {stop cursor : Nat}
    {groups : List (Option Range × Option String)} :
    total (ofGroups fallback stop cursor groups) = stop - cursor := by
  induction groups generalizing cursor with
  | nil => rw [ofGroups, total_ofSize]
  | cons group groups ih =>
    obtain ⟨range, style⟩ := group
    cases range with
    | none => exact ih
    | some g =>
      rw [ofGroups]
      split
      · exact ih
      · next gt =>
        rw [total_append, total_append, total_ofSize, total_ofSize, ih]
        omega

/-- The pieces of groups fill the match from the cursor on. -/
lemma total_ofGroups {fallback : Option String} {stop cursor : Nat}
    {groups : List (Option Range × Option String)} (le : cursor ≤ stop) :
    cursor + total (ofGroups fallback stop cursor groups) = stop := by
  rw [total_ofGroups_eq_sub, Nat.add_sub_cancel' le]

/-- The pieces of groups fit if all offsets are boundaries. -/
lemma fit_ofGroups {line : Text} {fallback : Option String} {stop cursor : Nat}
    {groups : List (Option Range × Option String)} (le : cursor ≤ stop)
    (hstop : Text.IsBoundary line stop) (hcursor : Text.IsBoundary line cursor)
    (hgroups : ∀ g style, (some g, style) ∈ groups →
      Text.IsBoundary line g.start ∧ Text.IsBoundary line g.stop) :
    Fit line cursor (ofGroups fallback stop cursor groups) := by
  induction groups generalizing cursor with
  | nil => exact fit_ofSize fallback le hstop
  | cons group groups ih =>
    have others : ∀ g style, (some g, style) ∈ groups →
        Text.IsBoundary line g.start ∧ Text.IsBoundary line g.stop :=
      fun g style h => hgroups g style (List.mem_cons_of_mem _ h)
    obtain ⟨range, style⟩ := group
    cases range with
    | none => exact ih le hcursor others
    | some g =>
      obtain ⟨gstart, gstop⟩ := hgroups g style List.mem_cons_self
      rw [ofGroups]
      split
      · exact ih le hcursor others
      · next gt =>
        have first_lt : max g.start cursor < min g.stop stop := Nat.not_le.1 gt
        have hfirst := gstart.max hcursor
        have hlast := gstop.min hstop
        have le_first : cursor ≤ max g.start cursor := Nat.le_max_right _ _
        have last_le : min g.stop stop ≤ stop := Nat.min_le_right _ _
        -- the filler before the group, the group and the groups behind it
        have to_first : cursor + (max g.start cursor - cursor) = max g.start cursor := by omega
        have to_last : cursor + ((max g.start cursor - cursor) +
            (min g.stop stop - max g.start cursor)) = min g.stop stop := by omega
        rw [fit_append, fit_append, total_append, total_ofSize, total_ofSize, to_first, to_last]
        exact ⟨⟨fit_ofSize _ le_first hfirst, fit_ofSize _ (Nat.le_of_lt first_lt) hlast⟩,
          ih last_le hlast others⟩

/-- The pieces of a match fill it. -/
lemma total_ofMatch {r : Match} (le : r.start ≤ r.stop) (fallback : Option String) (style : Style) :
    r.start + total (ofMatch fallback style r) = r.stop := by
  cases style with
  | whole name =>
    rw [ofMatch, total_ofSize]
    exact Nat.add_sub_cancel' le
  | groups names => exact total_ofGroups le

/-- The pieces of a match fit. -/
lemma fit_ofMatch {line : Text} {pos : Nat} {r : Match} (fits : r.Fits line pos)
    (fallback : Option String) (style : Style) : Fit line r.start (ofMatch fallback style r) := by
  cases style with
  | whole name => exact fit_ofSize _ fits.start_le_stop fits.stop
  | groups names =>
    refine fit_ofGroups fits.start_le_stop fits.stop fits.start fun g style h => ?_
    exact fits.groups g (List.of_mem_zip h).1

end Piece

namespace Progress

variable {σ : Type} {line : Text}

/-- The pieces of a step up to the end of its match reach it. -/
lemma total_pieces {s : Progress σ} {r : Match} (le_start : s.position ≤ r.start)
    (start_le_stop : r.start ≤ r.stop) (rule : Rule) :
    s.position + Piece.total (s.pieces rule r) = r.stop := by
  have to_start : s.position + (r.start - s.position) = r.start := by omega
  rw [pieces, Piece.total_append, Piece.total_ofSize, ← Nat.add_assoc, to_start,
    Piece.total_ofMatch start_le_stop]

/-- The pieces of a step up to the end of its match fit from the position on, and reach it. -/
lemma fit_pieces {s : Progress σ} {r : Match} (fits : r.Fits line s.position) (rule : Rule) :
    Piece.Fit line s.position (s.pieces rule r) ∧
      s.position + Piece.total (s.pieces rule r) = r.stop := by
  have le := fits.le_start
  have fit := Piece.fit_ofMatch fits (ContextStack.inherited s.stack) rule.style
  have to_start : s.position + (r.start - s.position) = r.start := by omega
  refine ⟨?_, total_pieces le fits.start_le_stop rule⟩
  rw [pieces, Piece.fit_append, Piece.total_ofSize, to_start]
  exact ⟨Piece.fit_ofSize _ le fits.start, fit⟩

/--
What a step may do with a memory: its pieces fit and are passed over, and if they are the last they
reach the end of the line.
-/
inductive Moves (line : Text) (s : Progress σ) (memory : σ) : Step σ → Prop where
  | next {pieces : List Piece} {events : List Event} {after : Progress σ} :
    Piece.Fit line s.position pieces →
    after.position = s.position + Piece.total pieces →
    after.memory = memory →
    Moves line s memory (.next pieces events after)
  | done {pieces : List Piece} :
    Piece.Fit line s.position pieces →
    s.position + Piece.total pieces = Text.size line →
    Moves line s memory (.done pieces memory)
  | fail {failure : HighlightFailure} : Moves line s memory (.fail failure)

/-- Behind a match that fits, the line goes on where the pieces end. -/
lemma moves_advance {s : Progress σ} {r : Match} (fits : r.Fits line s.position) (table : Table)
    (rule : Rule) (memory : σ) : Moves line s memory (s.advance table line rule r memory) := by
  obtain ⟨fit, reached⟩ := fit_pieces fits rule
  unfold advance
  dsimp only
  split
  · -- nothing was read and nothing changes: one character is passed over, if there is one
    split
    · next none => exact .done fit (reached.trans (fits.stop.eq_size_of_charAt? none))
    · next c here =>
      refine .next (Piece.fit_append.2 ⟨fit, ?_⟩) rfl rfl
      have passed := Piece.fit_ofSize (ContextStack.inherited s.stack)
        (Nat.le_add_right r.stop c.utf8Size) (Text.isBoundary_of_charAt? here)
      rwa [Nat.add_sub_cancel_left, ← reached] at passed
  · split
    · exact .fail
    · exact .next fit rfl rfl

/-- A state of the tokenizer within a line: on a boundary, with a cache that the line explains. -/
structure Proper (table : Table) (line : Text) (s : Progress Cache) : Prop where
  boundary : Text.IsBoundary line s.position
  explained : s.memory.Explained table line s.position

/-- At the start of a line the cache is empty. -/
lemma proper_start (table : Table) (line : Text) (stack : ContextStack) (memory : Cache) :
    Proper table line ⟨0, stack, memory.clear⟩ :=
  ⟨Text.isBoundary_zero line, Cache.explained_clear table line 0 memory⟩

/-- A step from a proper state moves as it should, with a cache that the line explains. -/
lemma Proper.step {table : Table} {s : Progress Cache} (h : s.Proper table line)
    (sound : table.SoundOn line) :
    ∃ memory, memory.Explained table line s.position ∧
      Moves line s memory (s.step .cached table line) := by
  unfold Progress.step
  dsimp only
  split
  · exact ⟨s.memory, h.explained, .fail⟩
  · next rules state =>
    obtain ⟨explained, winner⟩ := Arbiter.cached_choose sound h.explained h.boundary state
    split
    · next memory chosen =>
      rw [chosen] at explained
      have le := h.boundary.le_size
      refine ⟨memory, explained, .done (Piece.fit_ofSize _ le (Text.isBoundary_size line)) ?_⟩
      rw [Piece.total_ofSize]
      omega
    · next rule r memory chosen =>
      rw [chosen] at explained winner
      exact ⟨memory, explained, moves_advance (winner rule r rfl).2 table rule memory⟩

/-- What a step leaves is proper. -/
lemma Proper.next {table : Table} {s after : Progress Cache} (h : s.Proper table line)
    (sound : table.SoundOn line) {pieces : List Piece} {events : List Event}
    (e : s.step .cached table line = .next pieces events after) : after.Proper table line := by
  obtain ⟨memory, explained, moves⟩ := h.step sound
  rw [e] at moves
  cases moves with
  | next fit position memory_eq =>
    constructor
    · rw [position]
      exact fit.isBoundary h.boundary
    · rw [position, memory_eq]
      exact explained.mono (Nat.le_add_right _ _)

/-- From a proper state on, all pieces fit, and they fill the line if there is no error. -/
lemma Proper.run {table : Table} {s : Progress Cache} (h : s.Proper table line)
    (sound : table.SoundOn line) (number limit : Nat) :
    Piece.Fit line s.position (s.run .cached table number line limit).pieces ∧
      ((s.run .cached table number line limit).outcome.isOk →
        s.position + Piece.total (s.run .cached table number line limit).pieces
          = Text.size line) := by
  induction limit generalizing s with
  | zero => exact ⟨trivial, fun ok => by cases ok⟩
  | succ limit ih =>
    obtain ⟨memory, _, moves⟩ := h.step sound
    have proper : ∀ pieces events after, s.step .cached table line = .next pieces events after →
        after.Proper table line := fun _ _ _ => h.next sound
    rw [Progress.run]
    generalize s.step .cached table line = step at moves proper
    cases moves with
    | fail => exact ⟨trivial, fun ok => by cases ok⟩
    | done fit reached => exact ⟨fit, fun _ => reached⟩
    | @next pieces events after fit position =>
      obtain ⟨rest, filled⟩ := ih (proper pieces events after rfl)
      rw [position] at rest filled
      refine ⟨Piece.fit_append.2 ⟨fit, rest⟩, fun ok => ?_⟩
      rw [Piece.total_append, ← Nat.add_assoc]
      exact filled ok

end Progress

/-- The pieces of a line fit it, and fill it if there is no error. -/
lemma fit_tokenizeLine {table : Table} {line : Text} (sound : table.SoundOn line) (number : Nat)
    (stack : ContextStack) (memory : Cache) :
    Piece.Fit line 0 (tokenizeLine .cached table number line stack memory).pieces ∧
      ((tokenizeLine .cached table number line stack memory).outcome.isOk →
        Piece.total (tokenizeLine .cached table number line stack memory).pieces
          = Text.size line) := by
  have proper := Progress.proper_start table line stack memory
  obtain ⟨fit, filled⟩ := proper.run sound number (stepLimit line)
  exact ⟨fit, fun ok => (Nat.zero_add _).symm.trans (filled ok)⟩

/-- The pieces of every line fit it. -/
lemma fit_tokenizeLines {table : Table} {lines : List Line} {number : Nat} {stack : ContextStack}
    {memory : Cache} (sound : ∀ line ∈ lines, table.SoundOn line.content) {p : Line × List Piece}
    (h : p ∈ (tokenizeLines .cached table number stack memory lines).lines) :
    p.1 ∈ lines ∧ Piece.Fit p.1.content 0 p.2 := by
  induction lines generalizing number stack memory with
  | nil => cases h
  | cons line lines ih =>
    have first := (fit_tokenizeLine (sound line List.mem_cons_self) number stack memory).1
    rw [tokenizeLines] at h
    dsimp only at h
    split at h
    · obtain rfl := List.mem_singleton.1 h
      exact ⟨List.mem_cons_self, first⟩
    · rcases List.mem_cons.1 h with rfl | h
      · exact ⟨List.mem_cons_self, first⟩
      · obtain ⟨mem, fit⟩ := ih (fun l hl => sound l (List.mem_cons_of_mem _ hl)) h
        exact ⟨List.mem_cons_of_mem _ mem, fit⟩

/-- Lines are reported in their order. -/
lemma sublist_tokenizeLines {σ : Type} (arbiter : Arbiter σ) (table : Table) (number : Nat)
    (stack : ContextStack) (memory : σ) (lines : List Line) :
    ((tokenizeLines arbiter table number stack memory lines).lines.map Prod.fst).Sublist lines := by
  induction lines generalizing number stack memory with
  | nil => exact .slnil
  | cons line lines ih =>
    rw [tokenizeLines]
    dsimp only
    split
    · exact (List.nil_sublist lines).cons_cons line
    · exact (ih _ _ _).cons_cons line

/-- The report on lines followed by that on more lines, unless the first ones fail. -/
def TextReport.andThen {σ : Type} (r : TextReport σ)
    (next : ContextStack → σ → TextReport σ) : TextReport σ :=
  match r.outcome with
  | .error _ => r
  | .ok (stack, memory) =>
    ⟨r.lines ++ (next stack memory).lines, r.events ++ (next stack memory).events,
      (next stack memory).outcome⟩

/-- More lines are tokenized from where the first ones have left off. -/
lemma tokenizeLines_append {σ : Type} (arbiter : Arbiter σ) (table : Table) (number : Nat)
    (stack : ContextStack) (memory : σ) (lines more : List Line) :
    tokenizeLines arbiter table number stack memory (lines ++ more) =
      (tokenizeLines arbiter table number stack memory lines).andThen fun stack memory =>
        tokenizeLines arbiter table (number + lines.length) stack memory more := by
  induction lines generalizing number stack memory with
  | nil => rfl
  | cons line lines ih =>
    rw [List.cons_append, tokenizeLines, tokenizeLines, List.length_cons, Nat.add_comm lines.length,
      ← Nat.add_assoc]
    obtain ⟨pieces, events, outcome⟩ := tokenizeLine arbiter table number line.content stack memory
    cases outcome with
    | error failure => rfl
    | ok left =>
      dsimp only
      rw [ih]
      generalize tokenizeLines arbiter table (number + 1) left.1 left.2 lines = r
      obtain ⟨ls, es, outcome⟩ := r
      cases outcome with
      | error failure => rfl
      | ok left => simp [TextReport.andThen]

end Highlighter
