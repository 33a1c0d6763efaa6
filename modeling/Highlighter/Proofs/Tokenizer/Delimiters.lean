import Highlighter.Proofs.Tokenizer.Emission
import Highlighter.Proofs.Tokenizer.Runs

/-!
# Line endings do not matter

The tokenizer reads lines through their contents. So two texts with the same contents of lines fail
in the same way or are divided into the same pieces, and a tag of one text stands as far behind the
start of its line as the tag of the other. The main result is `highlight_of_same_contents`.
-/

namespace Highlighter

/-- The element of a start. -/
def Tag.element? : Tag → Option Element
  | .start _ e => some e
  | .stop _ => none

/--
Tags of two texts with such lines that differ in nothing but where their lines start: both are
starts of one element or both are ends, and they stand at one place in lines of one number.
-/
structure Tag.Alike (lines lines' : List Line) (a b : Tag) : Prop where
  element : a.element? = b.element?
  place : ∃ (i : Nat) (line line' : Line), lines[i]? = some line ∧ lines'[i]? = some line' ∧
    ∃ n ≤ Text.size line.content, a.offset = line.start + n ∧ b.offset = line'.start + n

/-- Lines of the same contents are divided into the same pieces, up to the same failure. -/
lemma same_tokenizeLines {σ : Type} (arbiter : Arbiter σ) (table : Table) {lines lines' : List Line}
    (same : lines.map Line.content = lines'.map Line.content) (number : Nat)
    (stack : ContextStack) (memory : σ) :
    (tokenizeLines arbiter table number stack memory lines).outcome
        = (tokenizeLines arbiter table number stack memory lines').outcome ∧
      (tokenizeLines arbiter table number stack memory lines).lines.map Prod.snd
        = (tokenizeLines arbiter table number stack memory lines').lines.map Prod.snd := by
  induction lines generalizing lines' number stack memory with
  | nil =>
    obtain rfl := List.map_eq_nil_iff.1 same.symm
    exact ⟨rfl, rfl⟩
  | cons line lines ih =>
    cases lines' with
    | nil => cases same
    | cons line' lines' =>
      obtain ⟨first, others⟩ := List.cons.inj same
      rw [tokenizeLines, tokenizeLines, first]
      dsimp only
      split
      · exact ⟨rfl, rfl⟩
      · next stack' memory' _ =>
        obtain ⟨outcome, pieces⟩ := ih others (number + 1) stack' memory'
        exact ⟨outcome, congrArg (_ :: ·) pieces⟩

/-- Without an error every line is divided. -/
lemma map_fst_tokenizeLines {σ : Type} {arbiter : Arbiter σ} {table : Table} {number : Nat}
    {stack : ContextStack} {memory : σ} {lines : List Line}
    (ok : (tokenizeLines arbiter table number stack memory lines).outcome.isOk) :
    (tokenizeLines arbiter table number stack memory lines).lines.map Prod.fst = lines := by
  rw [lines_tokenizeLines ok, List.map_map]
  exact map_fst_emittedLines ok

/-- A line, with its pieces, and the line of one number in another text. -/
structure Line.Matches (lines lines' : List Line) (p q : Line × List Piece) : Prop where
  content : p.1.content = q.1.content
  pieces : p.2 = q.2
  fit : Piece.Fit p.1.content 0 p.2
  number : ∃ i : Nat, lines[i]? = some p.1 ∧ lines'[i]? = some q.1

namespace Line.Matches

variable {lines lines' : List Line} {p q : Line × List Piece}

/-- The tags of a run are alike in both lines. -/
lemma alike_run (h : Line.Matches lines lines' p q) (classPrefix : String) {r : Run}
    (hr : r ∈ Run.ofPieces p.2) :
    List.Forall₂ (Tag.Alike lines lines') (r.tags classPrefix p.1.start p.1.content)
      (r.tags classPrefix q.1.start q.1.content) := by
  obtain ⟨_, lt, _, stop⟩ := Run.of_mem_place h.fit.join (Text.isBoundary_zero _) hr
  have stop_le := stop.le_size
  obtain ⟨i, here, there⟩ := h.number
  rw [Run.tags, Run.tags, ← h.content]
  refine .cons ⟨rfl, i, p.1, q.1, here, there, r.start, ?_, rfl, rfl⟩
    (.cons ⟨rfl, i, p.1, q.1, here, there, r.stop, stop_le, rfl, rfl⟩ .nil)
  omega

/-- The tags of both lines are alike. -/
lemma alike_tags (h : Line.Matches lines lines' p q) (classPrefix : String) :
    List.Forall₂ (Tag.Alike lines lines')
      (p.1.tags classPrefix p.2) (q.1.tags classPrefix q.2) := by
  have runs : List.Forall₂ (fun r s => r ∈ Run.ofPieces p.2 ∧ r = s) (Run.ofPieces p.2)
      (Run.ofPieces p.2) := List.forall₂_same.2 fun r hr => ⟨hr, rfl⟩
  rw [Line.tags, Line.tags, ← h.pieces]
  refine List.rel_flatMap runs ?_
  rintro r _ ⟨hr, rfl⟩
  exact h.alike_run classPrefix hr

end Line.Matches

/-- Without an error, the lines of two texts with the same contents match one by one. -/
lemma matches_tokenize {table : Table} {s t : Text}
    (same : (physicalLines s).map Line.content = (physicalLines t).map Line.content)
    (sound : ∀ line ∈ physicalLines s, table.SoundOn line.content)
    (ok : (tokenize .cached table {} s).outcome.isOk)
    (ok' : (tokenize .cached table {} t).outcome.isOk) :
    List.Forall₂ (Line.Matches (physicalLines s) (physicalLines t))
      (tokenize .cached table {} s).lines (tokenize .cached table {} t).lines := by
  have pieces : (tokenize .cached table {} s).lines.map Prod.snd
      = (tokenize .cached table {} t).lines.map Prod.snd :=
    (same_tokenizeLines .cached table same 0 [] {}).2
  have lines : (tokenize .cached table {} s).lines.map Prod.fst = physicalLines s :=
    map_fst_tokenizeLines ok
  have lines' : (tokenize .cached table {} t).lines.map Prod.fst = physicalLines t :=
    map_fst_tokenizeLines ok'
  refine List.forall₂_iff_get.2 ⟨by simpa using congrArg List.length pieces, fun i hi hi' => ?_⟩
  have here : (physicalLines s)[i]? = some ((tokenize .cached table {} s).lines.get ⟨i, hi⟩).1 := by
    rw [← lines]
    simp [hi]
  have there :
      (physicalLines t)[i]? = some ((tokenize .cached table {} t).lines.get ⟨i, hi'⟩).1 := by
    rw [← lines']
    simp [hi']
  constructor
  case content =>
    have contents := congrArg (fun contents => contents[i]?) same
    simpa [here, there] using contents
  case pieces =>
    have both := congrArg (fun pieces => pieces[i]?) pieces
    simpa [hi, hi'] using both
  case fit => exact (fit_tokenizeLines sound (List.get_mem _ _)).2
  case number => exact ⟨i, here, there⟩

/--
Line endings do not matter: on texts whose lines have the same contents, whatever ends them,
highlighting fails in the same way, or the tags it returns are alike one by one.
-/
theorem highlight_of_same_contents {table : Table} {s t : Text}
    (same : (physicalLines s).map Line.content = (physicalLines t).map Line.content)
    (sound : ∀ line ∈ physicalLines s, table.SoundOn line.content) (classPrefix : String) :
    (∃ failure, highlight table classPrefix s = .error failure ∧
      highlight table classPrefix t = .error failure) ∨
    ∃ tags tags', highlight table classPrefix s = .ok tags ∧
      highlight table classPrefix t = .ok tags' ∧
      List.Forall₂ (Tag.Alike (physicalLines s) (physicalLines t)) tags tags' := by
  have outcomes : (tokenize .cached table {} s).outcome = (tokenize .cached table {} t).outcome :=
    (same_tokenizeLines .cached table same 0 [] {}).1
  cases outcome : (tokenize .cached table {} s).outcome with
  | error failure =>
    exact .inl ⟨failure, highlight_eq_error_iff.2 outcome,
      highlight_eq_error_iff.2 (outcomes.symm.trans outcome)⟩
  | ok left =>
    right
    have ok : (tokenize .cached table {} s).outcome.isOk := by rw [outcome]; rfl
    have ok' : (tokenize .cached table {} t).outcome.isOk := outcomes ▸ ok
    refine ⟨_, _, highlight_eq_ok_iff.2 ⟨ok, rfl⟩, highlight_eq_ok_iff.2 ⟨ok', rfl⟩, ?_⟩
    exact List.rel_flatMap (matches_tokenize same sound ok ok')
      fun _ _ h => h.alike_tags classPrefix

/-- The string over two lines again, with both characters between the lines and one behind them. -/
def Text.twoReturnedLines : Text := ['"', 'é', '\r', '\n', 'é', '"', '\r']

/-- With the longer ending the tags of the second line stand one byte further back. -/
theorem highlight_of_same_contents_two_lines :
    ∃ table tags tags', Definition.quoting.compile = .ok table ∧
      (physicalLines Text.twoQuotedLines).map Line.content
        = (physicalLines Text.twoReturnedLines).map Line.content ∧
      (∀ line ∈ physicalLines Text.twoQuotedLines, table.SoundOn line.content) ∧
      highlight table "p-" Text.twoQuotedLines = .ok tags ∧
      highlight table "p-" Text.twoReturnedLines = .ok tags' ∧
      tags.map Tag.offset = [0, 1, 1, 3, 4, 6, 6, 7] ∧
      tags'.map Tag.offset = [0, 1, 1, 3, 5, 7, 7, 8] ∧
      List.Forall₂ (Tag.Alike (physicalLines Text.twoQuotedLines)
        (physicalLines Text.twoReturnedLines)) tags tags' := by
  obtain ⟨table, compiled, sound, _⟩ := Definition.exists_quoting_table
  have same : (physicalLines Text.twoQuotedLines).map Line.content
      = (physicalLines Text.twoReturnedLines).map Line.content := by decide
  obtain ⟨tags, ok, offsets⟩ := Definition.exists_tags compiled "p-" Text.twoQuotedLines
    [0, 1, 1, 3, 4, 6, 6, 7] (by cbv)
  obtain ⟨tags', ok', offsets'⟩ := Definition.exists_tags compiled "p-" Text.twoReturnedLines
    [0, 1, 1, 3, 5, 7, 7, 8] (by cbv)
  have returned := highlight_of_same_contents same sound "p-"
  rw [ok, ok'] at returned
  obtain ⟨_, ⟨⟩, _⟩ | ⟨_, _, ⟨⟩, ⟨⟩, alike⟩ := returned
  exact ⟨table, tags, tags', compiled, same, sound, ok, ok', offsets, offsets', alike⟩

end Highlighter
