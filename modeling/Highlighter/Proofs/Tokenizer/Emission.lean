import Highlighter.Proofs.Tokenizer.Pieces

/-!
# What the tokenizer passes over

A step passes over the bytes before a match, those of the match and perhaps one more character. Its
rule gives some of them a style of their own; the others get the one that the innermost open context
lends, if it lends any (`Emission.style`). The pieces of a line are these emissions with the style
resolved (`Progress.pieces_run`), and if there is no error they add up to the line.
-/

namespace Highlighter

/-- Bytes that are passed over at once: the style of their own, and the contexts that are open. -/
structure Emission where
  size : Nat
  own : Option String
  stack : ContextStack

namespace Emission

/-- The style of the bytes: their own, else that of the innermost context, if it lends one. -/
def style (e : Emission) : Option String := e.own <|> ContextStack.inherited e.stack

/-- The bytes with their style. -/
def piece (e : Emission) : Piece := ⟨e.size, e.style⟩

end Emission

namespace Piece

/-- A piece with a style for the case that it has none. -/
def withFallback (fallback : Option String) (p : Piece) : Piece := ⟨p.size, p.style <|> fallback⟩

/-- A piece takes the other style if it has none. -/
lemma map_withFallback_ofSize (fallback : Option String) (size : Nat) (style : Option String) :
    (ofSize size style).map (withFallback fallback) = ofSize size (style <|> fallback) := by
  unfold ofSize
  split <;> rfl

/-- The fallback is the style of just the bytes that have none. -/
lemma ofGroups_eq (fallback : Option String) (stop cursor : Nat)
    (groups : List (Option Range × Option String)) :
    ofGroups fallback stop cursor groups
      = (ofGroups none stop cursor groups).map (withFallback fallback) := by
  induction groups generalizing cursor with
  | nil => rw [ofGroups, ofGroups, map_withFallback_ofSize]; rfl
  | cons group groups ih =>
    obtain ⟨range, style⟩ := group
    cases range with
    | none => exact ih cursor
    | some g =>
      rw [ofGroups, ofGroups]
      split
      · exact ih cursor
      · simp only [List.map_append, map_withFallback_ofSize, ih]
        cases style <;> rfl

/-- The pieces of a match take the other style where they have none. -/
lemma ofMatch_eq (fallback : Option String) (style : Style) (r : Match) :
    ofMatch fallback style r = (ofMatch none style r).map (withFallback fallback) := by
  cases style with
  | whole name => rw [ofMatch, ofMatch, map_withFallback_ofSize]; rfl
  | groups names => exact ofGroups_eq fallback r.stop r.start _

end Piece

namespace Progress

variable {σ : Type} (arbiter : Arbiter σ) (table : Table) (line : Text)

/-- The rule that wins in the active state, with its match. -/
def winner? (s : Progress σ) : Option (Rule × Match) := do
  let rules ← table.state? (ContextStack.state s.stack)
  (arbiter.choose s.memory (ContextStack.state s.stack) rules line s.position).1

/--
What a step passes over, each part with the style of its own. If no rule matches, it is the rest of
the line. Otherwise it is what stands before the match, the match under the style of its rule, and
one more character if nothing was read and nothing changes.
-/
def passes (s : Progress σ) : List Piece :=
  match s.winner? arbiter table line with
  | none => Piece.ofSize (Text.size line - s.position) none
  | some (rule, r) =>
    Piece.ofSize (r.start - s.position) none ++ Piece.ofMatch none rule.style r ++
      if r.range.isEmpty ∧ rule.transition = .stay then
        match Text.charAt? line r.stop with
        | none => []
        | some c => Piece.ofSize c.utf8Size none
      else []

/-- What a step emits, with the contexts that are open there. -/
def emits (s : Progress σ) : List Emission :=
  (s.passes arbiter table line).map fun p => ⟨p.size, p.style, s.stack⟩

/-- What at most `limit` steps emit. -/
def emissions : Nat → Progress σ → List Emission
  | 0, _ => []
  | limit + 1, s =>
    s.emits arbiter table line ++
      match s.step arbiter table line with
      | .next _ _ after => emissions limit after
      | _ => []

/-- Up to the end of a match, what is passed over becomes the pieces of the step. -/
lemma pieces_eq (s : Progress σ) (rule : Rule) (r : Match) :
    s.pieces rule r
      = (Piece.ofSize (r.start - s.position) none ++ Piece.ofMatch none rule.style r).map
          (Piece.withFallback (ContextStack.inherited s.stack)) := by
  rw [pieces, Piece.ofMatch_eq, List.map_append, Piece.map_withFallback_ofSize]
  rfl

end Progress

/-- The pieces of a step that does not fail. -/
def Step.pieces? {σ : Type} : Step σ → Option (List Piece)
  | .next pieces _ _ => some pieces
  | .done pieces _ => some pieces
  | .fail _ => none

namespace Progress

variable {σ : Type} {arbiter : Arbiter σ} {table : Table} {line : Text}

/-- The pieces of a step are what it emits, with the style resolved. -/
lemma pieces_step {s : Progress σ} {pieces : List Piece}
    (h : (s.step arbiter table line).pieces? = some pieces) :
    pieces = (s.emits arbiter table line).map Emission.piece := by
  have resolved : (s.emits arbiter table line).map Emission.piece
      = (s.passes arbiter table line).map
          (Piece.withFallback (ContextStack.inherited s.stack)) := List.map_map
  rw [resolved]
  unfold step at h
  unfold passes winner?
  dsimp only at h
  split at h
  · cases h
  · next rules state =>
    rw [state]
    dsimp only [Option.bind_eq_bind, Option.bind_some]
    split at h
    · next memory chosen =>
      cases h
      rw [chosen, Piece.map_withFallback_ofSize]
      rfl
    · next rule r memory chosen =>
      rw [chosen]
      dsimp only
      rw [List.map_append, ← pieces_eq]
      unfold advance at h
      dsimp only at h
      split at h
      · -- nothing was read and nothing changes
        next idle =>
        rw [if_pos idle]
        cases here : Text.charAt? line r.stop with
        | none =>
          rw [here] at h
          cases h
          exact (List.append_nil _).symm
        | some c =>
          rw [here] at h
          cases h
          dsimp only
          rw [Piece.map_withFallback_ofSize]
          rfl
      · next moves =>
        rw [if_neg moves, List.map_nil, List.append_nil]
        split at h
        · cases h
        · cases h
          rfl

/-- The pieces of all steps are what they emit, with the style resolved, if there is no error. -/
lemma pieces_run {number limit : Nat} {s : Progress σ}
    (ok : (s.run arbiter table number line limit).outcome.isOk) :
    (s.run arbiter table number line limit).pieces
      = (s.emissions arbiter table line limit).map Emission.piece := by
  induction limit generalizing s with
  | zero => cases ok
  | succ limit ih =>
    have here := @pieces_step σ arbiter table line s
    rw [run] at ok ⊢
    rw [emissions, List.map_append]
    generalize s.step arbiter table line = step at ok here
    cases step with
    | fail failure => cases ok
    | done pieces memory => rw [here rfl]; simp
    | next pieces events after => rw [here rfl, ← ih ok]

end Progress

/-! ## Lines -/

/-- What is emitted in a line. -/
def lineEmissions {σ : Type} (arbiter : Arbiter σ) (table : Table) (line : Text)
    (stack : ContextStack) (memory : σ) : List Emission :=
  Progress.emissions arbiter table line (stepLimit line) ⟨0, stack, arbiter.newLine memory⟩

/-- What is emitted in lines, the first of which has a number, up to an error. -/
def emittedLines {σ : Type} (arbiter : Arbiter σ) (table : Table) :
    Nat → ContextStack → σ → List Line → List (Line × List Emission)
  | _, _, _, [] => []
  | number, stack, memory, line :: lines =>
    (line, lineEmissions arbiter table line.content stack memory) ::
      match (tokenizeLine arbiter table number line.content stack memory).outcome with
      | .error _ => []
      | .ok (stack, memory) => emittedLines arbiter table (number + 1) stack memory lines

section

variable {σ : Type} {arbiter : Arbiter σ} {table : Table} {number : Nat} {stack : ContextStack}
  {memory : σ} {line : Line} {lines : List Line}

/-- Without an error the first line leaves contexts and a memory from which the others go on. -/
lemma exists_first_line
    (ok : (tokenizeLines arbiter table number stack memory (line :: lines)).outcome.isOk) :
    ∃ stack' memory',
      (tokenizeLine arbiter table number line.content stack memory).outcome.isOk ∧
      (tokenizeLines arbiter table (number + 1) stack' memory' lines).outcome.isOk ∧
      (tokenizeLines arbiter table number stack memory (line :: lines)).lines
        = (line, (tokenizeLine arbiter table number line.content stack memory).pieces) ::
            (tokenizeLines arbiter table (number + 1) stack' memory' lines).lines ∧
      emittedLines arbiter table number stack memory (line :: lines)
        = (line, lineEmissions arbiter table line.content stack memory) ::
            emittedLines arbiter table (number + 1) stack' memory' lines := by
  rw [tokenizeLines] at ok ⊢
  rw [emittedLines]
  dsimp only at ok ⊢
  split at ok
  · cases ok
  · next stack' memory' first =>
    rw [first]
    exact ⟨stack', memory', rfl, ok, rfl, rfl⟩

/-- Without an error every line is passed over. -/
lemma map_fst_emittedLines
    (ok : (tokenizeLines arbiter table number stack memory lines).outcome.isOk) :
    (emittedLines arbiter table number stack memory lines).map Prod.fst = lines := by
  induction lines generalizing number stack memory with
  | nil => rfl
  | cons line lines ih =>
    obtain ⟨stack', memory', _, others, _, emitted⟩ := exists_first_line ok
    rw [emitted, List.map_cons, ih others]

/-- Without an error the pieces of lines are what is emitted in them, with the style resolved. -/
lemma lines_tokenizeLines
    (ok : (tokenizeLines arbiter table number stack memory lines).outcome.isOk) :
    (tokenizeLines arbiter table number stack memory lines).lines
      = (emittedLines arbiter table number stack memory lines).map
          fun p => (p.1, p.2.map Emission.piece) := by
  induction lines generalizing number stack memory with
  | nil => rfl
  | cons line lines ih =>
    obtain ⟨stack', memory', first, others, report, emitted⟩ := exists_first_line ok
    have pieces := Progress.pieces_run first
    rw [report, emitted, List.map_cons, ih others]
    exact congrArg (fun ps => (line, ps) :: _) pieces

end

/-- Without an error what is emitted in each line adds up to the line. -/
lemma total_emittedLines {table : Table} {number : Nat} {stack : ContextStack} {memory : Cache}
    {lines : List Line} (sound : ∀ line ∈ lines, table.SoundOn line.content)
    (ok : (tokenizeLines .cached table number stack memory lines).outcome.isOk) :
    ∀ p ∈ emittedLines .cached table number stack memory lines,
      Piece.total (p.2.map Emission.piece) = Text.size p.1.content := by
  induction lines generalizing number stack memory with
  | nil => simp [emittedLines]
  | cons line lines ih =>
    obtain ⟨here, later⟩ := List.forall_mem_cons.1 sound
    obtain ⟨stack', memory', first, others, _, emitted⟩ := exists_first_line ok
    have filled := (fit_tokenizeLine here number stack memory).2 first
    rw [tokenizeLine, Progress.pieces_run first] at filled
    rw [emitted]
    exact List.forall_mem_cons.2 ⟨filled, ih later others⟩

end Highlighter
