import Highlighter.Proofs.Tokenizer.Maximal

/-!
# Styling by capture groups

The capture groups of a match may be missing, nested, overlapping, out of order or outside of the
match. Its pieces are made by one pass over the groups, with a cursor that only moves on. What comes
of it can be said byte by byte without the cursor: the first group that ends behind a byte decides
about it (`Match.Decides`), unless nothing of the group lies in the match. The main result is
`Piece.ofMatch_by_groups`.
-/

namespace Highlighter

/-- What of a range lies in another. -/
def Range.clip (g r : Range) : Range := ⟨max g.start r.start, min g.stop r.stop⟩

namespace Match

/--
The group with an index took part in the match, something of it lies there, and this ends behind a
byte.
-/
structure Reaches (r : Match) (b i : Nat) (g : Range) : Prop where
  group : r.groups[i]? = some (some g)
  nonempty : (g.clip r.range).start < (g.clip r.range).stop
  behind : b < (g.clip r.range).stop

/-- The first group that reaches behind a byte, and its entry among the names. -/
structure Decides (r : Match) (names : List (Option String)) (b i : Nat) (g : Range)
    (name : Option String) : Prop where
  reaches : r.Reaches b i g
  named : names[i]? = some name
  first : ∀ j < i, ∀ g', ¬ r.Reaches b j g'

/-- Whether a group, with its entry, reaches behind a byte. -/
def reaches (range : Range) (b : Nat) : Option Range × Option String → Bool
  | (none, _) => false
  | (some g, _) => !(g.clip range).isEmpty && b < (g.clip range).stop

/-- A group reaches a byte if, cut to the match, it is not empty and ends behind the byte. -/
lemma reaches_iff {range g : Range} {b : Nat} {name : Option String} :
    reaches range b (some g, name) = true ↔
      max g.start range.start < min g.stop range.stop ∧ b < min g.stop range.stop := by
  simp only [reaches, Range.isEmpty, Bool.and_eq_true, Bool.not_eq_true', decide_eq_false_iff_not,
    decide_eq_true_eq, Nat.not_le]
  exact Iff.rfl

/-- The group that decides about a byte is the first with an entry that reaches behind it. -/
lemma find?_eq_some_iff {r : Match} {names : List (Option String)} {b : Nat} {g : Range}
    {name : Option String} :
    (r.groups.zip names).find? (reaches r.range b) = some (some g, name) ↔
      ∃ i, r.Decides names b i g name := by
  rw [List.find?_eq_some_iff_getElem]
  constructor
  · rintro ⟨reach, i, hi, here, first⟩
    rw [List.getElem_zip, Prod.mk.injEq] at here
    obtain ⟨group, named⟩ := here
    obtain ⟨nonempty, behind⟩ := reaches_iff.1 reach
    refine ⟨i, ⟨?_, nonempty, behind⟩, ?_, fun j lt g' other => ?_⟩
    · exact List.getElem?_eq_some_iff.2 ⟨_, group⟩
    · exact List.getElem?_eq_some_iff.2 ⟨_, named⟩
    · obtain ⟨hj, there⟩ := List.getElem?_eq_some_iff.1 other.group
      have short := first j lt
      rw [List.getElem_zip, there, Bool.not_eq_true'] at short
      exact Bool.false_ne_true (short.symm.trans (reaches_iff.2 ⟨other.nonempty, other.behind⟩))
  · rintro ⟨i, ⟨group, nonempty, behind⟩, named, first⟩
    obtain ⟨hi, here⟩ := List.getElem?_eq_some_iff.1 group
    obtain ⟨hi', here'⟩ := List.getElem?_eq_some_iff.1 named
    refine ⟨reaches_iff.2 ⟨nonempty, behind⟩, i, ?_, ?_, fun j lt => ?_⟩
    · rw [List.length_zip]
      exact Nat.lt_min.2 ⟨hi, hi'⟩
    · rw [List.getElem_zip, here, here']
    · rw [List.getElem_zip, Bool.not_eq_true']
      cases there : r.groups[j] with
      | none => rfl
      | some g' =>
        refine Bool.eq_false_iff.2 fun reach => ?_
        obtain ⟨nonempty', behind'⟩ := reaches_iff.1 reach
        exact first j lt g' ⟨List.getElem?_eq_some_iff.2 ⟨_, there⟩, nonempty', behind'⟩

end Match

namespace Piece

/-- The style that the first group that reaches behind a byte gives to it. -/
def ownStyle (range : Range) (b : Nat) (groups : List (Option Range × Option String)) :
    Option String :=
  match groups.find? (Match.reaches range b) with
  | some (some g, name) => if g.start ≤ b then name else none
  | _ => none

/-- The first group that reaches a byte settles its style. -/
lemma ownStyle_cons (range : Range) (b : Nat) (g : Range) (name : Option String)
    (groups : List (Option Range × Option String)) :
    ownStyle range b ((some g, name) :: groups) =
      if max g.start range.start < min g.stop range.stop ∧ b < min g.stop range.stop then
        if g.start ≤ b then name else none
      else ownStyle range b groups := by
  rw [ownStyle, ownStyle]
  by_cases reach : max g.start range.start < min g.stop range.stop ∧ b < min g.stop range.stop
  · rw [if_pos reach, List.find?_cons_of_pos (Match.reaches_iff.2 reach)]
  · rw [if_neg reach, List.find?_cons_of_neg (mt Match.reaches_iff.1 reach)]

variable {fallback : Option String}

/-- A byte lies in the first piece or in one behind it. -/
lemma styleAt_ofSize_append {size b : Nat} {style : Option String} {ps : List Piece} :
    styleAt (ofSize size style ++ ps) b = if b < size then style else styleAt ps (b - size) := by
  rw [styleAt_append, total_ofSize]
  split
  · next lt =>
    have some : size ≠ 0 := by omega
    rw [ofSize, if_neg some, styleAt, if_pos lt]
  · rfl

/-- What a group does to the bytes from the cursor on: those before it, its own, those behind it. -/
lemma styleAt_ofGroups_cons {stop cursor b : Nat} (le : cursor ≤ b) (g : Range)
    (name : Option String) (groups : List (Option Range × Option String)) :
    styleAt (ofGroups fallback stop cursor ((some g, name) :: groups)) (b - cursor) =
      if min g.stop stop ≤ max g.start cursor then
        styleAt (ofGroups fallback stop cursor groups) (b - cursor)
      else if b < g.start then fallback
      else if b < min g.stop stop then name <|> fallback
      else styleAt (ofGroups fallback stop (min g.stop stop) groups) (b - min g.stop stop) := by
  rw [ofGroups]
  split
  · rfl
  · next some =>
    rw [List.append_assoc, styleAt_ofSize_append, styleAt_ofSize_append]
    by_cases before : b < g.start
    · rw [if_pos before, if_pos (by omega)]
    · rw [if_neg before, if_neg (by omega)]
      by_cases inside : b < min g.stop stop
      · rw [if_pos inside, if_pos (by omega)]
      · have behind : b - cursor - (max g.start cursor - cursor)
            - (min g.stop stop - max g.start cursor) = b - min g.stop stop := by omega
        rw [if_neg inside, if_neg (by omega), behind]

/--
The cursor does not matter: what a byte behind it gets depends on the groups alone. The cursor stays
at or before the byte until the first group comes that ends behind it.
-/
lemma styleAt_ofGroups {range : Range} {cursor b : Nat} (start : range.start ≤ cursor)
    (le : cursor ≤ b) (lt : b < range.stop) (groups : List (Option Range × Option String)) :
    styleAt (ofGroups fallback range.stop cursor groups) (b - cursor)
      = (ownStyle range b groups <|> fallback) := by
  induction groups generalizing cursor with
  | nil =>
    have all := @styleAt_ofSize_append (range.stop - cursor) (b - cursor) fallback []
    rw [List.append_nil, if_pos (by omega)] at all
    exact all
  | cons group groups ih =>
    obtain ⟨_ | g, name⟩ := group
    · exact ih start le
    · rw [styleAt_ofGroups_cons le, ownStyle_cons]
      by_cases reaches : max g.start range.start < min g.stop range.stop ∧ b < min g.stop range.stop
      · rw [if_pos reaches, if_neg (by omega)]
        by_cases before : b < g.start
        · rw [if_pos before, if_neg (by omega)]
          rfl
        · rw [if_neg before, if_pos reaches.2, if_pos (by omega)]
      · -- the group is skipped, or it ends before the byte and moves the cursor to its end
        rw [if_neg reaches]
        by_cases skipped : min g.stop range.stop ≤ max g.start cursor
        · rw [if_pos skipped, ih start le]
        · rw [if_neg skipped, if_neg (by omega), if_neg (by omega), ih (by omega) (by omega)]

/-- A byte has the style of the group that decides it, if the group has started there. -/
lemma ownStyle_of_decides {r : Match} {names : List (Option String)} {b i : Nat} {g : Range}
    {name : Option String} (decides : r.Decides names b i g name) :
    ownStyle r.range b (r.groups.zip names) = if g.start ≤ b then name else none := by
  rw [ownStyle, Match.find?_eq_some_iff.2 ⟨i, decides⟩]

/-- A byte that no group decides has no style of its own. -/
lemma ownStyle_of_none_decides {r : Match} {names : List (Option String)} {b : Nat}
    (none : ∀ i g name, ¬ r.Decides names b i g name) :
    ownStyle r.range b (r.groups.zip names) = .none := by
  rw [ownStyle]
  split
  · next g name found =>
    obtain ⟨i, decides⟩ := Match.find?_eq_some_iff.1 found
    exact absurd decides (none i g name)
  · rfl

/--
The pieces of a match that is styled by its groups have the size of the match. A byte of the match
gets the style of the first group that ends behind it and has an entry, if that group starts at or
before the byte. Where the entry is empty, and everywhere else, it gets what the innermost open
context lends.
-/
theorem ofMatch_by_groups (stack : ContextStack) (names : List (Option String)) (r : Match) :
    let inherited := ContextStack.inherited stack
    let pieces := ofMatch inherited (.groups names) r
    total pieces = r.stop - r.start ∧
    ∀ b, r.start ≤ b → b < r.stop →
      (∀ i g name, r.Decides names b i g name →
        styleAt pieces (b - r.start) = if g.start ≤ b then name <|> inherited else inherited) ∧
      ((∀ i g name, ¬ r.Decides names b i g name) →
        styleAt pieces (b - r.start) = inherited) := by
  intro inherited pieces
  have styled : ∀ b, r.start ≤ b → b < r.stop → styleAt pieces (b - r.start)
      = (ownStyle r.range b (r.groups.zip names) <|> inherited) :=
    fun b le lt => styleAt_ofGroups (Nat.le_refl _) le lt _
  refine ⟨total_ofGroups_eq_sub, fun b le lt => ⟨fun i g name decides => ?_, fun none => ?_⟩⟩
  · rw [styled b le lt, ownStyle_of_decides decides]
    split <;> rfl
  · rw [styled b le lt, ownStyle_of_none_decides none]
    rfl

end Piece

/-- Groups that took no part, start before the match, lie outside of it, or stand in no order. -/
def Match.scattered : Match :=
  ⟨⟨2, 8⟩, [none, some ⟨0, 4⟩, some ⟨0, 2⟩, some ⟨6, 7⟩, some ⟨4, 5⟩, some ⟨8, 10⟩]⟩

/-- An open context that lends its style. -/
def Context.lending (style : String) : Context :=
  ⟨⟨⟨"", fun _ _ => none, fun _ _ => false⟩, .whole style, .push 0, .environment⟩, 0⟩

/-- The group from 4 to 5 comes too late for its byte: the one from 6 to 7 has decided about it. -/
theorem Piece.ofMatch_by_groups_scattered :
    let names := [some "x", some "a", some "y", none, some "z", some "w"]
    let pieces := ofMatch (ContextStack.inherited [.lending "env"]) (.groups names) .scattered
    total pieces = 6 ∧
    Match.scattered.Decides names 3 1 ⟨0, 4⟩ (some "a") ∧ styleAt pieces 1 = some "a" ∧
    Match.scattered.Decides names 4 3 ⟨6, 7⟩ none ∧ styleAt pieces 2 = some "env" ∧
    (∀ i g name, ¬ Match.scattered.Decides names 7 i g name) ∧ styleAt pieces 5 = some "env" := by
  intro names pieces
  obtain ⟨size, styled⟩ := ofMatch_by_groups [.lending "env"] names .scattered
  have third : Match.scattered.Decides names 3 1 ⟨0, 4⟩ (some "a") := by
    refine ⟨⟨rfl, by decide, by decide⟩, rfl, fun j lt g' other => ?_⟩
    obtain rfl : j = 0 := by omega
    cases other.group
  have fourth : Match.scattered.Decides names 4 3 ⟨6, 7⟩ none := by
    refine ⟨⟨rfl, by decide, by decide⟩, rfl, fun j lt g' other => ?_⟩
    rcases j with _ | _ | _ | j
    · cases other.group
    · cases other.group
      exact absurd other.behind (by decide)
    · cases other.group
      exact absurd other.nonempty (by decide)
    · omega
  have none_seventh : ∀ i g name, ¬ Match.scattered.Decides names 7 i g name := by
    intro i g name decides
    have found := Match.find?_eq_some_iff.2 ⟨i, decides⟩
    have nothing : (Match.scattered.groups.zip names).find? (Match.reaches Match.scattered.range 7)
        = none := by decide
    cases nothing.symm.trans found
  exact ⟨size, third, (styled 3 (by decide) (by decide)).1 1 _ _ third, fourth,
    (styled 4 (by decide) (by decide)).1 3 _ _ fourth, none_seventh,
    (styled 7 (by decide) (by decide)).2 none_seventh⟩

end Highlighter
