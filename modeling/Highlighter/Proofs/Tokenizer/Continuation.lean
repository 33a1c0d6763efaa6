import Highlighter.Proofs.Tokenizer.Reference
import Highlighter.Proofs.Tokenizer.Runs
import Highlighter.Proofs.Tokenizer.Step

/-!
# Highlighting goes on behind a line

A text that is cut between two lines has the lines of its parts, those of the second part moved by
the size of the first. The lines of the second part are tokenized in the contexts that the first
part leaves open, and nothing else matters to them: the cache is emptied for every line, the number
of searches in it is only counted, and the number of a line shows in failures only. So the
highlighting of the whole is made of that of its parts (`highlightFrom_append`). The main result is
`highlight_line_by_line`.
-/

namespace Highlighter

/-! ## Lines of a text that is cut -/

namespace Text

/--
A text may be cut between two lines: the first part is empty or ends with the end of a line, which
is not torn apart.
-/
structure Cut (a b : Text) : Prop where
  ended : ∀ c, a.getLast? = some c → EndsLine c
  whole : ¬ (a.getLast? = some '\r' ∧ b.head? = some '\n')

/-- A cut stays one without the first character before it. -/
lemma Cut.tail {c : Char} {a b : Text} (cut : Cut (c :: a) b) : Cut a b := by
  cases a with
  | nil => exact ⟨nofun, nofun⟩
  | cons d a =>
    obtain ⟨ended, whole⟩ := cut
    rw [List.getLast?_cons_cons] at ended whole
    exact ⟨ended, whole⟩

/-- Contents and endings of a text that is cut are those of its parts. -/
lemma pieces_append {a b : Text} (cut : Cut a b) : pieces (a ++ b) = pieces a ++ pieces b := by
  fun_induction pieces a with
  | case1 => rfl
  | case2 t ih =>
    rw [List.cons_append, List.cons_append, pieces, ih cut.tail.tail]
    rfl
  | case3 t other ih =>
    -- a line feed behind the carriage return would be the first character of `b`
    have apart : ∀ t', t ++ b = '\n' :: t' → False := by
      intro t' e
      cases t with
      | nil => exact cut.whole ⟨rfl, by rw [List.nil_append] at e; rw [e]; rfl⟩
      | cons d t =>
        obtain ⟨rfl, -⟩ := List.cons.inj e
        exact other t rfl
    rw [List.cons_append, pieces.eq_3 _ apart, ih cut.tail]
    rfl
  | case4 t ih =>
    rw [List.cons_append, pieces, ih cut.tail]
    rfl
  | case5 c t hcrlf hcr hlf e ih =>
    obtain rfl := pieces_eq_nil e
    exact absurd (cut.ended c rfl) (by rintro (rfl | rfl); exacts [hcr rfl, hlf rfl])
  | case6 c t _ hcr hlf content ending rest e ih =>
    have others := ih cut.tail
    rw [e] at others
    rw [List.cons_append, pieces.eq_5 _ _ (fun _ h _ => hcr h) hcr hlf, others]
    rfl

end Text

namespace Line

/-- A line moved to the right. -/
def shift (k : Nat) (l : Line) : Line := ⟨k + l.start, l.content, l.ending⟩

/-- Lines are placed one after the other. -/
lemma place_append (n : Nat) (ps qs : List (Text × Option LineBreak)) :
    place n (ps ++ qs) = place n ps ++
      place (n + Text.size (ps.flatMap fun p => p.1 ++ LineBreak.optionText p.2)) qs := by
  induction ps generalizing n with
  | nil => rfl
  | cons p ps ih =>
    have next : Line.next ⟨n, p.1, p.2⟩ = n + Text.size (p.1 ++ LineBreak.optionText p.2) := by
      simp only [Line.next, stop, endingSize_eq, Text.size_append, Nat.add_assoc]
    rw [List.cons_append, place, place, ih, next, List.flatMap_cons,
      Text.size_append (p.1 ++ _) (ps.flatMap _), Nat.add_assoc]
    rfl

/-- Lines that are placed further right are the same lines, moved. -/
lemma place_add (k n : Nat) (ps : List (Text × Option LineBreak)) :
    place (k + n) ps = (place n ps).map (shift k) := by
  induction ps generalizing n with
  | nil => rfl
  | cons p ps ih =>
    have next : Line.next ⟨k + n, p.1, p.2⟩ = k + Line.next ⟨n, p.1, p.2⟩ := by
      simp only [Line.next, stop, endingSize, Nat.add_assoc]
    rw [place, place, next, ih]
    rfl

end Line

/-- The lines of a text that is cut are those of its parts. -/
lemma physicalLines_append {a b : Text} (cut : Text.Cut a b) :
    physicalLines (a ++ b) =
      physicalLines a ++ (physicalLines b).map (Line.shift (Text.size a)) := by
  rw [physicalLines, Text.pieces_append cut, Line.place_append, Text.flatMap_pieces, Nat.zero_add,
    ← Nat.add_zero (Text.size a), Line.place_add]
  rfl

/-- The lines of a text that ends with the end of a line stop before it. -/
lemma stop_lt_size {t : Text} (ended : ∀ c, t.getLast? = some c → Text.EndsLine c) {l : Line}
    (h : l ∈ physicalLines t) : l.stop < Text.size t := by
  -- one more character would be a line of its own, which starts where `t` ends
  have cut : Text.Cut t ['x'] := ⟨ended, by simp⟩
  have apart := pairwise_physicalLines (t ++ ['x'])
  rw [physicalLines_append cut] at apart
  exact (List.pairwise_append.1 apart).2.2 l h _ List.mem_cons_self

/-! ## What the tokenizer keeps between lines -/

namespace Cache

/-- A cache that was used for more searches. -/
def addSearches (n : Nat) (c : Cache) : Cache := { c with searches := c.searches + n }

/-- The number of earlier searches does not matter for what is found. -/
lemma find_addSearches (n : Nat) (c : Cache) (key : RuleKey) (m : Matcher) (line : Text)
    (pos : Nat) :
    (c.addSearches n).find key m line pos
      = ((c.find key m line pos).1, (c.find key m line pos).2.addSearches n) := by
  have stale : (c.addSearches n).isStale key pos = c.isStale key pos := rfl
  rw [find, find, stale]
  split
  · simp [record, addSearches, Nat.add_right_comm]
  · rfl

/-- The number of searches so far has no part in the choice. -/
lemma chooseFrom_addSearches (n state : Nat) (line : Text) (pos i : Nat)
    (best : Option (Rule × Match)) (c : Cache) (rules : List Rule) :
    chooseFrom state line pos i best (c.addSearches n) rules
      = ((chooseFrom state line pos i best c rules).1,
          (chooseFrom state line pos i best c rules).2.addSearches n) := by
  induction rules generalizing i best c with
  | nil => rfl
  | cons rule rules ih =>
    rw [chooseFrom, chooseFrom, find_addSearches]
    obtain ⟨found, c'⟩ := c.find ⟨state, i⟩ rule.matcher line pos
    cases found with
    | none => exact ih (i + 1) best c'
    | some r =>
      dsimp only
      split
      · split
        · rfl
        · exact ih (i + 1) _ c'
      · exact ih (i + 1) best c'

end Cache

namespace Progress

/-- A step is the same with a cache that was used for more searches. -/
lemma step_addSearches (n : Nat) (s : Progress Cache) (table : Table) (line : Text) :
    (s.step .cached table line).mapMemory (Cache.addSearches n)
      = (s.mapMemory (Cache.addSearches n)).step .cached table line :=
  s.mapMemory_step _ table line fun rules _ =>
    Cache.chooseFrom_addSearches n _ line s.position 0 none s.memory rules

/-- A line comes to the same, whatever was searched for before it. -/
lemma forget_run_addSearches (n : Nat) (s : Progress Cache) (table : Table) (number : Nat)
    (line : Text) (limit : Nat) :
    ((s.mapMemory (Cache.addSearches n)).run .cached table number line limit).forget
      = (s.run .cached table number line limit).forget := by
  induction limit generalizing s with
  | zero => rfl
  | succ limit ih =>
    rw [run, run, ← step_addSearches]
    cases s.step .cached table line with
    | fail failure => rfl
    | done pieces memory => rfl
    | next pieces events after =>
      have rest := ih after
      simp only [LineReport.forget, LineReport.mapMemory, LineReport.mk.injEq] at rest
      simp only [Step.mapMemory, LineReport.forget, LineReport.mapMemory, rest]

end Progress

/-- A line is tokenized in the same way, whatever is remembered of the lines before it. -/
lemma forget_tokenizeLine_memory (table : Table) (number : Nat) (line : Text)
    (stack : ContextStack) (memory : Cache) :
    (tokenizeLine .cached table number line stack memory).forget
      = (tokenizeLine .cached table number line stack {}).forget := by
  have emptied : memory.clear = ({} : Cache).addSearches memory.searches := by
    simp [Cache.addSearches, Cache.clear]
  rw [tokenizeLine, tokenizeLine, Arbiter.cached]
  dsimp only
  rw [emptied]
  exact Progress.forget_run_addSearches memory.searches ⟨0, stack, {}⟩ table number line _

/-- Lines are tokenized alike whatever is remembered from before. -/
lemma forget_tokenizeLines_memory (table : Table) (number : Nat) (stack : ContextStack)
    (memory memory' : Cache) (lines : List Line) :
    (tokenizeLines .cached table number stack memory lines).forget
      = (tokenizeLines .cached table number stack memory' lines).forget := by
  induction lines generalizing number stack memory memory' with
  | nil => rfl
  | cons line lines ih =>
    have first : (tokenizeLine .cached table number line.content stack memory).forget
        = (tokenizeLine .cached table number line.content stack memory').forget :=
      (forget_tokenizeLine_memory ..).trans (forget_tokenizeLine_memory ..).symm
    rw [tokenizeLines, tokenizeLines]
    generalize tokenizeLine .cached table number line.content stack memory = r at first
    generalize tokenizeLine .cached table number line.content stack memory' = r' at first
    obtain ⟨pieces, events, outcome⟩ := r
    obtain ⟨pieces', events', outcome'⟩ := r'
    simp only [LineReport.forget, LineReport.mapMemory, LineReport.mk.injEq] at first
    obtain ⟨rfl, rfl, same⟩ := first
    cases outcome with
    | error failure =>
      cases outcome' with
      | error failure' =>
        cases same
        rfl
      | ok left' => cases same
    | ok left =>
      cases outcome' with
      | error failure' => cases same
      | ok left' =>
        -- both leave the same contexts
        obtain ⟨stack₁, memory₁⟩ := left
        obtain ⟨stack₂, memory₂⟩ := left'
        cases same
        have rest := ih (number + 1) stack₁ memory₁ memory₂
        simp only [TextReport.forget, TextReport.mapMemory, TextReport.mk.injEq] at rest
        simp only [TextReport.forget, TextReport.mapMemory, rest]

/-! ## Lines behind others -/

/-- The failure of a line behind some more. -/
def HighlightFailure.renumber (k : Nat) : HighlightFailure → HighlightFailure
  | .unknownState state states => .unknownState state states
  | .noProgress line => .noProgress (line + k)

section

variable {σ : Type} (arbiter : Arbiter σ) (table : Table)

/-- The number of a line shows in the failure only. -/
lemma run_renumber (k : Nat) (s : Progress σ) (number : Nat) (line : Text) (limit : Nat) :
    s.run arbiter table (number + k) line limit =
      { s.run arbiter table number line limit with
        outcome := (s.run arbiter table number line limit).outcome.mapError (·.renumber k) } := by
  induction limit generalizing s with
  | zero => rfl
  | succ limit ih =>
    rw [Progress.run, Progress.run]
    cases step : s.step arbiter table line with
    | fail failure =>
      obtain ⟨state, rfl⟩ := Progress.exists_unknownState step
      rfl
    | done pieces memory => rfl
    | next pieces events after => simp only [ih after]

/-- The report on lines that stand further right in a text, behind some more lines. -/
def TextReport.behind (k offset : Nat) (r : TextReport σ) : TextReport σ where
  lines := r.lines.map fun p => (p.1.shift offset, p.2)
  events := r.events
  outcome := r.outcome.mapError (·.renumber k)

/-- Lines further down are tokenized alike, but for their numbers and places. -/
lemma tokenizeLines_behind (k offset number : Nat) (stack : ContextStack) (memory : σ)
    (lines : List Line) :
    tokenizeLines arbiter table (number + k) stack memory (lines.map (Line.shift offset)) =
      (tokenizeLines arbiter table number stack memory lines).behind k offset := by
  induction lines generalizing number stack memory with
  | nil => rfl
  | cons line lines ih =>
    rw [List.map_cons, tokenizeLines, tokenizeLines]
    have first : tokenizeLine arbiter table (number + k) (line.shift offset).content stack memory =
        { tokenizeLine arbiter table number line.content stack memory with
          outcome := (tokenizeLine arbiter table number line.content stack memory).outcome.mapError
            (·.renumber k) } := run_renumber arbiter table k _ number line.content _
    rw [first]
    obtain ⟨pieces, events, outcome⟩ := tokenizeLine arbiter table number line.content stack memory
    cases outcome with
    | error failure => rfl
    | ok left =>
      have rest := ih (number + 1) left.1 left.2
      rw [Nat.add_right_comm] at rest
      simp only [Except.mapError, rest]
      rfl

end

/-! ## Tags of a text behind another -/

/-- A tag moved to the right. -/
def Tag.shift (k : Nat) : Tag → Tag
  | .start n e => .start (k + n) e
  | .stop n => .stop (k + n)

/-- The offset of a shifted tag. -/
lemma Tag.offset_shift (k : Nat) (t : Tag) : (t.shift k).offset = k + t.offset := by
  cases t <;> rfl

/-- The tags of a shifted line are shifted. -/
lemma Line.tags_shift (classPrefix : String) (k : Nat) (line : Line) (pieces : List Piece) :
    (line.shift k).tags classPrefix pieces = (line.tags classPrefix pieces).map (Tag.shift k) := by
  rw [Line.tags, Line.tags, List.map_flatMap]
  refine List.flatMap_congr fun r _ => ?_
  simp [Run.tags, Line.shift, Tag.shift, Nat.add_assoc]

/-- So are the tags of all lines. -/
lemma TextReport.tags_behind {σ : Type} (classPrefix : String) (k offset : Nat)
    (r : TextReport σ) :
    (r.behind k offset).tags classPrefix = (r.tags classPrefix).map (Tag.shift offset) := by
  rw [tags, tags, behind, List.flatMap_map, List.map_flatMap]
  exact List.flatMap_congr fun p _ => p.1.tags_shift classPrefix offset p.2

/-- The tags of a report and the contexts that are left open, or its failure. -/
def TextReport.result {σ : Type} (classPrefix : String) (r : TextReport σ) :
    Except HighlightFailure (List Tag × ContextStack) :=
  r.outcome.map fun left => (r.tags classPrefix, left.1)

/-- The result does not show the memory. -/
lemma TextReport.result_forget {σ : Type} (classPrefix : String) (r : TextReport σ) :
    r.forget.result classPrefix = r.result classPrefix := by
  obtain ⟨lines, events, outcome⟩ := r
  cases outcome <;> rfl

/--
Highlights a text in contexts that are open already. Besides the tags, the contexts are returned
that it leaves open.
-/
def highlightFrom (table : Table) (classPrefix : String) (stack : ContextStack) (text : Text) :
    Except HighlightFailure (List Tag × ContextStack) :=
  (tokenizeLines .cached table 0 stack {} (physicalLines text)).result classPrefix

/-- Highlighting starts without open contexts. -/
lemma highlight_eq_highlightFrom (table : Table) (classPrefix : String) (text : Text) :
    highlight table classPrefix text = (highlightFrom table classPrefix [] text).map Prod.fst := by
  rw [highlight_eq, highlightFrom, TextReport.result, tokenize]
  cases (tokenizeLines .cached table 0 [] {} (physicalLines text)).outcome <;> rfl

/-- What is returned for a text behind another, which has some lines and a size. -/
def TextReport.resultBehind (k offset : Nat) :
    Except HighlightFailure (List Tag × ContextStack) →
      Except HighlightFailure (List Tag × ContextStack)
  | .error failure => .error (failure.renumber k)
  | .ok (tags, stack) => .ok (tags.map (Tag.shift offset), stack)

/-- The result of lines further down is the shifted result. -/
lemma TextReport.result_behind {σ : Type} (classPrefix : String) (k offset : Nat)
    (r : TextReport σ) :
    (r.behind k offset).result classPrefix = resultBehind k offset (r.result classPrefix) := by
  have tags := tags_behind classPrefix k offset r
  obtain ⟨lines, events, outcome⟩ := r
  cases outcome with
  | error failure => rfl
  | ok left => simp only [result, tags]; rfl

/-- What is returned for lines does not depend on what is remembered. -/
lemma result_tokenizeLines_memory (table : Table) (classPrefix : String) (number : Nat)
    (stack : ContextStack) (memory memory' : Cache) (lines : List Line) :
    (tokenizeLines .cached table number stack memory lines).result classPrefix
      = (tokenizeLines .cached table number stack memory' lines).result classPrefix := by
  rw [← TextReport.result_forget, forget_tokenizeLines_memory _ _ _ memory memory',
    TextReport.result_forget]

/-- The result of more lines is added to that of the first ones. -/
lemma TextReport.result_andThen {σ : Type} (classPrefix : String) {r : TextReport σ}
    {stack : ContextStack} {memory : σ} (ok : r.outcome = .ok (stack, memory))
    (next : ContextStack → σ → TextReport σ) :
    (r.andThen next).result classPrefix = do
      let (more, stack) ← (next stack memory).result classPrefix
      return (r.tags classPrefix ++ more, stack) := by
  rw [andThen, ok]
  dsimp only
  generalize next stack memory = r'
  obtain ⟨lines, events, outcome⟩ := r'
  cases outcome with
  | error failure => rfl
  | ok left =>
    have both : (r.lines ++ lines).flatMap (fun p => p.1.tags classPrefix p.2) =
        r.lines.flatMap (fun p => p.1.tags classPrefix p.2) ++
          lines.flatMap fun p => p.1.tags classPrefix p.2 := List.flatMap_append
    simp only [result, tags, both]
    rfl

/--
A text that is cut between two lines is highlighted part by part: the second part in the contexts
that the first one leaves open, and moved behind it.
-/
theorem highlightFrom_append {a b : Text} (cut : Text.Cut a b) (table : Table)
    (classPrefix : String) (stack : ContextStack) :
    highlightFrom table classPrefix stack (a ++ b) = do
      let (tags, stack) ← highlightFrom table classPrefix stack a
      let (more, stack) ← TextReport.resultBehind (physicalLines a).length (Text.size a)
        (highlightFrom table classPrefix stack b)
      return (tags ++ more, stack) := by
  rw [highlightFrom, physicalLines_append cut, tokenizeLines_append, highlightFrom,
    TextReport.result.eq_def classPrefix (tokenizeLines _ _ _ _ _ (physicalLines a))]
  cases outcome : (tokenizeLines .cached table 0 stack {} (physicalLines a)).outcome with
  | error failure =>
    rw [TextReport.andThen, TextReport.result, outcome]
    dsimp only
    rw [outcome]
    rfl
  | ok left =>
    obtain ⟨stack', memory⟩ := left
    rw [TextReport.result_andThen classPrefix outcome, tokenizeLines_behind,
      TextReport.result_behind, result_tokenizeLines_memory _ _ _ _ memory {}]
    rfl

/-- What highlighting in open contexts returns comes of the tokenizer. -/
lemma exists_outcome_of_highlightFrom {table : Table} {classPrefix : String}
    {stack stack' : ContextStack} {text : Text} {tags : List Tag}
    (ok : highlightFrom table classPrefix stack text = .ok (tags, stack')) :
    ∃ cache, (tokenizeLines .cached table 0 stack {} (physicalLines text)).outcome
      = .ok (stack', cache) := by
  rw [highlightFrom, TextReport.result] at ok
  cases outcome : (tokenizeLines .cached table 0 stack {} (physicalLines text)).outcome with
  | error failure =>
    rw [outcome] at ok
    cases ok
  | ok left =>
    rw [outcome] at ok
    cases ok
    exact ⟨left.2, rfl⟩

/-- The tags of a text that ends with the end of a line stand before it. -/
lemma offset_lt_size {table : Table} {classPrefix : String} {text : Text} {tags : List Tag}
    (ended : ∀ c, text.getLast? = some c → Text.EndsLine c)
    (sound : ∀ line ∈ physicalLines text, table.SoundOn line.content)
    (ok : highlight table classPrefix text = .ok tags) : ∀ t ∈ tags, t.offset < Text.size text := by
  intro t ht
  rw [highlight_eq_ok ok] at ht
  obtain ⟨s, hs, ht⟩ := List.mem_flatMap.1 ht
  obtain ⟨line, pieces, hline, fit, mem⟩ := exists_line_of_mem_spans sound hs
  obtain ⟨_, lt, stop_le, _⟩ := Line.of_mem_spans fit mem
  have before := stop_lt_size ended hline
  rcases List.mem_pair.1 ht with rfl | rfl
  · rw [Tag.offset_start]
    omega
  · rw [Tag.offset_stop]
    omega

/-- Of tags before an offset and tags moved behind it, the offset tells which are which. -/
lemma Tag.split_at_offset {n : Nat} {first : List Tag} (before : ∀ t ∈ first, t.offset < n)
    (more : List Tag) :
    (first ++ more.map (Tag.shift n)).takeWhile (fun t => t.offset < n) = first ∧
      (first ++ more.map (Tag.shift n)).dropWhile (fun t => t.offset < n)
        = more.map (Tag.shift n) := by
  have all : ∀ t ∈ first, decide (t.offset < n) = true := fun t ht => decide_eq_true (before t ht)
  rw [List.takeWhile_append_of_pos all, List.dropWhile_append_of_pos all]
  cases more with
  | nil => simp
  | cons t more => simp [Tag.offset_shift]

/--
Highlighting goes on behind a line. Let a text be cut where its first part ends a line, and not
between a carriage return and a line feed. If the first part fails, the whole fails in the same way.
If the whole succeeds, the first part succeeds too, and its tags are the first tags of the whole, up
to its size; the other tags are those of the second part alone, highlighted in the contexts that the
first part leaves open, and moved by the size of the first part.
-/
theorem highlight_line_by_line {table : Table} {a b : Text} (classPrefix : String)
    (ended : a.getLast? = some '\n' ∨ a.getLast? = some '\r')
    (whole : ¬ (a.getLast? = some '\r' ∧ b.head? = some '\n'))
    (sound : ∀ line ∈ physicalLines (a ++ b), table.SoundOn line.content) :
    (∀ failure, highlight table classPrefix a = .error failure →
        highlight table classPrefix (a ++ b) = .error failure) ∧
      ∀ tags, highlight table classPrefix (a ++ b) = .ok tags →
        highlight table classPrefix a = .ok (tags.takeWhile fun t => t.offset < Text.size a) ∧
        ∃ stack cache more stack',
          (tokenize .cached table {} a).outcome = .ok (stack, cache) ∧
          highlightFrom table classPrefix stack b = .ok (more, stack') ∧
          tags.dropWhile (fun t => t.offset < Text.size a)
            = more.map (Tag.shift (Text.size a)) := by
  have last : ∀ c, a.getLast? = some c → Text.EndsLine c := by
    intro c hc
    rcases ended with lf | cr
    · exact .inr (Option.some.inj (hc.symm.trans lf))
    · exact .inl (Option.some.inj (hc.symm.trans cr))
  have cut : Text.Cut a b := ⟨last, whole⟩
  have parts := highlightFrom_append cut table classPrefix []
  have sound_first : ∀ line ∈ physicalLines a, table.SoundOn line.content := by
    intro line hline
    refine sound line ?_
    rw [physicalLines_append cut]
    exact List.mem_append_left _ hline
  rw [highlight_eq_highlightFrom table classPrefix (a ++ b), parts]
  have first_eq := highlight_eq_highlightFrom table classPrefix a
  cases first : highlightFrom table classPrefix [] a with
  | error cause =>
    rw [first] at first_eq
    refine ⟨fun failure failed => ?_, fun tags ok => by cases ok⟩
    cases first_eq.symm.trans failed
    rfl
  | ok returned =>
    obtain ⟨tags₁, stack⟩ := returned
    rw [first] at first_eq
    have first_eq : highlight table classPrefix a = .ok tags₁ := first_eq
    refine ⟨fun failure failed => ?_, fun tags ok => ?_⟩
    · cases first_eq.symm.trans failed
    obtain ⟨cache, outcome⟩ := exists_outcome_of_highlightFrom first
    cases second : highlightFrom table classPrefix stack b with
    | error failure => simp [second, bind, Except.bind, TextReport.resultBehind, Except.map] at ok
    | ok returned =>
      obtain ⟨more, stack'⟩ := returned
      have joined : tags₁ ++ more.map (Tag.shift (Text.size a)) = tags := by
        simpa [second, bind, Except.bind, pure, Except.pure, TextReport.resultBehind, Except.map]
          using ok
      obtain ⟨take, drop⟩ := Tag.split_at_offset (offset_lt_size last sound_first first_eq) more
      rw [joined] at take drop
      rw [take]
      exact ⟨first_eq, stack, cache, more, stack', outcome, second, drop⟩

/-- The second line of a string goes on inside of the string. -/
theorem highlight_line_by_line_quoted :
    let a : Text := ['"', 'é', '\n']
    let b : Text := ['é', '"']
    ∃ table tags, Definition.quoting.compile = .ok table ∧
      (∀ line ∈ physicalLines (a ++ b), table.SoundOn line.content) ∧
      highlight table "p-" (a ++ b) = .ok tags ∧
      tags.map Tag.offset = [0, 1, 1, 3, 4, 6, 6, 7] ∧
      highlight table "p-" a = .ok (tags.takeWhile fun t => t.offset < 4) ∧
      ∃ stack cache more stack', (tokenize .cached table {} a).outcome = .ok (stack, cache) ∧
        highlightFrom table "p-" stack b = .ok (more, stack') ∧
        more.map (fun t => 4 + t.offset) = [4, 6, 6, 7] := by
  intro a b
  obtain ⟨table, compiled, sound, _⟩ := Definition.exists_quoting_table
  have sound : ∀ line ∈ physicalLines (a ++ b), table.SoundOn line.content := sound
  obtain ⟨tags, ok, offsets⟩ := Definition.exists_tags compiled "p-" Text.twoQuotedLines
    [0, 1, 1, 3, 4, 6, 6, 7] (by decide +kernel)
  obtain ⟨first, stack, cache, more, stack', outcome, second, rest⟩ :=
    (highlight_line_by_line "p-" (.inl rfl) (by decide) sound).2 tags ok
  refine ⟨table, tags, compiled, sound, ok, offsets, first, stack, cache, more, stack', outcome,
    second, ?_⟩
  have moved := congrArg (List.map Tag.offset) rest
  have left : (tags.dropWhile fun t => t.offset < Text.size a).map Tag.offset = [4, 6, 6, 7] := by
    have behind : (tags.map Tag.offset).dropWhile (fun n => decide (n < 4)) = _ :=
      List.dropWhile_map
    rw [offsets] at behind
    exact behind.symm
  rw [left, List.map_map] at moved
  rw [moved]
  exact List.map_congr_left fun t _ => (Tag.offset_shift 4 t).symm

end Highlighter
