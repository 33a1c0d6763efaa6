import Highlighter.Proofs.Source

/-!
# Highlighting an element again and again

The highlighted children of an element have the text of the old ones, so that highlighting them
again finds the same spans. The tags of the fragments that are there already stand at the ends of
fragments only, so they cut no span at a new place, and the new fragments lie directly inside the
old ones: after `k` rounds every fragment is `k` elements deep. That the merged tags are those is
shown from the order of the strands, which leaves no choice where a fragment goes. The main result
is `highlightTimes_deepens`.
-/

namespace Highlighter

namespace Strand

/-- The tags of a strand whose fragment is `k` elements deep. -/
def nested (k : Nat) : Strand → List Tag
  | tag t => [t]
  | fragment s => List.replicate k (.start s.start s.element) ++ List.replicate k (.stop s.stop)

/-- A fragment inside of `k` elements, whose tags are tags like all others. -/
def deepened (k : Nat) : Strand → List Strand
  | tag t => [tag t]
  | fragment s =>
    (List.replicate k (Tag.start s.start s.element)).map tag ++
      fragment s :: (List.replicate k (Tag.stop s.stop)).map tag

/-- Nested once, a strand has its own tags. -/
lemma nested_one (a : Strand) : a.nested 1 = a.tags := by
  cases a <;> rfl

/-- Not nested at all, the fragments have no tags. -/
lemma flatMap_nested_zero (strands : List Strand) :
    strands.flatMap (nested 0) = strands.filterMap tag? := by
  induction strands with
  | nil => rfl
  | cons a strands ih =>
    rw [List.flatMap_cons, ih]
    cases a with
    | tag t => rfl
    | fragment s => rfl

/-- The tags around the fragments are tags like the others. -/
lemma filterMap_tag?_deepened (k : Nat) (strands : List Strand) :
    (strands.flatMap (deepened k)).filterMap tag? = strands.flatMap (nested k) := by
  rw [List.filterMap_flatMap]
  refine List.flatMap_congr fun a _ => ?_
  cases a with
  | tag t => rfl
  | fragment s =>
    rw [deepened, List.filterMap_append, filterMap_tag?_map, List.filterMap_cons_none rfl,
      filterMap_tag?_map, nested]

/-- Deepening leaves the fragments as they are. -/
lemma filterMap_fragment?_deepened (k : Nat) (strands : List Strand) :
    (strands.flatMap (deepened k)).filterMap fragment? = strands.filterMap fragment? := by
  induction strands with
  | nil => rfl
  | cons a strands ih =>
    rw [List.flatMap_cons, List.filterMap_append, ih]
    cases a with
    | tag t => rfl
    | fragment s =>
      rw [deepened, List.filterMap_append, filterMap_fragment?_map, List.filterMap_cons,
        filterMap_fragment?_map]
      rfl

/-- A deepened fragment is nested once more. -/
lemma flatMap_tags_deepened (k : Nat) (strands : List Strand) :
    (strands.flatMap (deepened k)).flatMap tags = strands.flatMap (nested (k + 1)) := by
  rw [List.flatMap_assoc]
  refine List.flatMap_congr fun a _ => ?_
  cases a with
  | tag t => rfl
  | fragment s =>
    rw [deepened, List.flatMap_append, flatMap_tags_map, List.flatMap_cons, flatMap_tags_map,
      nested, List.replicate_succ', List.replicate_succ, List.append_assoc]
    rfl

/-- All tags of a strand stand at its ends. -/
lemma offsets_of_mem_nested {k : Nat} {a : Strand} {t : Tag} (h : t ∈ a.nested k) :
    t.offset = a.first ∨ t.offset = a.last := by
  cases a with
  | tag u =>
    obtain rfl := List.mem_singleton.1 h
    exact .inl rfl
  | fragment s =>
    rcases List.mem_append.1 h with h | h
    · exact .inl (congrArg Tag.offset (List.eq_of_mem_replicate h))
    · exact .inr (congrArg Tag.offset (List.eq_of_mem_replicate h))

/-! ## The order of strands -/

/-- The tags of strands in order are in order. -/
lemma pairwise_filterMap_tag? {strands : List Strand}
    (ordered : strands.Pairwise fun a b => a.last ≤ b.first) :
    (strands.filterMap tag?).Pairwise fun s t => s.offset ≤ t.offset := by
  refine List.pairwise_filterMap.2 (ordered.imp fun {a b} le s hs t ht => ?_)
  cases a with
  | fragment => cases hs
  | tag =>
    cases b with
    | fragment => cases ht
    | tag =>
      cases hs
      cases ht
      exact le

/-- Strands that follow one another are known from their tags and their fragments. -/
lemma eq_of_filterMap_eq {a b : List Strand} (ordered : a.Pairwise fun x y => x.last ≤ y.first)
    (ordered' : b.Pairwise fun x y => x.last ≤ y.first)
    (nonempty : ∀ f, fragment f ∈ a → f.start < f.stop)
    (tags : a.filterMap tag? = b.filterMap tag?)
    (fragments : a.filterMap fragment? = b.filterMap fragment?) : a = b := by
  -- a tag and a fragment cannot each stand before the other
  have apart : ∀ {t : Tag} {f : Span} {a b : List Strand},
      (tag t :: a).Pairwise (fun x y => x.last ≤ y.first) → fragment f ∈ a →
      (fragment f :: b).Pairwise (fun x y => x.last ≤ y.first) → tag t ∈ b →
      ¬ f.start < f.stop := by
    intro t f a b before mem behind mem'
    have le : t.offset ≤ f.start := (List.pairwise_cons.1 before).1 _ mem
    have ge : f.stop ≤ t.offset := (List.pairwise_cons.1 behind).1 _ mem'
    exact Nat.not_lt.2 (ge.trans le)
  induction a generalizing b with
  | nil =>
    cases b with
    | nil => rfl
    | cons y b =>
      cases y with
      | tag t => cases tags
      | fragment f => cases fragments
  | cons x a ih =>
    cases b with
    | nil =>
      cases x with
      | tag t => cases tags
      | fragment f => cases fragments
    | cons y b =>
      have rest : ∀ f, fragment f ∈ a → f.start < f.stop :=
        fun f mem => nonempty f (List.mem_cons_of_mem x mem)
      have ih := ih (List.pairwise_cons.1 ordered).2 (List.pairwise_cons.1 ordered').2 rest
      cases x with
      | tag t =>
        cases y with
        | tag u =>
          obtain ⟨rfl, others⟩ := List.cons.inj tags
          rw [ih others fragments]
        | fragment f =>
          have mem : fragment f ∈ a :=
            mem_filterMap_fragment?.1 (fragments ▸ List.mem_cons_self (a := f))
          have mem' : tag t ∈ b := mem_filterMap_tag?.1 (tags ▸ List.mem_cons_self (a := t))
          exact absurd (rest f mem) (apart ordered mem ordered' mem')
      | fragment f =>
        cases y with
        | tag t =>
          have mem : fragment f ∈ b :=
            mem_filterMap_fragment?.1 (fragments ▸ List.mem_cons_self (a := f))
          have mem' : tag t ∈ a := mem_filterMap_tag?.1 (tags ▸ List.mem_cons_self (a := t))
          exact absurd (nonempty f List.mem_cons_self) (apart ordered' mem ordered mem')
        | fragment g =>
          obtain ⟨rfl, others⟩ := List.cons.inj fragments
          rw [ih tags others]

/-- The tags around a fragment stand at its ends, so that the order stays. -/
lemma pairwise_deepened {strands : List Strand} (k : Nat)
    (ordered : strands.Pairwise fun a b => a.last ≤ b.first)
    (proper : ∀ a ∈ strands, a.first ≤ a.last) :
    (strands.flatMap (deepened k)).Pairwise fun a b => a.last ≤ b.first := by
  have bounds : ∀ a ∈ strands, ∀ b ∈ a.deepened k, a.first ≤ b.first ∧ b.last ≤ a.last := by
    intro a ha b hb
    have le := proper a ha
    cases a with
    | tag t =>
      obtain rfl := List.mem_singleton.1 hb
      exact ⟨Nat.le_refl _, Nat.le_refl _⟩
    | fragment s =>
      simp only [deepened, List.map_replicate, List.mem_append, List.mem_cons,
        List.mem_replicate] at hb
      rcases hb with ⟨_, rfl⟩ | rfl | ⟨_, rfl⟩
      · exact ⟨Nat.le_refl _, le⟩
      · exact ⟨Nat.le_refl _, Nat.le_refl _⟩
      · exact ⟨le, Nat.le_refl _⟩
  refine List.pairwise_flatMap.2 ⟨fun a ha => ?_, ?_⟩
  · have le := proper a ha
    cases a with
    | tag t => exact List.pairwise_singleton _ _
    | fragment s =>
      have le : s.start ≤ s.stop := le
      simp only [deepened, List.map_replicate, List.pairwise_append, List.pairwise_cons,
        List.pairwise_replicate, List.mem_replicate, List.mem_cons]
      refine ⟨.inr (Nat.le_refl _), ⟨?_, .inr (Nat.le_refl _)⟩, ?_⟩
      · rintro _ ⟨_, rfl⟩
        exact Nat.le_refl _
      · rintro _ ⟨_, rfl⟩ _ (rfl | ⟨_, rfl⟩)
        · exact Nat.le_refl _
        · exact le
  · refine ordered.imp_of_mem fun ha hb le x hx y hy => ?_
    exact (bounds _ ha x hx).2.trans (le.trans (bounds _ hb y hy).1)

end Strand

namespace Span

/-- The ends of a span are not inside of any span. -/
lemma Flat.not_inside {spans : List Span} (flat : Flat spans) {s t : Span} (hs : s ∈ spans)
    (ht : t ∈ spans) :
    ¬ (s.start < t.start ∧ t.start < s.stop) ∧ ¬ (s.start < t.stop ∧ t.stop < s.stop) := by
  have symm : Std.Symm fun s t : Span => s.stop ≤ t.start ∨ t.stop ≤ s.start :=
    ⟨fun _ _ => Or.symm⟩
  have ordered : spans.Pairwise fun s t => s.stop ≤ t.start ∨ t.stop ≤ s.start :=
    flat.ordered.imp Or.inl
  have lt := flat.nonempty t ht
  by_cases same : s = t
  · subst same
    omega
  · have apart := ordered.forall hs ht same
    omega

namespace Interwoven

variable {structural : List Tag} {spans : List Span} {strands : List Strand}
  (h : Interwoven structural spans strands) (flat : Flat spans)
include h flat

/-- The tags of fragments cut spans only where they are cut already. -/
lemma cuts_nested (k : Nat) {s : Span} (hs : s ∈ spans) :
    s.cuts (strands.flatMap (Strand.nested k)) = s.cuts structural := by
  ext n
  rw [mem_cuts, mem_cuts]
  refine and_congr_left fun inside => ⟨?_, ?_⟩
  · rintro ⟨t, ht, rfl⟩
    obtain ⟨a, ha, ht⟩ := List.mem_flatMap.1 ht
    have ends := Strand.offsets_of_mem_nested ht
    cases a with
    | tag u =>
      refine ⟨u, h.structural_eq ▸ Strand.mem_filterMap_tag?.2 ha, ?_⟩
      exact (ends.elim id id).symm
    | fragment f =>
      obtain ⟨s', hs', hf⟩ := h.exists_span ha
      obtain ⟨start, stop⟩ := offsets_of_mem_fragments hf
      obtain ⟨outside, outside'⟩ := flat.not_inside hs hs'
      rcases ends with e | e
      · rcases start with first | ⟨u, hu, there⟩
        · exact absurd (e.trans first ▸ inside) outside
        · exact ⟨u, hu, there.trans e.symm⟩
      · rcases stop with last | ⟨u, hu, there⟩
        · exact absurd (e.trans last ▸ inside) outside'
        · exact ⟨u, hu, there.trans e.symm⟩
  · rintro ⟨t, ht, rfl⟩
    rw [← h.structural_eq] at ht
    have mem := Strand.mem_filterMap_tag?.1 ht
    exact ⟨t, List.mem_flatMap.2 ⟨_, mem, List.mem_singleton_self t⟩, rfl⟩

/-- However deep the fragments are, the spans are cut where they were. -/
lemma fragments_nested (k : Nat) {s : Span} (hs : s ∈ spans) :
    s.fragments (strands.flatMap (Strand.nested k)) = s.fragments structural := by
  rw [fragments, fragments, h.cuts_nested flat k hs]

/-- Merged into the tags of deep fragments, the spans become the same fragments right inside. -/
lemma deepen (k : Nat) :
    Interwoven (strands.flatMap (Strand.nested k)) spans (strands.flatMap (Strand.deepened k)) := by
  have tags := Strand.filterMap_tag?_deepened k strands
  have ordered := Strand.pairwise_deepened k h.ordered fun a ha => h.first_le_last flat ha
  have sorted := Strand.pairwise_filterMap_tag? ordered
  rw [tags] at sorted
  obtain ⟨others, h'⟩ := exists_interwoven sorted flat
  have same : others = strands.flatMap (Strand.deepened k) := by
    refine Strand.eq_of_filterMap_eq h'.ordered ordered (fun f hf => h'.lt_of_mem flat hf) ?_ ?_
    · rw [h'.structural_eq, tags]
    · rw [h'.fragments_eq, Strand.filterMap_fragment?_deepened, h.fragments_eq]
      exact List.flatMap_congr fun s hs => h.fragments_nested flat k hs
  exact same ▸ h'

end Interwoven

end Span

namespace ElementNode

/-- Highlights an element in place a number of times, as long as there is no error. -/
def highlightTimes (e : ElementNode) (table : Table) (options : Options) :
    Nat → Except SourceError ElementNode
  | 0 => .ok e
  | k + 1 => do ((← e.highlightTimes table options k).highlightInPlace table options).highlighted

variable {e : ElementNode} {table : Table} {options : Options} {text : Text}
  {structural : List Tag} {spans : List Span} {strands : List Strand}

/-- One round makes all fragments deeper by one. -/
lemma highlightInPlace_nested (h : Span.Interwoven structural spans strands)
    (placed : Span.Placed text spans)
    (found : highlight table options.classPrefix text = .ok (spans.flatMap Span.tags)) {k : Nat}
    (view : Node.flatten options.lineBreak e.children
      = ⟨text, strands.flatMap (Strand.nested k)⟩) :
    ∃ after, (e.highlightInPlace table options).highlighted = .ok after ∧
      ∀ br, Node.flatten br after.children = ⟨text, strands.flatMap (Strand.nested (k + 1))⟩ := by
  have wf := Node.wellFormed_flatten options.lineBreak e.children
  rw [view] at wf
  obtain ⟨merged, nodes, merge, built, view'⟩ := exists_reconcile wf placed
  have deeper : merged = strands.flatMap (Strand.nested (k + 1)) := by
    rw [merge_eq_ok placed.flat wf.checkNesting] at merge
    rw [← Strand.flatMap_tags_deepened, (h.deepen placed.flat k).tags_eq]
    exact (Except.ok.inj merge).symm
  rw [deeper] at view'
  obtain ⟨result, element⟩ := highlightInPlace_of_ok (e := e) (by rw [view]; exact found)
    (by rw [view]; exact built)
  refine ⟨⟨e.element.addClass (options.classPrefix ++ sourceCodeClass), nodes⟩, ?_, view'⟩
  rw [Outcome.highlighted, result, element]
  rfl

/-- Highlighting once more nests all fragments once more. -/
lemma exists_highlightTimes (h : Span.Interwoven structural spans strands)
    (placed : Span.Placed text spans)
    (found : highlight table options.classPrefix text = .ok (spans.flatMap Span.tags))
    (view : Node.flatten options.lineBreak e.children = ⟨text, structural⟩) (k : Nat) :
    ∃ after, e.highlightTimes table options (k + 1) = .ok after ∧
      ∀ br, Node.flatten br after.children = ⟨text, strands.flatMap (Strand.nested (k + 1))⟩ := by
  induction k with
  | zero =>
    rw [← h.structural_eq, ← Strand.flatMap_nested_zero] at view
    exact highlightInPlace_nested h placed found view
  | succ k ih =>
    obtain ⟨before, made, view⟩ := ih
    rw [highlightTimes, made]
    exact highlightInPlace_nested h placed found (view options.lineBreak)

end ElementNode

/--
Once an element could be highlighted, it can be highlighted again any number of times. There are
strands, made of the tags of its old children and of the fragments into which these cut the spans
that highlighting finds, such that the children after the first round have the tags of the strands,
and after `k` rounds those tags with each tag of a fragment repeated `k` times. The text stays the
same, and the tags of any round cut the spans into the same fragments as the old tags did.
-/
theorem highlightTimes_deepens (e : ElementNode) (table : Table) (options : Options)
    (sound : ∀ line ∈ physicalLines (Node.flatten options.lineBreak e.children).text,
      table.SoundOn line.content)
    (once : (e.highlightInPlace table options).result = .ok ()) :
    let before := Node.flatten options.lineBreak e.children
    ∃ (spans : List Span) (strands : List Strand),
      highlight table options.classPrefix before.text = .ok (spans.flatMap Span.tags) ∧
      strands.filterMap Strand.tag? = before.tags ∧
      strands.filterMap Strand.fragment? = spans.flatMap (Span.fragments before.tags) ∧
      (∀ br, Node.flatten br (e.highlightInPlace table options).element.children
        = ⟨before.text, strands.flatMap Strand.tags⟩) ∧
      ∀ k ≥ 1, ∃ after, e.highlightTimes table options k = .ok after ∧
        (∀ br, Node.flatten br after.children
          = ⟨before.text, strands.flatMap (Strand.nested k)⟩) ∧
        ∀ s ∈ spans, s.fragments (strands.flatMap (Strand.nested k)) = s.fragments before.tags := by
  intro before
  have wf : before.WellFormed 0 := Node.wellFormed_flatten options.lineBreak e.children
  cases found : highlight table options.classPrefix before.text with
  | error cause =>
    have failed := (ElementNode.highlightInPlace_of_error found).1
    cases failed.symm.trans once
  | ok tags =>
    obtain rfl := highlight_eq_ok found
    have placed : Span.Placed before.text
        ((tokenize .cached table {} before.text).spans options.classPrefix) := placed_spans sound
    obtain ⟨strands, h⟩ := Span.exists_interwoven (checkNesting_eq_ok_iff.1 wf.checkNesting).1
      placed.flat
    have rounds := ElementNode.exists_highlightTimes h placed found rfl
    refine ⟨_, strands, rfl, h.structural_eq, h.fragments_eq, ?_, fun k one => ?_⟩
    · obtain ⟨after, made, view⟩ := rounds 0
      have made : (e.highlightInPlace table options).highlighted = .ok after := made
      rw [Outcome.highlighted, once] at made
      obtain rfl := Except.ok.inj made
      simpa only [Nat.zero_add, funext Strand.nested_one] using view
    · obtain ⟨k, rfl⟩ := Nat.exists_eq_add_of_le' one
      obtain ⟨after, made, view⟩ := rounds k
      exact ⟨after, made, view, fun s hs => h.fragments_nested placed.flat (k + 1) hs⟩

/-- An element with a letter of a string in an inner element. -/
def ElementNode.quotedLetters : ElementNode :=
  ⟨⟨"pre", .empty⟩, [.text ['"', 'x'], .element ⟨"b", .empty⟩ [.text ['y']], .text ['"']]⟩

/-- The inner element cuts the string into three fragments, and so it does three times. -/
theorem highlightTimes_deepens_letters :
    ∃ table, Definition.quoting.compile = .ok table ∧
      (∀ line ∈ physicalLines (Node.flatten .lf ElementNode.quotedLetters.children).text,
        table.SoundOn line.content) ∧
      (ElementNode.quotedLetters.highlightInPlace table {}).result = .ok () ∧
      ∃ (strands : List Strand) (after : ElementNode),
        (strands.flatMap Strand.tags).map Tag.offset = [0, 2, 2, 2, 3, 3, 3, 4] ∧
        ElementNode.quotedLetters.highlightTimes table {} 3 = .ok after ∧
        Node.flatten .lf after.children
          = ⟨['"', 'x', 'y', '"'], strands.flatMap (Strand.nested 3)⟩ := by
  obtain ⟨table, compiled⟩ := Definition.exists_table (d := .quoting) (by decide +kernel)
  have sound : ∀ line ∈ physicalLines (Node.flatten .lf ElementNode.quotedLetters.children).text,
      table.SoundOn line.content :=
    Table.soundOn_of_checks (Definition.of_compile compiled (by decide +kernel))
  have first := Definition.of_compile compiled
    (p := fun t => (ElementNode.quotedLetters.highlightInPlace t {}).highlighted.toOption.any
      fun after =>
        (Node.flatten .lf after.children).tags.map Tag.offset == [0, 2, 2, 2, 3, 3, 3, 4])
    (by decide +kernel)
  have once : (ElementNode.quotedLetters.highlightInPlace table {}).result = .ok () := by
    cases result : (ElementNode.quotedLetters.highlightInPlace table {}).result with
    | ok => rfl
    | error cause => simp [Outcome.highlighted, result, Except.map, Except.toOption] at first
  obtain ⟨spans, strands, _, _, _, view, rounds⟩ :=
    highlightTimes_deepens ElementNode.quotedLetters table {} sound once
  obtain ⟨after, made, view', _⟩ := rounds 3 (by decide)
  refine ⟨table, compiled, sound, once, strands, after, ?_, made, view' .lf⟩
  simpa [Outcome.highlighted, once, Except.map, Except.toOption, view .lf] using first

end Highlighter
