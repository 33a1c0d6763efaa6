import Highlighter.Proofs.Markup.Fragment

/-!
# What merging does to spans

Flat spans that are merged into nested tags become strands: the nested tags in their order and whole
fragments of the spans, where nothing stands before something that it ends behind. Since a fragment
opens and closes at once, the merged tags are as well nested as the tags were. The main result is
`merge_interleaves_fragments`.
-/

namespace Highlighter

/-! ## Strands -/

/-- What merged tags consist of: a nested tag, or both tags of a fragment. -/
inductive Strand where
  | tag (t : Tag)
  | fragment (s : Span)

namespace Strand

/-- The tags of a strand. -/
def tags : Strand → List Tag
  | tag t => [t]
  | fragment s => s.tags

/-- The nested tag. -/
def tag? : Strand → Option Tag
  | tag t => some t
  | fragment _ => none

/-- The fragment. -/
def fragment? : Strand → Option Span
  | tag _ => none
  | fragment s => some s

/-- The first offset of a strand. -/
def first : Strand → Nat
  | tag t => t.offset
  | fragment s => s.start

/-- The last offset of a strand. -/
def last : Strand → Nat
  | tag t => t.offset
  | fragment s => s.stop

/-- A tag is found as itself. -/
@[simp] lemma tag?_tag (t : Tag) : (tag t).tag? = some t := rfl

/-- A fragment is not a tag. -/
@[simp] lemma tag?_fragment (s : Span) : (fragment s).tag? = none := rfl

/-- A tag is not a fragment. -/
@[simp] lemma fragment?_tag (t : Tag) : (tag t).fragment? = none := rfl

/-- A fragment is found as itself. -/
@[simp] lemma fragment?_fragment (s : Span) : (fragment s).fragment? = some s := rfl

/-- Filtering the tags finds those among the strands. -/
lemma mem_filterMap_tag? {strands : List Strand} {t : Tag} :
    t ∈ strands.filterMap tag? ↔ .tag t ∈ strands := by
  simp only [List.mem_filterMap]
  constructor
  · rintro ⟨a, ha, e⟩
    cases a <;> cases e
    exact ha
  · exact fun h => ⟨_, h, rfl⟩

/-- Filtering the fragments finds those among the strands. -/
lemma mem_filterMap_fragment? {strands : List Strand} {s : Span} :
    s ∈ strands.filterMap fragment? ↔ .fragment s ∈ strands := by
  simp only [List.mem_filterMap]
  constructor
  · rintro ⟨a, ha, e⟩
    cases a <;> cases e
    exact ha
  · exact fun h => ⟨_, h, rfl⟩

/-- If all strands are tags, none is left out. -/
@[simp] lemma filterMap_tag?_map (ts : List Tag) : (ts.map tag).filterMap tag? = ts := by
  rw [List.filterMap_map]
  exact List.filterMap_some

/-- If all strands are tags, none is a fragment. -/
@[simp] lemma filterMap_fragment?_map (ts : List Tag) : (ts.map tag).filterMap fragment? = [] := by
  rw [List.filterMap_map, List.filterMap_eq_nil_iff]
  exact fun _ _ => rfl

/-- Strands that are tags stand for themselves. -/
@[simp] lemma flatMap_tags_map (ts : List Tag) : (ts.map tag).flatMap tags = ts := by
  induction ts with
  | nil => rfl
  | cons t ts ih => rw [List.map_cons, List.flatMap_cons, ih]; rfl

/-- Fragments leave as many elements open as before. -/
lemma depthAfter_flatMap_tags (strands : List Strand) (d : Nat) :
    Tag.depthAfter d (strands.flatMap tags) = Tag.depthAfter d (strands.filterMap tag?) := by
  induction strands generalizing d with
  | nil => rfl
  | cons a strands ih =>
    cases a with
    | tag t =>
      have one : (tag t :: strands).filterMap tag? = [t] ++ strands.filterMap tag? := rfl
      rw [List.flatMap_cons, one, Tag.depthAfter_append, Tag.depthAfter_append]
      exact congrArg _ (funext ih)
    | fragment s => exact ih d

/-- The tags of strands ascend if the strands follow one another. -/
lemma pairwise_flatMap_tags {strands : List Strand}
    (ordered : strands.Pairwise fun a b => a.last ≤ b.first)
    (proper : ∀ a ∈ strands, a.first ≤ a.last) :
    (strands.flatMap tags).Pairwise fun s t => s.offset ≤ t.offset := by
  have bounds : ∀ a ∈ strands, ∀ t ∈ a.tags, a.first ≤ t.offset ∧ t.offset ≤ a.last := by
    intro a ha t ht
    have le := proper a ha
    cases a with
    | tag => simp_all [tags, first, last]
    | fragment s =>
      rcases List.mem_pair.1 ht with rfl | rfl
      · exact ⟨Nat.le_refl _, le⟩
      · exact ⟨le, Nat.le_refl _⟩
  refine List.pairwise_flatMap.2 ⟨fun a ha => ?_, ?_⟩
  · cases a with
    | tag => simp [tags]
    | fragment s =>
      have le : s.start ≤ s.stop := proper _ ha
      simpa [tags, Span.tags] using le
  · refine ordered.imp_of_mem fun ha hb le s hs t ht => ?_
    exact (bounds _ ha s hs).2.trans (le.trans (bounds _ hb t ht).1)

end Strand

/-! ## Weaving -/

namespace Span

/-- Strands that a span becomes when it is woven into tags. -/
structure Woven (s : Span) (structural : List Tag) (strands : List Strand) : Prop where
  tags_eq : strands.flatMap Strand.tags =
    .start s.start s.element :: (weave s.element s.stop structural).1.tags
  structural_eq : strands.filterMap Strand.tag? ++ (weave s.element s.stop structural).2
    = structural
  fragments_eq : strands.filterMap Strand.fragment? = s.fragments structural
  within : ∀ a ∈ strands, s.start ≤ a.first ∧ a.last ≤ s.stop
  ordered : strands.Pairwise fun a b => a.last ≤ b.first
  behind : ∀ t ∈ (weave s.element s.stop structural).2, s.stop ≤ t.offset
  cuts_eq : (weave s.element s.stop structural).1.cuts = (s.cuts structural).card

/-- A span that no tag cuts is one strand. -/
lemma Woven.single {s : Span} {structural : List Tag}
    (behind : ∀ t ∈ structural, s.stop ≤ t.offset)
    (e : weave s.element s.stop structural = (⟨[.stop s.stop], 0⟩, structural)) :
    s.Woven structural [.fragment s] where
  tags_eq := by rw [e]; rfl
  structural_eq := by rw [e]; rfl
  fragments_eq := (fragments_eq_singleton (cuts_eq_empty behind)).symm
  within a ha := by
    obtain rfl := List.mem_singleton.1 ha
    exact ⟨Nat.le_refl _, Nat.le_refl _⟩
  ordered := List.pairwise_singleton _ _
  behind := by rwa [e]
  cuts_eq := by rw [e, cuts_eq_empty behind, Finset.card_empty]

/-- A tag inside a span cuts off a strand; the tags at its offset and the rest follow. -/
lemma Woven.cut {tag : Tag} {tags : List Tag} {start stop : Nat} {e : Element}
    {strands : List Strand}
    (sorted : (tag :: tags).Pairwise fun s t => s.offset ≤ t.offset)
    (after : start < tag.offset) (before : tag.offset < stop)
    (rest : Woven ⟨tag.offset, stop, e⟩ (tags.dropWhile fun t => t.offset == tag.offset) strands) :
    Woven ⟨start, stop, e⟩ (tag :: tags)
      (.fragment ⟨start, tag.offset, e⟩ ::
        (tag :: tags.takeWhile fun t => t.offset == tag.offset).map .tag ++ strands) := by
  have step := weave.eq_2 e stop tag tags
  rw [if_pos before] at step
  -- all tags of the middle part stand at the offset of the cut
  have here : ∀ a ∈ (tag :: tags.takeWhile fun t => t.offset == tag.offset).map Strand.tag,
      a.first = tag.offset ∧ a.last = tag.offset := by
    intro a ha
    obtain ⟨t, ht, rfl⟩ := List.mem_map.1 ha
    rcases List.mem_cons.1 ht with rfl | ht
    · exact ⟨rfl, rfl⟩
    · have same : t.offset = tag.offset := by simpa using List.mem_takeWhile_imp ht
      exact ⟨same, same⟩
  constructor
  · rw [List.cons_append, List.flatMap_cons, List.flatMap_append, Strand.flatMap_tags_map,
      rest.tags_eq, step]
    rfl
  · rw [List.cons_append, List.filterMap_cons_none rfl, List.filterMap_append,
      Strand.filterMap_tag?_map, List.append_assoc, step]
    dsimp only
    rw [rest.structural_eq, List.cons_append, List.takeWhile_append_dropWhile]
  · rw [List.cons_append, List.filterMap_cons, List.filterMap_append,
      Strand.filterMap_fragment?_map, List.nil_append, rest.fragments_eq,
      fragments_cons sorted after before]
    rfl
  · intro a ha
    rcases List.mem_append.1 ha with ha | ha
    · rcases List.mem_cons.1 ha with rfl | ha
      · exact ⟨Nat.le_refl _, before.le⟩
      · rw [(here a ha).1, (here a ha).2]
        exact ⟨after.le, before.le⟩
    · exact ⟨after.le.trans (rest.within a ha).1, (rest.within a ha).2⟩
  · refine List.pairwise_append.2 ⟨List.pairwise_cons.2 ⟨fun a ha => ?_, ?_⟩, rest.ordered, ?_⟩
    · exact (here a ha).1.ge
    · refine List.pairwise_of_forall_mem_list fun a ha b hb => ?_
      rw [(here a ha).2, (here b hb).1]
    · intro a ha b hb
      refine Nat.le_trans ?_ (rest.within b hb).1
      rcases List.mem_cons.1 ha with rfl | ha
      · exact Nat.le_refl _
      · exact (here a ha).2.le
  · rw [step]
    exact rest.behind
  · rw [step, cuts_cons sorted after before, Finset.card_insert_of_notMem]
    · exact congrArg (· + 1) rest.cuts_eq
    · exact fun h => Nat.lt_irrefl _ (mem_cuts.1 h).2.1

/-- A span that is woven into ordered tags behind its start becomes strands. -/
lemma exists_woven {structural : List Tag} {s : Span}
    (sorted : structural.Pairwise fun s t => s.offset ≤ t.offset)
    (after : ∀ t ∈ structural, s.start < t.offset) : ∃ strands, s.Woven structural strands := by
  obtain ⟨start, stop, e⟩ := s
  induction structural using weave.induct e stop generalizing start with
  | case1 => exact ⟨_, .single (by simp) (weave.eq_1 e stop)⟩
  | case2 tag tags before ih =>
    obtain ⟨first, rest⟩ := List.pairwise_cons.1 sorted
    have behind := Tag.lt_of_mem_dropWhile rest (p := fun t => t.offset == tag.offset)
      fun t ht ne => Nat.lt_of_le_of_ne (first t ht) fun same => by simp [same] at ne
    obtain ⟨strands, h⟩ := ih (rest.sublist (List.dropWhile_sublist _)) tag.offset behind
    exact ⟨_, h.cut sorted (after tag List.mem_cons_self) before⟩
  | case3 tag tags behind =>
    have first := (List.pairwise_cons.1 sorted).1
    have stop_le : stop ≤ tag.offset := Nat.not_lt.1 behind
    refine ⟨_, .single (fun t ht => ?_) ?_⟩
    · rcases List.mem_cons.1 ht with rfl | ht
      · exact stop_le
      · exact stop_le.trans (first t ht)
    · rw [weave.eq_2, if_neg behind]

/-- Strands that spans become when they are merged into tags. -/
structure Interwoven (structural : List Tag) (spans : List Span) (strands : List Strand) :
    Prop where
  tags_eq : strands.flatMap Strand.tags = (mergeInto structural spans).tags
  structural_eq : strands.filterMap Strand.tag? = structural
  fragments_eq : strands.filterMap Strand.fragment? = spans.flatMap (fragments structural)
  ordered : strands.Pairwise fun a b => a.last ≤ b.first
  cuts_eq : (mergeInto structural spans).cuts = (spans.map fun s => (s.cuts structural).card).sum

/-- A fragment among the strands is one of a span. -/
lemma Interwoven.exists_span {structural : List Tag} {spans : List Span} {strands : List Strand}
    (h : Interwoven structural spans strands) {f : Span} (hf : .fragment f ∈ strands) :
    ∃ s ∈ spans, f ∈ s.fragments structural := by
  rw [← Strand.mem_filterMap_fragment?, h.fragments_eq] at hf
  exact List.mem_flatMap.1 hf

/-- No fragment is empty. -/
lemma Interwoven.lt_of_mem {structural : List Tag} {spans : List Span} {strands : List Strand}
    (h : Interwoven structural spans strands) (flat : Flat spans) {f : Span}
    (hf : .fragment f ∈ strands) : f.start < f.stop := by
  obtain ⟨s, hs, hf⟩ := h.exists_span hf
  exact (mem_fragments (flat.nonempty s hs) hf).2.1

/-- A strand does not end before it starts. -/
lemma Interwoven.first_le_last {structural : List Tag} {spans : List Span} {strands : List Strand}
    (h : Interwoven structural spans strands) (flat : Flat spans) {a : Strand}
    (ha : a ∈ strands) : a.first ≤ a.last := by
  cases a with
  | tag t => exact Nat.le_refl _
  | fragment f => exact (h.lt_of_mem flat ha).le

/-- Strands of spans that start behind an offset, in tags that stand behind it, are behind it. -/
lemma Interwoven.le_first {structural : List Tag} {spans : List Span} {strands : List Strand}
    (h : Interwoven structural spans strands) (flat : Flat spans) {n : Nat}
    (tags : ∀ t ∈ structural, n ≤ t.offset) (starts : ∀ s ∈ spans, n ≤ s.start) :
    ∀ a ∈ strands, n ≤ a.first := by
  intro a ha
  cases a with
  | tag t => exact tags t (h.structural_eq ▸ Strand.mem_filterMap_tag?.2 ha)
  | fragment f =>
    obtain ⟨s, hs, hf⟩ := h.exists_span ha
    exact (starts s hs).trans (mem_fragments (flat.nonempty s hs) hf).2.2.1

/-- The strands of the first span, between the tags before it and the strands of the others. -/
lemma Interwoven.cons {before after : List Tag} {s : Span} {spans : List Span}
    {strands others : List Strand} (flat : Flat (s :: spans))
    (sorted : (before ++ after).Pairwise fun s t => s.offset ≤ t.offset)
    (take : (before ++ after).takeWhile (fun t => t.offset ≤ s.start) = before)
    (drop : (before ++ after).dropWhile (fun t => t.offset ≤ s.start) = after)
    (first : s.Woven after strands)
    (rest : Interwoven (weave s.element s.stop after).2 spans others) :
    Interwoven (before ++ after) (s :: spans) (before.map .tag ++ strands ++ others) := by
  have stop_le : ∀ t ∈ spans, s.stop ≤ t.start := (List.pairwise_cons.1 flat.ordered).1
  have lt : s.start < s.stop := flat.nonempty s List.mem_cons_self
  have le_start : ∀ t ∈ before, t.offset ≤ s.start := fun t ht => by
    rw [← take] at ht
    simpa using List.mem_takeWhile_imp ht
  -- the tags before the first span and inside it cut none of the others
  have passed : ∀ t ∈ before ++ strands.filterMap Strand.tag?, t.offset ≤ s.stop := by
    intro t ht
    rcases List.mem_append.1 ht with ht | ht
    · exact (le_start t ht).trans lt.le
    · exact (first.within _ (Strand.mem_filterMap_tag?.1 ht)).2
  have cuts_others : ∀ t ∈ spans,
      t.cuts (before ++ after) = t.cuts (weave s.element s.stop after).2 := by
    intro t ht
    rw [← first.structural_eq, ← List.append_assoc, first.structural_eq]
    exact cuts_append fun u hu => (passed u hu).trans (stop_le t ht)
  constructor
  · rw [List.flatMap_append, List.flatMap_append, Strand.flatMap_tags_map, first.tags_eq,
      rest.tags_eq, mergeInto.eq_2, take, drop]
  · rw [List.filterMap_append, List.filterMap_append, Strand.filterMap_tag?_map,
      rest.structural_eq, List.append_assoc, first.structural_eq]
  · rw [List.filterMap_append, List.filterMap_append, Strand.filterMap_fragment?_map,
      List.nil_append, first.fragments_eq, rest.fragments_eq, List.flatMap_cons]
    refine congrArg₂ _ (by rw [fragments, fragments, cuts_append le_start]) ?_
    exact List.flatMap_congr fun t ht => by rw [fragments, fragments, cuts_others t ht]
  · refine List.pairwise_append.2 ⟨List.pairwise_append.2 ⟨?_, first.ordered, ?_⟩,
      rest.ordered, ?_⟩
    · exact List.pairwise_map.2 (List.pairwise_append.1 sorted).1
    · intro a ha b hb
      obtain ⟨t, ht, rfl⟩ := List.mem_map.1 ha
      exact (le_start t ht).trans (first.within b hb).1
    · intro a ha b hb
      refine Nat.le_trans ?_ (rest.le_first flat.tail first.behind stop_le b hb)
      rcases List.mem_append.1 ha with ha | ha
      · obtain ⟨t, ht, rfl⟩ := List.mem_map.1 ha
        exact (le_start t ht).trans lt.le
      · exact (first.within a ha).2
  · rw [mergeInto.eq_2, drop, List.map_cons, List.sum_cons, cuts_append le_start]
    refine congrArg₂ _ first.cuts_eq ?_
    rw [rest.cuts_eq]
    exact congrArg _ (List.map_congr_left fun t ht => by rw [cuts_others t ht])

/-- Flat spans that are merged into ordered tags become strands. -/
lemma exists_interwoven {structural : List Tag} {spans : List Span}
    (sorted : structural.Pairwise fun s t => s.offset ≤ t.offset) (flat : Flat spans) :
    ∃ strands, Interwoven structural spans strands := by
  induction spans generalizing structural with
  | nil =>
    refine ⟨structural.map .tag, ?_, ?_, ?_, ?_, rfl⟩
    · exact Strand.flatMap_tags_map structural
    · exact Strand.filterMap_tag?_map structural
    · exact Strand.filterMap_fragment?_map structural
    · exact List.pairwise_map.2 sorted
  | cons s spans ih =>
    generalize take : structural.takeWhile (fun t => t.offset ≤ s.start) = before
    generalize drop : structural.dropWhile (fun t => t.offset ≤ s.start) = after
    obtain rfl : before ++ after = structural := by
      rw [← take, ← drop, List.takeWhile_append_dropWhile]
    have sorted_after := (List.pairwise_append.1 sorted).2.1
    obtain ⟨strands, first⟩ := exists_woven (s := s) sorted_after fun t ht => by
        rw [← drop] at ht
        exact Tag.lt_of_mem_dropWhile sorted (fun t _ fails => by simpa using fails) t ht
    have sorted_rest :
        (weave s.element s.stop after).2.Pairwise fun s t => s.offset ≤ t.offset := by
      rw [← first.structural_eq] at sorted_after
      exact (List.pairwise_append.1 sorted_after).2.1
    obtain ⟨others, rest⟩ := ih sorted_rest flat.tail
    exact ⟨_, .cons flat sorted take drop first rest⟩

/-- Without nested tags, merging returns the tags of the spans. -/
lemma mergeInto_nil (spans : List Span) : (mergeInto [] spans).tags = spans.flatMap tags := by
  induction spans with
  | nil => rfl
  | cons s spans ih =>
    rw [mergeInto.eq_2, List.takeWhile_nil, List.dropWhile_nil, weave.eq_1, ih]
    rfl

end Span

/-- Fragments in nested tags are nested. -/
lemma Span.Interwoven.checkNesting {structural : List Tag} {spans : List Span}
    {strands : List Strand} (h : Span.Interwoven structural spans strands) (flat : Span.Flat spans)
    (nested : checkNesting structural = .ok ()) :
    Highlighter.checkNesting (strands.flatMap Strand.tags) = .ok () := by
  have depth := (checkNesting_eq_ok_iff.1 nested).2
  refine checkNesting_eq_ok_iff.2 ⟨Strand.pairwise_flatMap_tags h.ordered fun a ha => ?_, ?_⟩
  · exact h.first_le_last flat ha
  · rw [Strand.depthAfter_flatMap_tags, h.structural_eq, depth]

/--
A merged tag is one of the nested tags or of a fragment: then it stands at an end of its span or at
a nested tag, and what it starts is the element of the span.
-/
lemma Span.Interwoven.of_mem_tags {structural : List Tag} {spans : List Span}
    {strands : List Strand} (h : Span.Interwoven structural spans strands) (flat : Span.Flat spans)
    {t : Tag} (ht : t ∈ strands.flatMap Strand.tags) :
    t ∈ structural ∨ ∃ s ∈ spans,
      (t.offset = s.start ∨ t.offset = s.stop ∨ ∃ u ∈ structural, u.offset = t.offset) ∧
      ∀ n e, t = .start n e → e = s.element := by
  obtain ⟨a, ha, ht⟩ := List.mem_flatMap.1 ht
  cases a with
  | tag u =>
    obtain rfl := List.mem_singleton.1 ht
    exact .inl (h.structural_eq ▸ Strand.mem_filterMap_tag?.2 ha)
  | fragment f =>
    obtain ⟨s, hs, hf⟩ := h.exists_span ha
    obtain ⟨start, stop⟩ := Span.offsets_of_mem_fragments hf
    refine .inr ⟨s, hs, ?_⟩
    rcases List.mem_pair.1 ht with rfl | rfl
    · refine ⟨start.imp_right .inr, fun n e same => ?_⟩
      cases same
      exact (Span.mem_fragments (flat.nonempty s hs) hf).1
    · exact ⟨.inr stop, nofun⟩

/-- Flat spans can be merged into nested tags, and the checks on the way do not fail. -/
lemma merge_eq_ok {structural : List Tag} {spans : List Span} (flat : Span.Flat spans)
    (nested : checkNesting structural = .ok ()) :
    merge structural (spans.flatMap Span.tags) = .ok (Span.mergeInto structural spans).tags := by
  have read := Span.ofTags_flatMap flat fun s _ => Nat.zero_le s.start
  obtain ⟨strands, h⟩ := Span.exists_interwoven (checkNesting_eq_ok_iff.1 nested).1 flat
  have checked : checkNesting (Span.mergeInto structural spans).tags = .ok () :=
    h.tags_eq ▸ h.checkNesting flat nested
  simp only [merge, read, bind, Except.bind, mergeTags?, pure, Except.pure]
  cases spans with
  | nil => simp [Span.mergeInto]
  | cons s spans =>
    cases structural with
    | nil => simp [Span.mergeInto_nil]
    | cons t structural => simp [checked]

/-- Every fragment has two tags. -/
lemma Strand.length_flatMap_tags (strands : List Strand) :
    (strands.flatMap tags).length =
      (strands.filterMap tag?).length + 2 * (strands.filterMap fragment?).length := by
  induction strands with
  | nil => rfl
  | cons a strands ih =>
    cases a with
    | tag t =>
      rw [List.flatMap_cons, List.length_append, ih]
      simp [tags, List.filterMap_cons]
      omega
    | fragment s =>
      rw [List.flatMap_cons, List.length_append, ih]
      simp [tags, Span.tags, List.filterMap_cons]
      omega

/-- Every cut makes one fragment more. -/
lemma Span.length_flatMap_fragments (structural : List Tag) (spans : List Span) :
    (spans.flatMap (fragments structural)).length =
      spans.length + (spans.map fun s => (s.cuts structural).card).sum := by
  induction spans with
  | nil => rfl
  | cons s spans ih =>
    rw [List.flatMap_cons, List.length_append, ih, length_fragments, List.map_cons, List.sum_cons,
      List.length_cons]
    omega

/--
Merging flat spans into nested tags keeps the nested tags, all and in their order, and puts the
fragments of the spans between them. The fragments of a span are its parts between the offsets of
nested tags strictly inside it; each has the element of the span and covers something. The tags
before a fragment stand at or before its start, and those behind it at or behind its end. Every byte
is covered by the same element as before, and every cut adds two tags.
-/
theorem merge_interleaves_fragments {structural : List Tag} {spans : List Span}
    (nested : checkNesting structural = .ok ()) (flat : Span.Flat spans) :
    ∃ strands : List Strand,
      merge structural (spans.flatMap Span.tags) = .ok (strands.flatMap Strand.tags) ∧
      strands.filterMap Strand.tag? = structural ∧
      strands.filterMap Strand.fragment? = spans.flatMap (Span.fragments structural) ∧
      (∀ s ∈ spans, ∀ f ∈ s.fragments structural, f.element = s.element ∧ f.start < f.stop) ∧
      (∀ before f after, strands = before ++ .fragment f :: after →
        (∀ t, .tag t ∈ before → t.offset ≤ f.start) ∧
        ∀ t, .tag t ∈ after → f.stop ≤ t.offset) ∧
      (∀ b, Span.elementAt (strands.filterMap Strand.fragment?) b = Span.elementAt spans b) ∧
      (strands.flatMap Strand.tags).length =
        structural.length + (spans.flatMap Span.tags).length +
          2 * (spans.map fun s => (s.cuts structural).card).sum := by
  obtain ⟨strands, h⟩ := Span.exists_interwoven (checkNesting_eq_ok_iff.1 nested).1 flat
  refine ⟨strands, ?_, h.structural_eq, h.fragments_eq, ?_, ?_, ?_, ?_⟩
  · rw [h.tags_eq, merge_eq_ok flat nested]
  · intro s hs f hf
    have inside := Span.mem_fragments (flat.nonempty s hs) hf
    exact ⟨inside.1, inside.2.1⟩
  · rintro before f after rfl
    obtain ⟨_, behind, across⟩ := List.pairwise_append.1 h.ordered
    constructor
    · exact fun t ht => across _ ht _ List.mem_cons_self
    · exact fun t ht => (List.pairwise_cons.1 behind).1 _ ht
  · intro b
    rw [h.fragments_eq, Span.elementAt_fragments]
  · have two : (spans.flatMap Span.tags).length = 2 * spans.length := by
      simp [List.length_flatMap, Span.tags, mul_comm]
    rw [Strand.length_flatMap_tags, h.structural_eq, h.fragments_eq,
      Span.length_flatMap_fragments, two]
    omega

/-- A span that an empty element and the end of another one cut, followed at once by a second span
over a whole element: two cuts add four tags. -/
theorem merge_interleaves_fragments_crossing :
    let structural : List Tag :=
      [.start 0 ⟨"b", .empty⟩, .start 2 ⟨"i", .empty⟩, .stop 2, .stop 3,
        .start 5 ⟨"u", .empty⟩, .stop 6]
    let spans : List Span := [⟨1, 5, ⟨"span", .empty⟩⟩, ⟨5, 6, ⟨"a", .empty⟩⟩]
    checkNesting structural = .ok () ∧ Span.Flat spans ∧
      ∃ tags, merge structural (spans.flatMap Span.tags) = .ok tags ∧ tags.length = 14 := by
  intro structural spans
  have nested : checkNesting structural = .ok () := rfl
  have flat : Span.Flat spans := ⟨by simp [spans], by simp [spans]⟩
  obtain ⟨strands, merged, _, _, _, _, _, length⟩ := merge_interleaves_fragments nested flat
  have cuts : (spans.map fun s => (s.cuts structural).card).sum = 2 := by decide
  exact ⟨nested, flat, _, merged, by rw [length, cuts]; rfl⟩

end Highlighter
