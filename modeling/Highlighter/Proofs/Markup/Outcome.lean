import Highlighter.Proofs.Markup.Merge

/-!
# When merging succeeds

Highlight tags are read as spans as long as they are starts with their ends, in order; the first
pair of tags that is not is reported. What is merged into other tags changes neither the depth of
these nor their order, whether they are properly nested or not. So merging finds a defect of nesting
just where there was one before (`merge_outcome`).
-/

namespace Highlighter

/-- The structural tags are among the merged ones, in their order. -/
lemma Strand.sublist_flatMap_tags (strands : List Strand) :
    (strands.filterMap tag?).Sublist (strands.flatMap tags) := by
  induction strands with
  | nil => exact .slnil
  | cons a strands ih =>
    cases a with
    | tag t => exact ih.cons_cons t
    | fragment s => exact (ih.cons _).cons _

namespace Span

/-! ## Reading spans -/

/-- Spans follow one another: none stops before it starts, or starts before the last one stopped. -/
structure Sequence (spans : List Span) : Prop where
  proper : ∀ s ∈ spans, s.start ≤ s.stop
  ordered : spans.IsChain fun s t => s.stop ≤ t.start

/-- Spans follow an offset and one another. -/
def Follows : Nat → List Span → Prop
  | _, [] => True
  | n, s :: spans => n ≤ s.start ∧ s.start ≤ s.stop ∧ Follows s.stop spans

/-- Spans follow an offset if they follow one another and the first one follows it. -/
lemma follows_iff {n : Nat} {spans : List Span} :
    Follows n spans ↔ Sequence spans ∧ ∀ s ∈ spans.head?, n ≤ s.start := by
  induction spans generalizing n with
  | nil => exact ⟨fun _ => ⟨⟨by simp, .nil⟩, by simp⟩, fun _ => trivial⟩
  | cons s spans ih =>
    rw [Follows, ih]
    constructor
    · rintro ⟨le, proper, ⟨others, chain⟩, first⟩
      refine ⟨⟨by simpa using ⟨proper, others⟩, ?_⟩, by simpa using le⟩
      exact List.isChain_cons.2 ⟨first, chain⟩
    · rintro ⟨⟨proper, chain⟩, first⟩
      obtain ⟨next, chain⟩ := List.isChain_cons.1 chain
      refine ⟨first s rfl, proper s List.mem_cons_self, ⟨fun t ht => ?_, chain⟩, next⟩
      exact proper t (List.mem_cons_of_mem _ ht)

/-- Spans that follow one another follow the start of the text. -/
lemma follows_zero_iff {spans : List Span} : Follows 0 spans ↔ Sequence spans := by
  rw [follows_iff]
  exact and_iff_left fun _ _ => Nat.zero_le _

/-- No span that follows an offset can be read from the front of some tags. -/
def Broken (n : Nat) (tags : List Tag) : Prop :=
  ∀ s rest, tags = Span.tags s ++ rest → ¬ (n ≤ s.start ∧ s.start ≤ s.stop)

/-- Where the last span stopped, if spans were read from an offset on. -/
def reached (n : Nat) : List Span → Nat
  | [] => n
  | s :: spans => reached s.stop spans

/-- One more span follows if it starts where the last one stopped or behind. -/
lemma follows_concat {n : Nat} {spans : List Span} {s : Span} :
    Follows n (spans ++ [s]) ↔
      Follows n spans ∧ reached n spans ≤ s.start ∧ s.start ≤ s.stop := by
  induction spans generalizing n with
  | nil => simp [Follows, reached]
  | cons t spans ih => simp [Follows, reached, ih, and_assoc]

/-- Behind spans that follow one another, no other span can be read that follows them. -/
lemma broken_iff {spans : List Span} (follows : Follows 0 spans) {highlight : List Tag} :
    Broken (reached 0 spans) highlight ↔
      ∀ s rest, highlight = tags s ++ rest → ¬ Sequence (spans ++ [s]) := by
  refine forall₃_congr fun s rest _ => not_congr ?_
  rw [← follows_zero_iff, follows_concat]
  exact (and_iff_right follows).symm

/-- Only no spans have no tags. -/
lemma flatMap_tags_eq_nil {spans : List Span} : spans.flatMap tags = [] ↔ spans = [] := by
  cases spans <;> simp [tags]

/-- Spans that follow an offset are read from their tags, and reading goes on behind them. -/
lemma ofTags_append {n : Nat} {spans : List Span} (follows : Follows n spans) (rest : List Tag) :
    ofTags n (spans.flatMap tags ++ rest) = (spans ++ ·) <$> ofTags (reached n spans) rest := by
  induction spans generalizing n with
  | nil => simp [reached]
  | cons s spans ih =>
    obtain ⟨le, proper, follows⟩ := follows
    have read : ofTags n ((s :: spans).flatMap tags ++ rest) =
        (s :: ·) <$> ofTags s.stop (spans.flatMap tags ++ rest) := by
      simp [tags, ofTags, le, proper]
    rw [read, ih follows, reached]
    cases ofTags (reached s.stop spans) rest <;> rfl

/-- Tags from which no span can be read are reported by the offset of the first. -/
lemma ofTags_of_broken {n : Nat} {tag : Tag} {rest : List Tag} (broken : Broken n (tag :: rest)) :
    ofTags n (tag :: rest) = .error (.malformedHighlight tag.offset) := by
  cases tag with
  | stop n => simp [ofTags]
  | start n e =>
    cases rest with
    | nil => simp [ofTags]
    | cons tag rest =>
      cases tag with
      | start k d => simp [ofTags]
      | stop k =>
        have refused := broken ⟨n, k, e⟩ rest rfl
        simp [ofTags, refused]

/-- Reading spans succeeds, or comes to tags from which no span can be read. -/
lemma ofTags_cases (n : Nat) (highlight : List Tag) :
    (∃ spans, Follows n spans ∧ highlight = spans.flatMap tags) ∨
      ∃ spans tag rest, Follows n spans ∧ highlight = spans.flatMap tags ++ tag :: rest ∧
        Broken (reached n spans) (tag :: rest) := by
  fun_induction ofTags n highlight with
  | case1 n => exact .inl ⟨[], trivial, rfl⟩
  | case2 n s e t tags cond ih =>
    rcases ih with ⟨spans, follows, rfl⟩ | ⟨spans, tag, rest, follows, rfl, broken⟩
    · exact .inl ⟨⟨s, t, e⟩ :: spans, ⟨cond.1, cond.2, follows⟩, rfl⟩
    · exact .inr ⟨⟨s, t, e⟩ :: spans, tag, rest, ⟨cond.1, cond.2, follows⟩, rfl, broken⟩
  | case3 n s e t tags cond =>
    refine .inr ⟨[], _, _, trivial, rfl, fun span rest same => ?_⟩
    cases same
    exact cond
  | case4 n tag tags none =>
    refine .inr ⟨[], tag, tags, trivial, rfl, fun span rest same => ?_⟩
    cases same
    exact absurd rfl (none _ _ _ _ rfl)

/-! ## Weaving without order -/

/-- A span that is woven into any tags becomes strands, and the tags stay in their order. -/
lemma exists_strands_weave (e : Element) (start stop : Nat) (structural : List Tag) :
    ∃ strands : List Strand,
      strands.flatMap Strand.tags = .start start e :: (weave e stop structural).1.tags ∧
      strands.filterMap Strand.tag? ++ (weave e stop structural).2 = structural := by
  induction structural using weave.induct e stop generalizing start with
  | case1 =>
    rw [weave.eq_1]
    exact ⟨[.fragment ⟨start, stop, e⟩], rfl, rfl⟩
  | case2 tag tags before ih =>
    obtain ⟨strands, woven, kept⟩ := ih tag.offset
    rw [weave.eq_2, if_pos before]
    refine ⟨.fragment ⟨start, tag.offset, e⟩ ::
      (tag :: tags.takeWhile fun t => t.offset == tag.offset).map .tag ++ strands, ?_, ?_⟩
    · rw [List.cons_append, List.flatMap_cons, List.flatMap_append, Strand.flatMap_tags_map, woven]
      rfl
    · dsimp only
      rw [List.cons_append, List.filterMap_cons_none rfl, List.filterMap_append,
        Strand.filterMap_tag?_map, List.append_assoc, kept, List.cons_append,
        List.takeWhile_append_dropWhile]
  | case3 tag tags behind =>
    rw [weave.eq_2, if_neg behind]
    exact ⟨[.fragment ⟨start, stop, e⟩], rfl, rfl⟩

/-- Spans that are merged into any tags become strands, and the tags stay in their order. -/
lemma exists_strands (structural : List Tag) (spans : List Span) :
    ∃ strands : List Strand, strands.flatMap Strand.tags = (mergeInto structural spans).tags ∧
      strands.filterMap Strand.tag? = structural := by
  induction spans generalizing structural with
  | nil => exact ⟨structural.map .tag, Strand.flatMap_tags_map _, Strand.filterMap_tag?_map _⟩
  | cons s spans ih =>
    obtain ⟨strands, woven, kept⟩ := exists_strands_weave s.element s.start s.stop
      (structural.dropWhile fun t => t.offset ≤ s.start)
    obtain ⟨others, merged, left⟩ := ih (weave s.element s.stop
      (structural.dropWhile fun t => t.offset ≤ s.start)).2
    refine ⟨(structural.takeWhile fun t => t.offset ≤ s.start).map .tag ++ strands ++ others,
      ?_, ?_⟩
    · rw [List.flatMap_append, List.flatMap_append, Strand.flatMap_tags_map, woven, merged,
        mergeInto.eq_2]
    · rw [List.filterMap_append, List.filterMap_append, Strand.filterMap_tag?_map, left,
        List.append_assoc, kept, List.takeWhile_append_dropWhile]

/-! ## Weaving in order -/

/-- A part of ascending tags ascends from any offset that it does not stand before. -/
lemma ascending_of_sublist {n k : Nat} {a b : List Tag} (h : Tag.Ascending n b) (part : a.Sublist b)
    (le : ∀ t ∈ a, k ≤ t.offset) : Tag.Ascending k a :=
  Tag.ascending_iff.2 ⟨le, (Tag.ascending_iff.1 h).2.sublist part⟩

/--
The tags of a span that is woven into ascending ones ascend up to its end, and the tags that remain
do from there on.
-/
lemma ascending_weave {n stop : Nat} {structural : List Tag} (e : Element) (le : n ≤ stop)
    (h : Tag.Ascending n structural) :
    Tag.Ascending n (weave e stop structural).1.tags ∧
      (∀ t ∈ (weave e stop structural).1.tags, t.offset ≤ stop) ∧
      Tag.Ascending stop (weave e stop structural).2 := by
  induction structural using weave.induct e stop generalizing n with
  | case1 =>
    rw [weave.eq_1]
    exact ⟨by simpa using le, by simp, Tag.ascending_nil stop⟩
  | case2 tag tags before ih =>
    obtain ⟨first, rest⟩ := Tag.ascending_cons.1 h
    have from_tag := (Tag.ascending_iff.1 rest).1
    have here : ∀ t ∈ tag :: tags.takeWhile fun t => t.offset == tag.offset,
        t.offset ≤ tag.offset := by
      intro t ht
      rcases List.mem_cons.1 ht with rfl | ht
      · exact Nat.le_refl _
      · have same : t.offset = tag.offset := by simpa using List.mem_takeWhile_imp ht
        exact same.le
    have together : Tag.Ascending tag.offset
        (tag :: tags.takeWhile fun t => t.offset == tag.offset) :=
      Tag.ascending_cons.2 ⟨Nat.le_refl _, ascending_of_sublist rest (List.takeWhile_sublist _)
        fun t ht => from_tag t ((List.takeWhile_sublist _).mem ht)⟩
    obtain ⟨woven, within, remaining⟩ := ih before.le
      (ascending_of_sublist rest (List.dropWhile_sublist _)
        fun t ht => from_tag t ((List.dropWhile_sublist _).mem ht))
    rw [weave.eq_2, if_pos before]
    refine ⟨Tag.ascending_cons.2 ⟨first, ?_⟩, fun t ht => ?_, remaining⟩
    · exact together.append here (Nat.le_refl _) (Tag.ascending_cons.2 ⟨Nat.le_refl _, woven⟩)
    · rcases List.mem_cons.1 ht with rfl | ht
      · exact before.le
      · rcases List.mem_append.1 ht with ht | ht
        · exact (here t ht).trans before.le
        · rcases List.mem_cons.1 ht with rfl | ht
          · exact before.le
          · exact within t ht
  | case3 tag tags behind =>
    obtain ⟨_, rest⟩ := Tag.ascending_cons.1 h
    rw [weave.eq_2, if_neg behind]
    exact ⟨by simpa using le, by simp, Tag.ascending_cons.2 ⟨Nat.not_lt.1 behind, rest⟩⟩

/-- Merging keeps tags in order. -/
lemma ascending_mergeInto {n : Nat} {structural : List Tag} {spans : List Span}
    (h : Tag.Ascending n structural) (follows : Follows n spans) :
    Tag.Ascending n (mergeInto structural spans).tags := by
  induction spans generalizing n structural with
  | nil => exact h
  | cons s spans ih =>
    obtain ⟨le, proper, follows⟩ := follows
    obtain ⟨from_n, sorted⟩ := Tag.ascending_iff.1 h
    have before := ascending_of_sublist h
      (List.takeWhile_sublist fun t => decide (t.offset ≤ s.start))
      fun t ht => from_n t ((List.takeWhile_sublist _).mem ht)
    have after := ascending_of_sublist h
      (List.dropWhile_sublist fun t => decide (t.offset ≤ s.start))
      fun t ht => (Tag.lt_of_mem_dropWhile sorted (fun t _ fails => by simpa using fails) t ht).le
    obtain ⟨woven, within, remaining⟩ := ascending_weave s.element proper after
    rw [mergeInto.eq_2]
    dsimp only
    rw [List.append_assoc]
    refine before.append (fun t ht => by simpa using List.mem_takeWhile_imp ht) le ?_
    refine Tag.ascending_cons.2 ⟨Nat.le_refl _, ?_⟩
    exact woven.append within proper (ih remaining follows)

/-- Merged tags are as well nested as the tags that spans are merged into. -/
lemma checkNesting_mergeInto_iff {structural : List Tag} {spans : List Span}
    (follows : Follows 0 spans) :
    checkNesting (mergeInto structural spans).tags = .ok () ↔ checkNesting structural = .ok () := by
  obtain ⟨strands, merged, kept⟩ := exists_strands structural spans
  have depth :
      Tag.depthAfter 0 (mergeInto structural spans).tags = Tag.depthAfter 0 structural := by
    rw [← merged, Strand.depthAfter_flatMap_tags, kept]
  rw [checkNesting, checkNesting, checkNestingFrom_eq_ok_iff, checkNestingFrom_eq_ok_iff, depth]
  refine and_congr_left fun _ => ⟨fun ascending => ?_, fun ascending => ?_⟩
  · -- the tags are among the merged ones, in the same order
    have part : structural.Sublist (mergeInto structural spans).tags := by
      rw [← merged, ← kept]
      exact Strand.sublist_flatMap_tags strands
    exact ascending_of_sublist ascending part fun _ _ => Nat.zero_le _
  · exact ascending_mergeInto ascending follows

end Span

/-! ## Merging -/

/-- Tags from which no span can be read are refused, whatever could be read before them. -/
lemma merge_of_broken (structural : List Tag) {spans : List Span} {tag : Tag} {rest : List Tag}
    (follows : Span.Follows 0 spans)
    (broken : Span.Broken (Span.reached 0 spans) (tag :: rest)) :
    merge structural (spans.flatMap Span.tags ++ tag :: rest) =
      .error (.malformedHighlight tag.offset) := by
  rw [merge, Span.ofTags_append follows, Span.ofTags_of_broken broken]
  rfl

/-- Spans that follow one another are merged, and then the nesting is checked if there is any. -/
lemma merge_of_follows {structural : List Tag} {spans : List Span}
    (follows : Span.Follows 0 spans) :
    merge structural (spans.flatMap Span.tags) =
      if spans = [] then .ok structural
      else if structural = [] then .ok (spans.flatMap Span.tags)
      else
        match checkNesting (Span.mergeInto structural spans).tags with
        | .ok () => .ok (Span.mergeInto structural spans).tags
        | .error defect => .error (.nesting defect) := by
  have read : Span.ofTags 0 (spans.flatMap Span.tags) = .ok spans := by
    simpa [Span.ofTags] using Span.ofTags_append follows []
  simp only [merge, read, bind, Except.bind, mergeTags?, pure, Except.pure]
  cases spans with
  | nil => simp
  | cons s spans =>
    cases structural with
    | nil => simp
    | cons t structural => rfl

/-- The tags of spans that follow one another are not refused. -/
lemma merge_ne_malformed {structural : List Tag} {spans : List Span}
    (follows : Span.Follows 0 spans) (n : Nat) :
    merge structural (spans.flatMap Span.tags) ≠ .error (.malformedHighlight n) := by
  rw [merge_of_follows follows]
  repeat' split
  all_goals simp

/-- Tags are refused as malformed by the offset of the first tag from which no span can be read. -/
lemma merge_eq_malformed_iff {structural highlight : List Tag} {n : Nat} :
    merge structural highlight = .error (.malformedHighlight n) ↔
      ∃ spans tag rest, Span.Follows 0 spans ∧ highlight = spans.flatMap Span.tags ++ tag :: rest ∧
        tag.offset = n ∧ Span.Broken (Span.reached 0 spans) (tag :: rest) := by
  constructor
  · intro refused
    rcases Span.ofTags_cases 0 highlight with
      ⟨spans, follows, rfl⟩ | ⟨spans, tag, rest, follows, rfl, broken⟩
    · exact absurd refused (merge_ne_malformed follows n)
    · rw [merge_of_broken structural follows broken] at refused
      cases refused
      exact ⟨spans, tag, rest, follows, rfl, rfl, broken⟩
  · rintro ⟨spans, tag, rest, follows, rfl, rfl, broken⟩
    exact merge_of_broken structural follows broken

/-- Where both sides have tags, merging succeeds just if those that were there are nested. -/
lemma merge_of_nonempty {structural : List Tag} {spans : List Span}
    (follows : Span.Follows 0 spans) (some_spans : spans ≠ []) (some_tags : structural ≠ []) :
    (∃ merged, checkNesting structural = .ok () ∧ checkNesting merged = .ok () ∧
        merge structural (spans.flatMap Span.tags) = .ok merged) ∨
      ∃ defect, checkNesting structural ≠ .ok () ∧
        merge structural (spans.flatMap Span.tags) = .error (.nesting defect) := by
  have same : checkNesting (Span.mergeInto structural spans).tags = .ok () ↔
      checkNesting structural = .ok () := Span.checkNesting_mergeInto_iff follows
  rw [merge_of_follows follows, if_neg some_spans, if_neg some_tags]
  cases checked : checkNesting (Span.mergeInto structural spans).tags with
  | ok => exact .inl ⟨_, same.1 checked, checked, rfl⟩
  | error defect =>
    refine .inr ⟨defect, fun nested => ?_, rfl⟩
    cases checked.symm.trans (same.2 nested)

/--
How merging ends. Highlight tags are refused if they are not the tags of spans that follow one
another, and what is reported is the offset of the first tag that comes behind all such spans.
Otherwise merging returns one side if the other is empty. If both have tags, it succeeds just if the
structural tags are properly nested, and then the merged tags are; if they are not, a defect of
nesting is reported.
-/
theorem merge_outcome (structural highlight : List Tag) :
    (∀ n, merge structural highlight = .error (.malformedHighlight n) ↔
      ∃ spans tag rest, Span.Sequence spans ∧ highlight = spans.flatMap Span.tags ++ tag :: rest ∧
        tag.offset = n ∧
        ∀ s more, tag :: rest = Span.tags s ++ more → ¬ Span.Sequence (spans ++ [s])) ∧
    ((∃ n, merge structural highlight = .error (.malformedHighlight n)) ↔
      ¬ ∃ spans, Span.Sequence spans ∧ highlight = spans.flatMap Span.tags) ∧
    ((∃ spans, Span.Sequence spans ∧ highlight = spans.flatMap Span.tags) →
      (highlight = [] → merge structural highlight = .ok structural) ∧
      (structural = [] → merge structural highlight = .ok highlight) ∧
      (highlight ≠ [] → structural ≠ [] →
        ((∃ merged, merge structural highlight = .ok merged) ↔ checkNesting structural = .ok ()) ∧
        (∀ merged, merge structural highlight = .ok merged → checkNesting merged = .ok ()) ∧
        (checkNesting structural ≠ .ok () →
          ∃ defect, merge structural highlight = .error (.nesting defect)))) := by
  refine ⟨fun n => ?_, ⟨?_, fun unread => ?_⟩, ?_⟩
  · rw [merge_eq_malformed_iff]
    refine exists₃_congr fun spans tag rest => ?_
    rw [Span.follows_zero_iff]
    refine and_congr_right fun sequence => ?_
    rw [Span.broken_iff (Span.follows_zero_iff.2 sequence)]
  · rintro ⟨n, refused⟩ ⟨spans, sequence, rfl⟩
    exact merge_ne_malformed (Span.follows_zero_iff.2 sequence) n refused
  · rcases Span.ofTags_cases 0 highlight with
      ⟨spans, follows, read⟩ | ⟨spans, tag, rest, follows, rfl, broken⟩
    · exact absurd ⟨spans, Span.follows_zero_iff.1 follows, read⟩ unread
    · exact ⟨tag.offset, merge_of_broken structural follows broken⟩
  · rintro ⟨spans, sequence, rfl⟩
    have follows := Span.follows_zero_iff.2 sequence
    refine ⟨fun none => ?_, fun none => ?_, fun some_spans some_tags => ?_⟩
    · rw [merge_of_follows follows, if_pos (Span.flatMap_tags_eq_nil.1 none)]
    · rw [merge_of_follows follows, if_pos none]
      split <;> simp_all
    · rcases merge_of_nonempty follows (fun none => some_spans (none ▸ rfl)) some_tags with
        ⟨merged, nested, checked, result⟩ | ⟨defect, defective, result⟩
      · rw [result]
        refine ⟨⟨fun _ => nested, fun _ => ⟨merged, rfl⟩⟩, ?_, ?_⟩
        · rintro _ ⟨⟩
          exact checked
        · exact fun defective => absurd nested defective
      · rw [result]
        refine ⟨⟨?_, fun nested => absurd nested defective⟩, ?_, fun _ => ⟨defect, rfl⟩⟩
        · rintro ⟨_, ⟨⟩⟩
        · rintro _ ⟨⟩

/-- An end without a start is found inside of a span that it cuts; a start with its end is not. -/
theorem merge_outcome_inside_span :
    let highlight : List Tag :=
      [.start 0 ⟨"span", .empty⟩, .stop 5, .start 5 ⟨"a", .empty⟩, .stop 5]
    (∃ defect, merge [.stop 2, .start 3 ⟨"b", .empty⟩] highlight = .error (.nesting defect)) ∧
      ∃ merged, merge [.start 2 ⟨"b", .empty⟩, .stop 3] highlight = .ok merged ∧
        checkNesting merged = .ok () := by
  intro highlight
  have listed : ∃ spans, Span.Sequence spans ∧ highlight = spans.flatMap Span.tags :=
    ⟨[⟨0, 5, ⟨"span", .empty⟩⟩, ⟨5, 5, ⟨"a", .empty⟩⟩], ⟨by simp, by simp⟩, rfl⟩
  constructor
  · obtain ⟨_, _, outcome⟩ := merge_outcome [.stop 2, .start 3 ⟨"b", .empty⟩] highlight
    exact ((outcome listed).2.2 nofun nofun).2.2 (by decide)
  · obtain ⟨_, _, outcome⟩ := merge_outcome [.start 2 ⟨"b", .empty⟩, .stop 3] highlight
    obtain ⟨succeeds, checked, _⟩ := (outcome listed).2.2 nofun nofun
    obtain ⟨merged, result⟩ := succeeds.2 rfl
    exact ⟨merged, result, checked merged result⟩

end Highlighter
