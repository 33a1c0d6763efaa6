import Mathlib
import Highlighter.Markup.Reconcile
import Highlighter.Proofs.Markup.Nesting

/-!
# Spans and their fragments

Flat spans each cover something and do not overlap. The tags that stand strictly inside a span cut
it into fragments (`Span.fragments`): there is one more of them than there are cuts, each has the
element of the span, and together they cover what the span covers.
-/

namespace Highlighter

namespace Tag

/-- Behind the tags that a test lets through, all tags of an ordered list stand behind an offset, if
those that fail the test do. -/
lemma lt_of_mem_dropWhile {n : Nat} {p : Tag → Bool} {tags : List Tag}
    (sorted : tags.Pairwise fun s t => s.offset ≤ t.offset)
    (fails : ∀ t ∈ tags, p t = false → n < t.offset) : ∀ t ∈ tags.dropWhile p, n < t.offset := by
  induction tags with
  | nil => simp
  | cons s tags ih =>
    obtain ⟨first, sorted⟩ := List.pairwise_cons.1 sorted
    intro t ht
    rw [List.dropWhile_cons] at ht
    split at ht
    · exact ih sorted (fun t ht => fails t (List.mem_cons_of_mem _ ht)) t ht
    · next hs =>
      have lt : n < s.offset := fails s List.mem_cons_self (by simpa using hs)
      rcases List.mem_cons.1 ht with rfl | ht
      · exact lt
      · exact lt.trans_le (first t ht)

end Tag

namespace Span

/-- The two tags of a span. -/
def tags (s : Span) : List Tag := [.start s.start s.element, .stop s.stop]

/-- Spans are flat if each covers something and stops before the next one starts. -/
structure Flat (spans : List Span) : Prop where
  nonempty : ∀ s ∈ spans, s.start < s.stop
  ordered : spans.Pairwise fun s t => s.stop ≤ t.start

/-- The parts of a span between offsets inside it. -/
def cutAt (s : Span) : List Nat → List Span
  | [] => [s]
  | n :: ns => ⟨s.start, n, s.element⟩ :: cutAt ⟨n, s.stop, s.element⟩ ns

/-- The offsets strictly inside a span at which tags stand. -/
def cuts (structural : List Tag) (s : Span) : Finset Nat :=
  (structural.map Tag.offset).toFinset.filter fun n => s.start < n ∧ n < s.stop

/-- The parts of a span between the tags inside it. -/
def fragments (structural : List Tag) (s : Span) : List Span := s.cutAt (s.cuts structural).sort

/-- The element that covers a byte. -/
def elementAt (spans : List Span) (b : Nat) : Option Element :=
  (spans.find? fun s => s.start ≤ b ∧ b < s.stop).map Span.element

/-- Spans stay flat without the first. -/
lemma Flat.tail {s : Span} {spans : List Span} (h : Flat (s :: spans)) : Flat spans :=
  ⟨fun t ht => h.nonempty t (List.mem_cons_of_mem _ ht), (List.pairwise_cons.1 h.ordered).2⟩

/-- Flat tags are read as the spans that they come from. -/
lemma ofTags_flatMap {spans : List Span} (flat : Flat spans) {n : Nat}
    (le : ∀ s ∈ spans, n ≤ s.start) : ofTags n (spans.flatMap tags) = .ok spans := by
  induction spans generalizing n with
  | nil => rfl
  | cons s spans ih =>
    have before := (List.pairwise_cons.1 flat.ordered).1
    have rest : ofTags s.stop (spans.flatMap tags) = .ok spans := ih flat.tail before
    have bounds : n ≤ s.start ∧ s.start ≤ s.stop :=
      ⟨le s List.mem_cons_self, (flat.nonempty s List.mem_cons_self).le⟩
    simp [tags, ofTags, bounds, rest]

/-! ## Fragments -/

/-- A span is cut where a tag stands inside it. -/
lemma mem_cuts {structural : List Tag} {s : Span} {n : Nat} :
    n ∈ s.cuts structural ↔ (∃ t ∈ structural, t.offset = n) ∧ s.start < n ∧ n < s.stop := by
  simp [cuts]

/-- Tags that do not stand behind the start of a span do not cut it. -/
lemma cuts_append {a b : List Tag} {s : Span} (h : ∀ t ∈ a, t.offset ≤ s.start) :
    s.cuts (a ++ b) = s.cuts b := by
  ext n
  simp only [mem_cuts, List.mem_append]
  constructor
  · rintro ⟨⟨t, ht | ht, rfl⟩, lt⟩
    · exact absurd lt.1 (Nat.not_lt.2 (h t ht))
    · exact ⟨⟨t, ht, rfl⟩, lt⟩
  · rintro ⟨⟨t, ht, rfl⟩, lt⟩
    exact ⟨⟨t, .inr ht, rfl⟩, lt⟩

/-- Tags that stand behind a span do not cut it. -/
lemma cuts_eq_empty {structural : List Tag} {s : Span} (h : ∀ t ∈ structural, s.stop ≤ t.offset) :
    s.cuts structural = ∅ := by
  refine Finset.eq_empty_of_forall_notMem fun n hn => ?_
  obtain ⟨⟨t, ht, rfl⟩, lt⟩ := mem_cuts.1 hn
  exact absurd lt.2 (Nat.not_lt.2 (h t ht))

/-- A span that is not cut is its only fragment. -/
lemma fragments_eq_singleton {structural : List Tag} {s : Span} (h : s.cuts structural = ∅) :
    s.fragments structural = [s] := by
  rw [fragments, h, Finset.sort_empty, cutAt]

/-- The first tag inside a span cuts off the first fragment, with all tags at its offset. -/
lemma cuts_cons {tag : Tag} {tags : List Tag} {s : Span}
    (sorted : (tag :: tags).Pairwise fun s t => s.offset ≤ t.offset)
    (after : s.start < tag.offset) (before : tag.offset < s.stop) :
    s.cuts (tag :: tags) = insert tag.offset
      (cuts (tags.dropWhile fun t => t.offset == tag.offset)
        ⟨tag.offset, s.stop, s.element⟩) := by
  obtain ⟨first, sorted⟩ := List.pairwise_cons.1 sorted
  have behind := Tag.lt_of_mem_dropWhile (p := fun t => t.offset == tag.offset) sorted
    (n := tag.offset) fun t ht ne =>
      Nat.lt_of_le_of_ne (first t ht) fun e => by simp [e] at ne
  ext n
  simp only [mem_cuts, Finset.mem_insert, List.mem_cons]
  constructor
  · rintro ⟨⟨t, rfl | ht, rfl⟩, lt⟩
    · exact .inl rfl
    · -- a tag behind the first stands at the same offset or is left over
      rw [← List.takeWhile_append_dropWhile (p := fun t => t.offset == tag.offset)
        (l := tags)] at ht
      rcases List.mem_append.1 ht with ht | ht
      · exact .inl (by simpa using List.mem_takeWhile_imp ht)
      · exact .inr ⟨⟨t, ht, rfl⟩, behind t ht, lt.2⟩
  · rintro (rfl | ⟨⟨t, ht, rfl⟩, lt⟩)
    · exact ⟨⟨tag, .inl rfl, rfl⟩, after, before⟩
    · exact ⟨⟨t, .inr ((List.dropWhile_sublist _).mem ht), rfl⟩, after.trans lt.1, lt.2⟩

/-- The first fragment ends at the first tag inside the span. -/
lemma fragments_cons {tag : Tag} {tags : List Tag} {s : Span}
    (sorted : (tag :: tags).Pairwise fun s t => s.offset ≤ t.offset)
    (after : s.start < tag.offset) (before : tag.offset < s.stop) :
    s.fragments (tag :: tags) = ⟨s.start, tag.offset, s.element⟩ ::
      fragments (tags.dropWhile fun t => t.offset == tag.offset)
        ⟨tag.offset, s.stop, s.element⟩ := by
  rw [fragments, cuts_cons sorted after before, Finset.sort_insert, cutAt, fragments]
  · exact fun n hn => (mem_cuts.1 hn).2.1.le
  · exact fun h => Nat.lt_irrefl _ (mem_cuts.1 h).2.1

/-- Parts of a span have its element, some bytes, and lie within it. -/
lemma mem_cutAt {s f : Span} {ns : List Nat} (sorted : (s.start :: ns).Pairwise (· < ·))
    (lt : ∀ n ∈ s.start :: ns, n < s.stop) (h : f ∈ s.cutAt ns) :
    f.element = s.element ∧ f.start < f.stop ∧ s.start ≤ f.start ∧ f.stop ≤ s.stop := by
  induction ns generalizing s with
  | nil =>
    obtain rfl := List.mem_singleton.1 h
    exact ⟨rfl, lt _ List.mem_cons_self, Nat.le_refl _, Nat.le_refl _⟩
  | cons n ns ih =>
    obtain ⟨first, sorted⟩ := List.pairwise_cons.1 sorted
    have start_lt : s.start < n := first n List.mem_cons_self
    have lt_stop : n < s.stop := lt n (by simp)
    rcases List.mem_cons.1 h with rfl | h
    · exact ⟨rfl, start_lt, Nat.le_refl _, lt_stop.le⟩
    · have rest := ih (s := ⟨n, s.stop, s.element⟩) sorted
        (fun k hk => lt k (List.mem_cons_of_mem _ hk)) h
      exact ⟨rest.1, rest.2.1, start_lt.le.trans rest.2.2.1, rest.2.2.2⟩

/-- Fragments of a span have its element, some bytes, and lie within it. -/
lemma mem_fragments {structural : List Tag} {s f : Span} (lt : s.start < s.stop)
    (h : f ∈ s.fragments structural) :
    f.element = s.element ∧ f.start < f.stop ∧ s.start ≤ f.start ∧ f.stop ≤ s.stop := by
  refine mem_cutAt (List.pairwise_cons.2 ⟨fun n hn => ?_, ?_⟩) (fun n hn => ?_) h
  · exact (mem_cuts.1 ((Finset.mem_sort _).1 hn)).2.1
  · exact (Finset.sortedLT_sort _).pairwise
  · rcases List.mem_cons.1 hn with rfl | hn
    · exact lt
    · exact (mem_cuts.1 ((Finset.mem_sort _).1 hn)).2.2

/-- Parts of a span start and stop where it does or where it was cut. -/
lemma offsets_of_mem_cutAt {s f : Span} {ns : List Nat} (h : f ∈ s.cutAt ns) :
    f.start ∈ s.start :: ns ∧ f.stop ∈ s.stop :: ns := by
  induction ns generalizing s with
  | nil =>
    obtain rfl := List.mem_singleton.1 h
    exact ⟨List.mem_cons_self, List.mem_cons_self⟩
  | cons n ns ih =>
    rcases List.mem_cons.1 h with rfl | h
    · exact ⟨List.mem_cons_self, by simp⟩
    · obtain ⟨start, stop⟩ := ih h
      refine ⟨List.mem_cons_of_mem _ start, ?_⟩
      rcases List.mem_cons.1 stop with stop | stop
      · exact List.mem_cons.2 (.inl stop)
      · exact List.mem_cons_of_mem _ (List.mem_cons_of_mem _ stop)

/-- Fragments of a span start and stop where it does or at a tag. -/
lemma offsets_of_mem_fragments {structural : List Tag} {s f : Span}
    (h : f ∈ s.fragments structural) :
    (f.start = s.start ∨ ∃ t ∈ structural, t.offset = f.start) ∧
      (f.stop = s.stop ∨ ∃ t ∈ structural, t.offset = f.stop) := by
  have at_tag : ∀ n ∈ (s.cuts structural).sort, ∃ t ∈ structural, t.offset = n :=
    fun n hn => (mem_cuts.1 ((Finset.mem_sort _).1 hn)).1
  obtain ⟨start, stop⟩ := offsets_of_mem_cutAt h
  exact ⟨(List.mem_cons.1 start).imp_right (at_tag _), (List.mem_cons.1 stop).imp_right (at_tag _)⟩

/-- There is one fragment more than there are cuts. -/
lemma length_fragments (structural : List Tag) (s : Span) :
    (s.fragments structural).length = (s.cuts structural).card + 1 := by
  have length_cutAt : ∀ (ns : List Nat) (s : Span), (s.cutAt ns).length = ns.length + 1 := by
    intro ns
    induction ns with
    | nil => intro s; rfl
    | cons n ns ih => intro s; simp [cutAt, ih]
  rw [fragments, length_cutAt, Finset.length_sort]

/-- A byte is covered by the first span, or else by the others. -/
lemma elementAt_cons (s : Span) (spans : List Span) (b : Nat) :
    elementAt (s :: spans) b =
      if s.start ≤ b ∧ b < s.stop then some s.element else elementAt spans b := by
  simp only [elementAt, List.find?_cons]
  split <;> simp_all

/-- The parts of a span cover what the span covers, with its element. -/
lemma elementAt_cutAt {s : Span} {ns : List Nat} {spans : List Span} {b : Nat}
    (sorted : (s.start :: ns).Pairwise (· < ·)) (lt : ∀ n ∈ ns, n < s.stop) :
    elementAt (s.cutAt ns ++ spans) b = elementAt (s :: spans) b := by
  induction ns generalizing s with
  | nil => rfl
  | cons n ns ih =>
    obtain ⟨first, sorted⟩ := List.pairwise_cons.1 sorted
    have start_lt : s.start < n := first n List.mem_cons_self
    have lt_stop : n < s.stop := lt n List.mem_cons_self
    have rest := ih (s := ⟨n, s.stop, s.element⟩) sorted
      (fun k hk => lt k (List.mem_cons_of_mem _ hk))
    rw [elementAt_cons] at rest ⊢
    rw [cutAt, List.cons_append, elementAt_cons, rest]
    -- bytes before the first cut lie in the first part, all others are left to the rest
    by_cases before : s.start ≤ b ∧ b < n
    · have inside : s.start ≤ b ∧ b < s.stop := by omega
      rw [if_pos before, if_pos inside]
    · have same : (n ≤ b ∧ b < s.stop) ↔ (s.start ≤ b ∧ b < s.stop) := by omega
      simp only [if_neg before, same]

/-- Every byte is covered by the same element before and after cutting. -/
lemma elementAt_fragments {structural : List Tag} {spans : List Span} (b : Nat) :
    elementAt (spans.flatMap (fragments structural)) b = elementAt spans b := by
  induction spans with
  | nil => rfl
  | cons s spans ih =>
    rw [List.flatMap_cons, fragments, elementAt_cutAt]
    · rw [elementAt_cons, elementAt_cons, ih]
    · refine List.pairwise_cons.2 ⟨fun n hn => ?_, (Finset.sortedLT_sort _).pairwise⟩
      exact (mem_cuts.1 ((Finset.mem_sort _).1 hn)).2.1
    · exact fun n hn => (mem_cuts.1 ((Finset.mem_sort _).1 hn)).2.2

end Span

end Highlighter
