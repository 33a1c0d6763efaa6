import Highlighter.Proofs.Markup.Rebuild

/-!
# The first defect of tags

Checking the nesting of tags counts the open elements, and rebuilding nodes keeps them on a stack
with what was built so far. Both pass over tags as long as these ascend and every end has a start
(`Tag.Scan`), and what they do then depends only on where this has led and on the tag that comes
next. So they find the same defect first. An offset that is no boundary stops rebuilding only, and
only if nothing else has stopped it before.
-/

namespace Highlighter

/-- What lies between the text that was read and a boundary can be split off the rest. -/
lemma Text.IsBoundary.exists_chunk {read rest : Text} {n k : Nat}
    (h : Text.IsBoundary (read ++ rest) k) (reached : Text.size read = n) (le : n ≤ k) :
    ∃ chunk rest', rest = chunk ++ rest' ∧ n + Text.size chunk = k := by
  subst reached
  obtain ⟨chunk, rest', e, size⟩ := Text.isBoundary_iff.1 (h.drop le)
  exact ⟨chunk, rest', e, by omega⟩

section

variable {size n k : Nat} {chunk rest : Text} {current : List Node}
  {outer : List (Element × List Node)} {tags : List Tag}

/-- A start behind some text opens an element behind it. -/
lemma rebuildFrom_start (reached : n + Text.size chunk = k) {e : Element} :
    rebuildFrom size n (chunk ++ rest) current outer (.start k e :: tags)
      = rebuildFrom size k rest [] ((e, Node.addText chunk current) :: outer) tags := by
  subst reached
  rw [rebuildFrom.eq_def]
  simp

/-- An end behind some text closes the innermost element. -/
lemma rebuildFrom_stop (reached : n + Text.size chunk = k) {e : Element} {before : List Node} :
    rebuildFrom size n (chunk ++ rest) current ((e, before) :: outer) (.stop k :: tags)
      = rebuildFrom size k rest (.element e (Node.addText chunk current).reverse :: before) outer
          tags := by
  subst reached
  rw [rebuildFrom.eq_def]
  simp

/-- An end behind some text with no element open is reported. -/
lemma rebuildFrom_dangling (reached : n + Text.size chunk = k) :
    rebuildFrom size n (chunk ++ rest) current [] (.stop k :: tags)
      = .error (.danglingEndTag k) := by
  subst reached
  rw [rebuildFrom.eq_def]
  simp

/-- A tag before the place that was reached is refused by its offset. -/
lemma rebuildFrom_outOfOrder {tag : Tag} (lt : tag.offset < n) :
    rebuildFrom size n rest current outer (tag :: tags)
      = .error (.nesting (.outOfOrder tag.offset n)) := by
  rw [rebuildFrom.eq_def]
  simp [lt]

/-- An offset that is no boundary is reported, whatever the tag is. -/
lemma rebuildFrom_outOfBounds {read : Text} {tag : Tag} (reached : Text.size read = n)
    (le : n ≤ tag.offset) (outside : ¬ Text.IsBoundary (read ++ rest) tag.offset) :
    rebuildFrom size n rest current outer (tag :: tags)
      = .error (.tagOutOfBounds tag.offset size) := by
  subst reached
  have uncut : Text.splitAt? rest (tag.offset - Text.size read) = none := by
    refine Option.not_isSome_iff_eq_none.1 fun cut => outside ?_
    have moved := Text.IsBoundary.append (t := rest) cut read []
    rwa [List.append_nil, Nat.add_sub_cancel' le] at moved
  rw [rebuildFrom.eq_def]
  simp [Nat.not_lt.2 le, uncut]

end

namespace Tag

/--
Tags that are passed over without a defect: from an offset and the elements open there (the
innermost first) to the last offset and the elements that are open behind them.
-/
inductive Scan : Nat → List Element → List Tag → Nat → List Element → Prop where
  | nil {n : Nat} {s : List Element} : Scan n s [] n s
  | start {n k m : Nat} {e : Element} {s t : List Element} {tags : List Tag} :
    n ≤ k →
    Scan k (e :: s) tags m t →
    Scan n s (.start k e :: tags) m t
  | stop {n k m : Nat} {e : Element} {s t : List Element} {tags : List Tag} :
    n ≤ k →
    Scan k s tags m t →
    Scan n (e :: s) (.stop k :: tags) m t

/-- A tag that is a defect behind an offset, with some elements open. -/
inductive Fault (n : Nat) (s : List Element) : Tag → Prop where
  | outOfOrder {tag : Tag} : tag.offset < n → Fault n s tag
  | danglingEnd {k : Nat} : n ≤ k → s = [] → Fault n s (.stop k)

/-- Tags are passed over without a defect, or up to a tag that is one. -/
lemma scan_cases (n : Nat) (s : List Element) (tags : List Tag) :
    (∃ m t, Scan n s tags m t) ∨
      ∃ passed tag rest m t, tags = passed ++ tag :: rest ∧ Scan n s passed m t ∧
        Fault m t tag := by
  induction tags generalizing n s with
  | nil => exact .inl ⟨n, s, .nil⟩
  | cons tag tags ih =>
    rcases Nat.lt_or_ge tag.offset n with lt | le
    · exact .inr ⟨[], tag, tags, n, s, rfl, .nil, .outOfOrder lt⟩
    · cases tag with
      | start k e =>
        rcases ih k (e :: s) with ⟨m, t, scan⟩ | ⟨passed, tag, rest, m, t, rfl, scan, fault⟩
        · exact .inl ⟨m, t, .start le scan⟩
        · exact .inr ⟨_ :: passed, tag, rest, m, t, rfl, .start le scan, fault⟩
      | stop k =>
        cases s with
        | nil => exact .inr ⟨[], .stop k, tags, n, [], rfl, .nil, .danglingEnd le rfl⟩
        | cons e s =>
          rcases ih k s with ⟨m, t, scan⟩ | ⟨passed, tag, rest, m, t, rfl, scan, fault⟩
          · exact .inl ⟨m, t, .stop le scan⟩
          · exact .inr ⟨_ :: passed, tag, rest, m, t, rfl, .stop le scan, fault⟩

namespace Scan

variable {n m : Nat} {s t : List Element} {tags : List Tag}

/-- Passing over tags leaves as many elements open as counting them does. -/
lemma depthAfter_eq (scan : Scan n s tags m t) : depthAfter s.length tags = some t.length := by
  induction scan with
  | nil => exact depthAfter_nil _
  | start _ _ ih => rw [depthAfter_start]; exact ih
  | stop _ _ ih => rw [List.length_cons, depthAfter_stop]; exact ih

/-- A tag may follow if it does not stand before the last offset. -/
lemma ascending_concat (scan : Scan n s tags m t) (tag : Tag) :
    Ascending n (tags ++ [tag]) ↔ m ≤ tag.offset := by
  induction scan with
  | nil => simp
  | start le _ ih => rw [List.cons_append, ascending_cons]; exact (and_iff_right le).trans ih
  | stop le _ ih => rw [List.cons_append, ascending_cons]; exact (and_iff_right le).trans ih

/-- Tags that are passed over leave the check of nesting to the tags behind them. -/
lemma checkNestingFrom_append (scan : Scan n s tags m t) (more : List Tag) :
    checkNestingFrom n s.length (tags ++ more) = checkNestingFrom m t.length more := by
  induction scan with
  | nil => rfl
  | @start n k m e s t tags le scan ih =>
    rw [List.cons_append, checkNestingFrom.eq_def]
    dsimp only
    rw [offset_start, if_neg (Nat.not_lt.2 le)]
    exact ih
  | @stop n k m e s t tags le scan ih =>
    rw [List.cons_append, checkNestingFrom.eq_def]
    dsimp only
    rw [offset_stop, if_neg (Nat.not_lt.2 le)]
    exact ih

/--
Tags on boundaries that are passed over leave rebuilding to the tags behind them, with the text cut
at the last offset and the same elements open.
-/
lemma rebuildFrom_append (scan : Scan n s tags m t) (read rest : Text) (current : List Node)
    (outer : List (Element × List Node)) (reached : Text.size read = n)
    (frames : outer.map Prod.fst = s)
    (boundary : ∀ tag ∈ tags, Text.IsBoundary (read ++ rest) tag.offset) :
    ∃ read' rest' current' outer', read' ++ rest' = read ++ rest ∧ Text.size read' = m ∧
      outer'.map Prod.fst = t ∧ ∀ size more,
        rebuildFrom size n rest current outer (tags ++ more)
          = rebuildFrom size m rest' current' outer' more := by
  induction scan generalizing read rest current outer with
  | nil => exact ⟨read, rest, current, outer, rfl, reached, frames, fun _ _ => rfl⟩
  | @start n k m e s t tags le scan ih =>
    obtain ⟨here, later⟩ := List.forall_mem_cons.1 boundary
    obtain ⟨chunk, rest, rfl, to_tag⟩ := here.exists_chunk (k := k) reached le
    obtain ⟨read', rest', current', outer', whole, reached', frames', same⟩ :=
      ih (read ++ chunk) rest [] ((e, Node.addText chunk current) :: outer)
        (by rw [Text.size_append, reached, to_tag]) (by rw [List.map_cons, frames])
        (by rwa [List.append_assoc])
    refine ⟨read', rest', current', outer', by rw [whole, List.append_assoc], reached', frames',
      fun size more => ?_⟩
    rw [List.cons_append, rebuildFrom_start to_tag, same]
  | @stop n k m e s t tags le scan ih =>
    obtain ⟨here, later⟩ := List.forall_mem_cons.1 boundary
    obtain ⟨chunk, rest, rfl, to_tag⟩ := here.exists_chunk (k := k) reached le
    obtain ⟨⟨d, before⟩, outer, rfl, -, frames⟩ := List.map_eq_cons_iff.1 frames
    obtain ⟨read', rest', current', outer', whole, reached', frames', same⟩ :=
      ih (read ++ chunk) rest (.element d (Node.addText chunk current).reverse :: before) outer
        (by rw [Text.size_append, reached, to_tag]) frames (by rwa [List.append_assoc])
    refine ⟨read', rest', current', outer', by rw [whole, List.append_assoc], reached', frames',
      fun size more => ?_⟩
    rw [List.cons_append, rebuildFrom_stop to_tag, same]

/-- The innermost open element behind tags was opened by one of them, which is followed by tags that
are closed in themselves, or it was open before. -/
lemma innermost {e : Element} (scan : Scan n s tags m (e :: t)) :
    (∃ before k after, tags = before ++ .start k e :: after ∧ depthAfter 0 after = some 0) ∨
      ∃ closed, s = closed ++ e :: t ∧ depthAfter closed.length tags = some 0 := by
  generalize opened : e :: t = u at scan ⊢
  induction scan with
  | nil => exact .inr ⟨[], rfl, depthAfter_nil 0⟩
  | @start n k m d s u tags le scan ih =>
    rcases ih opened with ⟨before, j, after, rfl, closed⟩ | ⟨closed, split, depth⟩
    · exact .inl ⟨_ :: before, j, after, rfl, closed⟩
    · cases closed with
      | nil =>
        obtain ⟨rfl, -⟩ := List.cons_eq_cons.1 (split.trans opened.symm)
        exact .inl ⟨[], k, tags, rfl, depth⟩
      | cons d' closed =>
        cases split
        exact .inr ⟨closed, rfl, by rwa [depthAfter_start]⟩
  | @stop n k m d s u tags le scan ih =>
    rcases ih opened with ⟨before, j, after, rfl, closed⟩ | ⟨closed, rfl, depth⟩
    · exact .inl ⟨_ :: before, j, after, rfl, closed⟩
    · exact .inr ⟨d :: closed, rfl, by rwa [List.length_cons, depthAfter_stop]⟩

end Scan

/-! ## Starts without an end -/

/--
One of the tags is the end of a start right before them all: what stands between the two is closed
in itself.
-/
def HasEnd (tags : List Tag) : Prop :=
  ∃ inner n rest, tags = inner ++ .stop n :: rest ∧ depthAfter 0 inner = some 0

/-- The last start that no end closes is one of the element. -/
def LastOpen (tags : List Tag) (e : Element) : Prop :=
  ∃ before n after, tags = before ++ .start n e :: after ∧ ¬ HasEnd after ∧
    ∀ inner k d rest, after = inner ++ .start k d :: rest → HasEnd rest

/-- Tags whose ends all have a start among them do not end what stands before. -/
lemma not_hasEnd {d : Nat} {tags : List Tag} (depth : depthAfter 0 tags = some d) :
    ¬ HasEnd tags := by
  rintro ⟨inner, n, rest, rfl, closed⟩
  rw [depthAfter_append, closed] at depth
  cases depth

/-- Where the depth falls to zero, a start has its end in which `c` others are open around it. -/
lemma exists_end {c d : Nat} {tags : List Tag} (depth : depthAfter (d + 1 + c) tags = some 0) :
    ∃ inner n rest, tags = inner ++ .stop n :: rest ∧ depthAfter c inner = some 0 := by
  induction tags generalizing c with
  | nil => simp at depth
  | cons tag tags ih =>
    cases tag with
    | start k e =>
      obtain ⟨inner, n, rest, rfl, closed⟩ := ih (c := c + 1) depth
      exact ⟨.start k e :: inner, n, rest, rfl, by rwa [depthAfter_start]⟩
    | stop k =>
      cases c with
      | zero => exact ⟨[], k, tags, rfl, depthAfter_nil 0⟩
      | succ c =>
        obtain ⟨inner, n, rest, rfl, closed⟩ := ih (c := c) depth
        exact ⟨.stop k :: inner, n, rest, rfl, by rwa [depthAfter_stop]⟩

/-- A start is the last one without an end if all tags behind it are closed in themselves. -/
lemma lastOpen_of_closed {before after : List Tag} {n : Nat} {e : Element}
    (closed : depthAfter 0 after = some 0) : LastOpen (before ++ .start n e :: after) e := by
  refine ⟨before, n, after, rfl, not_hasEnd closed, ?_⟩
  rintro inner k d rest rfl
  rw [depthAfter_append] at closed
  obtain ⟨c, _, closed⟩ := Option.bind_eq_some_iff.1 closed
  rw [depthAfter_start] at closed
  exact exists_end (c := 0) closed

/-- There is only one last start without an end. -/
lemma LastOpen.unique {tags : List Tag} {e d : Element} (he : LastOpen tags e)
    (hd : LastOpen tags d) : e = d := by
  obtain ⟨before, n, after, rfl, unended, ended⟩ := he
  obtain ⟨before', n', after', same, unended', ended'⟩ := hd
  -- of two such starts the first would have an end, because it stands before the second
  rcases List.append_eq_append_iff.1 same with ⟨x, rfl, split⟩ | ⟨x, rfl, split⟩
  · cases x with
    | nil =>
      cases split
      rfl
    | cons tag x =>
      obtain ⟨rfl, rfl⟩ := List.cons_eq_cons.1 split
      exact absurd (ended x n' d after' rfl) unended'
  · cases x with
    | nil =>
      cases split
      rfl
    | cons tag x =>
      obtain ⟨rfl, rfl⟩ := List.cons_eq_cons.1 split
      exact absurd (ended' x n e after rfl) unended

end Tag

/-! ## Both answers -/

/-- Answers of the check of nesting and of rebuilding that say the same about some tags. -/
inductive Agree (tags : List Tag) :
    Except NestingDefect Unit → Except ReconcileFailure (List Node) → Prop where
  | nested {nodes : List Node} : Agree tags (.ok ()) (.ok nodes)
  | outOfOrder {n previous : Nat} :
    Agree tags (.error (.outOfOrder n previous)) (.error (.nesting (.outOfOrder n previous)))
  | danglingEnd {n : Nat} : Agree tags (.error (.danglingEnd n)) (.error (.danglingEndTag n))
  | unclosed {count : Nat} {e : Element} :
    Tag.LastOpen tags e →
    Agree tags (.error (.unclosed count)) (.error (.unclosedElement e.name))

/-- Answers that report the same tag as out of order, or as an end without a start. -/
inductive SameFault : Except NestingDefect Unit → Except ReconcileFailure (List Node) → Prop where
  | outOfOrder {n previous : Nat} :
    SameFault (.error (.outOfOrder n previous)) (.error (.nesting (.outOfOrder n previous)))
  | danglingEnd {n : Nat} : SameFault (.error (.danglingEnd n)) (.error (.danglingEndTag n))

/-- Checks that find the same fault agree. -/
lemma SameFault.agree {checked : Except NestingDefect Unit}
    {built : Except ReconcileFailure (List Node)} (same : SameFault checked built)
    (tags : List Tag) : Agree tags checked built := by
  cases same with
  | outOfOrder => exact .outOfOrder
  | danglingEnd => exact .danglingEnd

namespace Tag.Scan

variable {m : Nat} {t : List Element} {tags : List Tag} {text : Text}

/-- Rebuilding from the start of a text comes past tags on boundaries that are passed over. -/
lemma rebuild_append (scan : Scan 0 [] tags m t)
    (boundary : ∀ tag ∈ tags, Text.IsBoundary text tag.offset) :
    ∃ read rest current outer, read ++ rest = text ∧ Text.size read = m ∧
      outer.map Prod.fst = t ∧ ∀ more,
        rebuild (tags ++ more) text
          = rebuildFrom (Text.size text) m rest current outer more := by
  obtain ⟨read, rest, current, outer, whole, reached, frames, same⟩ :=
    scan.rebuildFrom_append [] text [] [] rfl rfl boundary
  exact ⟨read, rest, current, outer, whole, reached, frames, same _⟩

/-- Where no tag is a defect, both answers depend on the elements that are open in the end. -/
lemma agree (scan : Scan 0 [] tags m t)
    (boundary : ∀ tag ∈ tags, Text.IsBoundary text tag.offset) :
    Agree tags (checkNesting tags) (rebuild tags text) := by
  obtain ⟨read, rest, current, outer, _, _, frames, same⟩ := scan.rebuild_append boundary
  have checked := scan.checkNestingFrom_append []
  have built := same []
  rw [List.append_nil] at checked built
  rw [checkNesting, built]
  cases t with
  | nil =>
    obtain rfl := List.map_eq_nil_iff.1 frames
    rw [List.length_nil] at checked
    rw [checked]
    exact .nested
  | cons e t =>
    obtain ⟨⟨d, before⟩, outer, rfl, rfl, _⟩ := List.map_eq_cons_iff.1 frames
    rw [List.length_nil] at checked
    rw [checked]
    refine .unclosed ?_
    rcases scan.innermost with ⟨before, k, after, rfl, closed⟩ | ⟨closed, none, _⟩
    · exact lastOpen_of_closed closed
    · simp at none

/-- A tag that is a defect is reported by both, if rebuilding gets there. -/
lemma sameFault (scan : Scan 0 [] tags m t)
    (boundary : ∀ tag ∈ tags, Text.IsBoundary text tag.offset) {tag : Tag} (fault : Fault m t tag)
    (here : m ≤ tag.offset → Text.IsBoundary text tag.offset) (rest : List Tag) :
    SameFault (checkNesting (tags ++ tag :: rest)) (rebuild (tags ++ tag :: rest) text) := by
  obtain ⟨read, behind, current, outer, whole, reached, frames, same⟩ :=
    scan.rebuild_append boundary
  have checked := scan.checkNestingFrom_append (tag :: rest)
  rw [List.length_nil] at checked
  rw [checkNesting, same, checked, checkNestingFrom.eq_def]
  dsimp only
  cases fault with
  | outOfOrder lt =>
    rw [if_pos lt, rebuildFrom_outOfOrder lt]
    exact .outOfOrder
  | @danglingEnd k le none =>
    subst none
    obtain rfl := List.map_eq_nil_iff.1 frames
    obtain ⟨chunk, behind, rfl, to_tag⟩ := Text.IsBoundary.exists_chunk (k := k) (whole ▸ here le)
      reached le
    rw [Tag.offset_stop, if_neg (Nat.not_lt.2 le), rebuildFrom_dangling to_tag]
    exact .danglingEnd

/-- Where no tag has been a defect, the first offset that is no boundary is reported. -/
lemma rebuild_outOfBounds (scan : Scan 0 [] tags m t)
    (boundary : ∀ tag ∈ tags, Text.IsBoundary text tag.offset) {tag : Tag} (le : m ≤ tag.offset)
    (outside : ¬ Text.IsBoundary text tag.offset) (rest : List Tag) :
    rebuild (tags ++ tag :: rest) text = .error (.tagOutOfBounds tag.offset (Text.size text)) := by
  obtain ⟨read, behind, current, outer, whole, reached, _, same⟩ := scan.rebuild_append boundary
  rw [same, rebuildFrom_outOfBounds reached le (whole ▸ outside)]

end Tag.Scan

/-- On tags at boundaries of the text both answers say the same. -/
lemma agree_of_boundary {tags : List Tag} {text : Text}
    (boundary : ∀ t ∈ tags, Text.IsBoundary text t.offset) :
    Agree tags (checkNesting tags) (rebuild tags text) := by
  rcases Tag.scan_cases 0 [] tags with ⟨m, t, scan⟩ | ⟨passed, tag, rest, m, t, rfl, scan, fault⟩
  · exact scan.agree boundary
  · rw [List.forall_mem_append, List.forall_mem_cons] at boundary
    exact (scan.sameFault boundary.1 fault (fun _ => boundary.2.1) rest).agree _

/-- No tag is out of order or an end without a start, up to one whose offset alone is looked at. -/
structure Tag.Clean (passed : List Tag) (tag : Tag) : Prop where
  ordered : (passed ++ [tag]).Pairwise fun s t => s.offset ≤ t.offset
  started : (Tag.depthAfter 0 passed).isSome

/-- Behind tags at boundaries, an offset that is none is reported unless a defect comes first. -/
lemma rebuild_of_outside {passed : List Tag} {tag : Tag} {text : Text}
    (boundary : ∀ t ∈ passed, Text.IsBoundary text t.offset)
    (outside : ¬ Text.IsBoundary text tag.offset) (rest : List Tag) :
    Tag.Clean passed tag ∧ rebuild (passed ++ tag :: rest) text
        = .error (.tagOutOfBounds tag.offset (Text.size text)) ∨
      ¬ Tag.Clean passed tag ∧
        SameFault (checkNesting (passed ++ tag :: rest))
          (rebuild (passed ++ tag :: rest) text) := by
  rcases Tag.scan_cases 0 [] passed with
    ⟨m, t, scan⟩ | ⟨earlier, fault, later, m, t, rfl, scan, defect⟩
  · have follows := scan.ascending_concat tag
    rw [Tag.ascending_iff, and_iff_right fun _ _ => Nat.zero_le _] at follows
    rcases Nat.lt_or_ge tag.offset m with lt | le
    · refine .inr ⟨fun clean => Nat.not_le.2 lt (follows.1 clean.ordered), ?_⟩
      exact scan.sameFault boundary (.outOfOrder lt) (fun le => absurd lt (Nat.not_lt.2 le)) rest
    · refine .inl ⟨⟨follows.2 le, ?_⟩, scan.rebuild_outOfBounds boundary le outside rest⟩
      rw [← List.length_nil, scan.depthAfter_eq]
      rfl
  · rw [List.forall_mem_append, List.forall_mem_cons] at boundary
    refine .inr ⟨fun clean => ?_, ?_⟩
    · cases defect with
      | outOfOrder lt =>
        have follows := scan.ascending_concat fault
        rw [Tag.ascending_iff, and_iff_right fun _ _ => Nat.zero_le _] at follows
        refine Nat.not_le.2 lt (follows.1 (clean.ordered.sublist ?_))
        simp
      | danglingEnd le none =>
        have depth := scan.depthAfter_eq
        have started := clean.started
        rw [List.length_nil, none] at depth
        rw [Tag.depthAfter_append, depth] at started
        cases started
    · rw [List.append_assoc, List.cons_append]
      exact scan.sameFault boundary.1 defect (fun _ => boundary.2.1) _

/--
Rebuilding nodes and the check of nesting agree on all tags. At boundaries of the text, one succeeds
just if the other does, they report the same offsets out of order and the same ends without a start,
and for starts without an end rebuilding names the last one that no end closes. If an offset is no
boundary of the text, rebuilding does not succeed. It reports the first such offset, unless a tag
before it is out of order or an end without a start, or it is itself less than the offset before it;
then it reports what the check of nesting does.
-/
theorem rebuild_checkNesting_agree (tags : List Tag) (text : Text) :
    ((∀ t ∈ tags, Text.IsBoundary text t.offset) →
      ((∃ nodes, rebuild tags text = .ok nodes) ↔ checkNesting tags = .ok ()) ∧
      (∀ n previous, checkNesting tags = .error (.outOfOrder n previous) ↔
        rebuild tags text = .error (.nesting (.outOfOrder n previous))) ∧
      (∀ n, checkNesting tags = .error (.danglingEnd n) ↔
        rebuild tags text = .error (.danglingEndTag n)) ∧
      ((∃ count, checkNesting tags = .error (.unclosed count)) ↔
        ∃ name, rebuild tags text = .error (.unclosedElement name)) ∧
      (∀ name, rebuild tags text = .error (.unclosedElement name) ↔
        (∃ count, checkNesting tags = .error (.unclosed count)) ∧
          ∃ e, Tag.LastOpen tags e ∧ e.name = name)) ∧
    (∀ passed tag rest, tags = passed ++ tag :: rest →
      (∀ t ∈ passed, Text.IsBoundary text t.offset) → ¬ Text.IsBoundary text tag.offset →
      (∀ nodes, rebuild tags text ≠ .ok nodes) ∧
      (Tag.Clean passed tag ↔
        rebuild tags text = .error (.tagOutOfBounds tag.offset (Text.size text))) ∧
      (¬ Tag.Clean passed tag → SameFault (checkNesting tags) (rebuild tags text))) := by
  refine ⟨fun boundary => ?_, ?_⟩
  · have agree := agree_of_boundary boundary
    generalize checkNesting tags = checked at agree ⊢
    generalize rebuild tags text = built at agree ⊢
    cases agree with
    | nested => simp
    | outOfOrder => simp
    | danglingEnd => simp
    | @unclosed count e last =>
      refine ⟨by simp, by simp, by simp, by simp, fun name => ⟨?_, ?_⟩⟩
      · rintro ⟨⟩
        exact ⟨⟨count, rfl⟩, e, last, rfl⟩
      · rintro ⟨_, d, last', rfl⟩
        rw [last.unique last']
  · rintro passed tag rest rfl boundary outside
    rcases rebuild_of_outside boundary outside rest with ⟨clean, built⟩ | ⟨unclean, same⟩
    · rw [built]
      exact ⟨nofun, ⟨fun _ => rfl, fun _ => clean⟩, fun unclean => absurd clean unclean⟩
    · generalize checkNesting (passed ++ tag :: rest) = checked at same ⊢
      generalize rebuild (passed ++ tag :: rest) text = built at same ⊢
      cases same with
      | outOfOrder =>
        exact ⟨nofun, ⟨fun clean => absurd clean unclean, nofun⟩, fun _ => .outOfOrder⟩
      | danglingEnd =>
        exact ⟨nofun, ⟨fun clean => absurd clean unclean, nofun⟩, fun _ => .danglingEnd⟩

/--
The first of two starts has no end, though the second one has; an end inside a character is out of
bounds, and no longer is if an end without a start comes before it.
-/
theorem rebuild_checkNesting_agree_accent :
    let text : Text := ['é', 'x']
    (∃ e, Tag.LastOpen [.start 0 ⟨"b", .empty⟩, .start 2 ⟨"i", .empty⟩, .stop 3] e ∧
      e.name = "b" ∧ rebuild [.start 0 ⟨"b", .empty⟩, .start 2 ⟨"i", .empty⟩, .stop 3] text
        = .error (.unclosedElement "b")) ∧
      rebuild [.start 0 ⟨"b", .empty⟩, .stop 1] text = .error (.tagOutOfBounds 1 3) ∧
      SameFault (checkNesting [.stop 0, .stop 1]) (rebuild [.stop 0, .stop 1] text) := by
  intro text
  refine ⟨?_, ?_, ?_⟩
  · obtain ⟨_, _, _, _, named⟩ := (rebuild_checkNesting_agree
      [.start 0 ⟨"b", .empty⟩, .start 2 ⟨"i", .empty⟩, .stop 3] text).1 (by decide)
    obtain ⟨_, e, last, name⟩ := (named "b").1 rfl
    exact ⟨e, last, name, rfl⟩
  · have outside := (rebuild_checkNesting_agree [.start 0 ⟨"b", .empty⟩, .stop 1] text).2
      [.start 0 ⟨"b", .empty⟩] (.stop 1) [] rfl (by decide) (by decide)
    exact outside.2.1.1 ⟨by decide, rfl⟩
  · have outside := (rebuild_checkNesting_agree [.stop 0, .stop 1] text).2
      [.stop 0] (.stop 1) [] rfl (by decide) (by decide)
    exact outside.2.2 fun clean => nomatch clean.started

end Highlighter
