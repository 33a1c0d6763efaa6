import Highlighter.Proofs.Markup.Normal
import Highlighter.Proofs.Markup.Rebuild

/-!
# From tags to nodes and back

Nodes that are built from tags have the text that the tags stand in, with no text empty and no two
texts side by side, and the tags themselves unless these are for line breaks
(`rebuilt_nodes_faithful`). So what is built from the tags of some nodes is normal and has their
text and tags; there is only one such list of nodes, and it is the normal form
(`rebuild_flatten_normalizes`).
-/

namespace Highlighter

namespace Node

/-! ## The text of rebuilt nodes -/

/-- The text of siblings is that of one after the other. -/
lemma textContents_append (a b : List Node) :
    textContents (a ++ b) = textContents a ++ textContents b := by
  induction a with
  | nil => rfl
  | cons node a ih => simp [textContents, ih]

/-- The text of nodes under construction, as far as it has been read. -/
def textOpen (current : List Node) : List (Element × List Node) → Text
  | [] => textContents current.reverse
  | (_, before) :: outer => textOpen before outer ++ textContents current.reverse

/-- One more child adds its own text. -/
lemma textOpen_cons (node : Node) (current : List Node) (outer : List (Element × List Node)) :
    textOpen (node :: current) outer = textOpen current outer ++ node.textContent := by
  cases outer <;> simp [textOpen, textContents_append, textContents]

/-- Added text is read behind all that has been read. -/
lemma textOpen_addText (t : Text) (current : List Node) (outer : List (Element × List Node)) :
    textOpen (addText t current) outer = textOpen current outer ++ t := by
  unfold addText
  split
  · next empty =>
    obtain rfl := List.isEmpty_iff.1 empty
    simp
  · simp [textOpen_cons, textContent]

/-- The nodes that are built have the text of the open tree, followed by the rest. -/
lemma textContents_of_builds {pos : Nat} {rest : Text} {current : List Node}
    {outer : List (Element × List Node)} {tags : List Tag} {nodes : List Node}
    (built : Builds pos rest current outer tags nodes) :
    textContents nodes = textOpen current outer ++ rest := by
  induction built with
  | @done pos rest current => exact textOpen_addText rest current []
  | @start pos n chunk rest current outer e tags nodes _ _ ih =>
    rw [ih, textOpen, textOpen_addText]
    simp [textContents]
  | @stop pos n chunk rest current before outer e tags nodes _ _ ih =>
    have read := textOpen_addText chunk current ((e, before) :: outer)
    rw [textOpen] at read
    rw [ih, textOpen_cons, textContent, read, List.append_assoc]

/-! ## Rebuilt nodes are tidy -/

/-- A text that is read leaves tidy children tidy, if the last of them is no text. -/
lemma Tidy.addText {kind : Element → Prop} {current : List Node} (tidy : Tidy kind current)
    (last : startsWithText current = false) (t : Text) : Tidy kind (addText t current) := by
  unfold Node.addText
  split
  · exact tidy
  · next some => exact tidy_text_cons.2 ⟨by simpa using some, last, tidy⟩

/--
Nodes are tidy that are built on tidy children. Between two tags the last child of the innermost
open element is never a text: a text is read only right before an element opens or closes.
-/
lemma tidy_of_builds {kind : Element → Prop} {pos : Nat} {rest : Text} {current : List Node}
    {outer : List (Element × List Node)} {tags : List Tag} {nodes : List Node}
    (built : Builds pos rest current outer tags nodes)
    (starts : ∀ n e, .start n e ∈ tags → kind e)
    (frames : ∀ frame ∈ outer, kind frame.1 ∧ Tidy kind frame.2)
    (tidy : Tidy kind current) (last : startsWithText current = false) : Tidy kind nodes := by
  induction built with
  | @done pos rest current => exact tidy_reverse.2 (tidy.addText last rest)
  | @start pos n chunk rest current outer e tags nodes _ _ ih =>
    refine ih (fun n e h => starts n e (List.mem_cons_of_mem _ h)) (fun frame h => ?_) tidy_nil rfl
    rcases List.mem_cons.1 h with rfl | h
    · exact ⟨starts n e List.mem_cons_self, tidy.addText last chunk⟩
    · exact frames frame h
  | @stop pos n chunk rest current before outer e tags nodes _ _ ih =>
    obtain ⟨he, tidy_before⟩ := frames (e, before) List.mem_cons_self
    have closed := tidy_reverse.2 (tidy.addText last chunk)
    exact ih (fun n e h => starts n e (List.mem_cons_of_mem _ h))
      (fun frame h => frames frame (List.mem_cons_of_mem _ h))
      (tidy_element_cons.2 ⟨he, closed, tidy_before⟩) rfl

/-- Nodes that are built from tags are tidy, with elements of the kind of the tags. -/
lemma tidy_of_rebuild {kind : Element → Prop} {tags : List Tag} {text : Text} {nodes : List Node}
    (built : rebuild tags text = .ok nodes) (starts : ∀ n e, .start n e ∈ tags → kind e) :
    Tidy kind nodes :=
  tidy_of_builds (builds_of_rebuildFrom built) starts (by simp) tidy_nil rfl

end Node

/--
Nodes that are built from tags in a text have these tags and this text, however line breaks are
read, if none of the tags is for a line break. Whatever the tags are for, the text inside the nodes
is the given one, and at no depth there is an empty text or a text next to a text.
-/
theorem rebuilt_nodes_faithful {tags : List Tag} {text : Text} {nodes : List Node}
    (built : rebuild tags text = .ok nodes) :
    ((∀ n e, .start n e ∈ tags → e.isLineBreak = false) →
        ∀ br, Node.flatten br nodes = ⟨text, tags⟩) ∧
      Node.textContents nodes = text ∧
      ∀ siblings, Node.Siblings nodes siblings →
        .text [] ∉ siblings ∧ siblings.IsChain fun a b => ¬ (a.isText ∧ b.isText) := by
  refine ⟨flatten_of_rebuild built, ?_, fun siblings found => ?_⟩
  · exact Node.textContents_of_builds (builds_of_rebuildFrom built)
  · have tidy : Node.Tidy (fun _ => True) nodes :=
      Node.tidy_of_rebuild built fun _ _ _ => trivial
    exact ⟨(tidy siblings found).nonempty, (tidy siblings found).apart⟩

/-- An empty element between two others that touch it, in a text of characters of several sizes. -/
theorem rebuilt_nodes_faithful_touching :
    let tags : List Tag :=
      [.start 0 ⟨"b", .empty⟩, .start 2 ⟨"i", .empty⟩, .stop 2, .start 2 ⟨"u", .empty⟩, .stop 5,
        .stop 5]
    let text : Text := ['é', '€', 'x']
    ∃ nodes, rebuild tags text = .ok nodes ∧ (∀ br, Node.flatten br nodes = ⟨text, tags⟩) ∧
      Node.textContents nodes = text ∧ .text [] ∉ nodes := by
  intro tags text
  have plain : ∀ n e, .start n e ∈ tags → e.isLineBreak = false := by
    intro n e h
    simp only [tags, List.mem_cons, Tag.start.injEq, reduceCtorEq, List.not_mem_nil, or_false,
      false_or] at h
    rcases h with ⟨-, rfl⟩ | ⟨-, rfl⟩ | ⟨-, rfl⟩ <;> decide +kernel
  have accepted : (rebuild tags text).isOk := by decide +kernel
  cases built : rebuild tags text with
  | error failure => cases built ▸ accepted
  | ok nodes =>
    obtain ⟨view, texts, tidy⟩ := rebuilt_nodes_faithful built
    exact ⟨nodes, rfl, view plain, texts, (tidy nodes .top).1⟩

/-- The tags of nodes can be built into nodes again, which are the normal form of the first ones. -/
lemma rebuild_flatten (br : LineBreak) (nodes : List Node) :
    rebuild (Node.flatten br nodes).tags (Node.flatten br nodes).text =
      .ok (Node.normalizeList br nodes) := by
  have wf := Node.wellFormed_flatten br nodes
  have boundary : ∀ t ∈ (Node.flatten br nodes).tags,
      Text.IsBoundary (Node.flatten br nodes).text t.offset := by
    intro t ht
    obtain ⟨n, hn, e⟩ := wf.boundary t ht
    rwa [e, Nat.zero_add]
  obtain ⟨rebuilt, built, view⟩ := flatten_rebuild wf.checkNesting boundary wf.plain
  have normal : Node.Normal rebuilt := Node.tidy_of_rebuild built wf.plain
  have same : Node.flattenListAt br 0 rebuilt =
      Node.flattenListAt br 0 (Node.normalizeList br nodes) := by
    rw [Node.flattenListAt_normalizeList]
    exact view br
  rw [built, Node.eq_of_flattenListAt_eq br 0 _ _ normal (Node.normal_normalizeList br nodes) same]

/--
Building nodes from the text and tags of some nodes succeeds and normalizes them: line breaks become
text, empty texts are dropped, and texts side by side are joined. Nodes that are normal already come
back as they were, also by way of a merge with nothing.
-/
theorem rebuild_flatten_normalizes (br : LineBreak) (nodes : List Node) :
    let flat := Node.flatten br nodes
    rebuild flat.tags flat.text = .ok (Node.normalizeList br nodes) ∧
      Node.Normal (Node.normalizeList br nodes) ∧
      (Node.Normal nodes → rebuild flat.tags flat.text = .ok nodes ∧
        reconcile flat.text flat.tags [] = .ok nodes) := by
  intro flat
  have built := rebuild_flatten br nodes
  refine ⟨built, Node.normal_normalizeList br nodes, fun normal => ?_⟩
  rw [Node.normalizeList_eq_self br normal] at built
  have merged : merge flat.tags [] = .ok flat.tags := by
    simp [merge, Span.ofTags, mergeTags?, pure, Except.pure, bind, Except.bind]
  exact ⟨built, by rw [reconcile, merged]; exact built⟩

/-- A text before an element that holds an empty one and a text. -/
theorem rebuild_flatten_normalizes_kept :
    let nodes : List Node :=
      [.text ['é'], .element ⟨"b", .empty⟩ [.element ⟨"i", .empty⟩ [], .text ['x']], .text ['y']]
    let flat := Node.flatten .crlf nodes
    Node.Normal nodes ∧ rebuild flat.tags flat.text = .ok nodes ∧
      reconcile flat.text flat.tags [] = .ok nodes := by
  intro nodes flat
  have plain : (Element.mk "b" .empty).isLineBreak = false ∧
      (Element.mk "i" .empty).isLineBreak = false := by decide +kernel
  have normal : Node.Normal nodes := by
    simp [nodes, Node.Normal, Node.startsWithText, Node.isText, plain]
  exact ⟨normal, (rebuild_flatten_normalizes .crlf nodes).2.2 normal⟩

end Highlighter
