import Highlighter.Markup.Reconcile
import Highlighter.Proofs.Markup.Nesting

/-!
# Rebuilt trees have the tags that they were built from

While nodes are built from tags, the elements that are still open form a tree without an end.
`Node.flattenOpen` is the flat view of such a tree; each tag that is read adds to its text what
stands before the tag, and to its tags the tag itself. So the nodes at the end have the text and the
tags that were given (`flatten_rebuild`), provided that no tag is for a line break, since line
breaks leave no tags.
-/

namespace Highlighter

namespace Flat

/-- One text with its tags behind another. -/
def append (f g : Flat) : Flat := ⟨f.text ++ g.text, f.tags ++ g.tags⟩

/-- A text behind a text with tags. -/
def addText (f : Flat) (t : Text) : Flat := ⟨f.text ++ t, f.tags⟩

/-- A tag behind all others. -/
def addTag (f : Flat) (t : Tag) : Flat := ⟨f.text, f.tags ++ [t]⟩

end Flat

namespace Node

/-- Siblings are flattened one after the other. -/
lemma flattenListAt_append (br : LineBreak) (offset : Nat) (a b : List Node) :
    flattenListAt br offset (a ++ b) =
      (flattenListAt br offset a).append
        (flattenListAt br (offset + Text.size (flattenListAt br offset a).text) b) := by
  induction a generalizing offset with
  | nil => simp [flattenListAt, Flat.append]
  | cons node a ih =>
    simp only [List.cons_append, flattenListAt, ih, Flat.append, List.append_assoc,
      Text.size_append, Nat.add_assoc]

/-- One more sibling is flattened behind the others. -/
lemma flattenListAt_concat (br : LineBreak) (offset : Nat) (nodes : List Node) (node : Node) :
    flattenListAt br offset (nodes ++ [node]) =
      (flattenListAt br offset nodes).append
        (node.flattenAt br (offset + Text.size (flattenListAt br offset nodes).text)) := by
  simp [flattenListAt_append, flattenListAt]

/--
Text and tags of nodes under construction: `current` are the children of the innermost open element,
last first, and each open element stands with the children before it.
-/
def flattenOpen (br : LineBreak) (current : List Node) : List (Element × List Node) → Flat
  | [] => flatten br current.reverse
  | (e, before) :: outer =>
    let done := (flattenOpen br before outer)
    (done.addTag (.start (Text.size done.text) e)).append
      (flattenListAt br (Text.size done.text) current.reverse)

/-- One more child adds its own text and tags. -/
lemma flattenOpen_cons (br : LineBreak) (node : Node) (current : List Node)
    (outer : List (Element × List Node)) :
    flattenOpen br (node :: current) outer =
      (flattenOpen br current outer).append
        (node.flattenAt br (Text.size (flattenOpen br current outer).text)) := by
  cases outer with
  | nil => simp [flattenOpen, flatten, flattenListAt_concat]
  | cons frame outer =>
    simp [flattenOpen, flattenListAt_concat, Flat.append, Flat.addTag]

/-- A text that is read, empty or not, adds itself to the text. -/
lemma flattenOpen_addText (br : LineBreak) (t : Text) (current : List Node)
    (outer : List (Element × List Node)) :
    flattenOpen br (addText t current) outer = (flattenOpen br current outer).addText t := by
  unfold addText
  split
  · next empty =>
    obtain rfl := List.isEmpty_iff.1 empty
    simp [Flat.addText]
  · simp [flattenOpen_cons, flattenAt, Flat.append, Flat.addText]

/-- An element that opens adds its start. -/
lemma flattenOpen_start (br : LineBreak) (e : Element) (current : List Node)
    (outer : List (Element × List Node)) :
    flattenOpen br [] ((e, current) :: outer) =
      (flattenOpen br current outer).addTag
        (.start (Text.size (flattenOpen br current outer).text) e) := by
  simp [flattenOpen, flattenListAt, Flat.append, Flat.addTag]

/-- An element that closes adds its end, unless it is a line break. -/
lemma flattenOpen_stop (br : LineBreak) {e : Element} (plain : e.isLineBreak = false)
    (current before : List Node) (outer : List (Element × List Node)) :
    flattenOpen br (.element e current.reverse :: before) outer =
      (flattenOpen br current ((e, before) :: outer)).addTag
        (.stop (Text.size (flattenOpen br current ((e, before) :: outer)).text)) := by
  simp [flattenOpen_cons, flattenAt, plain, flattenOpen, Flat.append, Flat.addTag]

end Node

/--
How nodes are built from the tags that follow an offset, tag by tag: the text before a tag moves
from the rest to the children of the innermost open element, a start opens an element and an end
closes the innermost one.
-/
inductive Builds : Nat → Text → List Node → List (Element × List Node) → List Tag → List Node → Prop
    where
  | done {pos : Nat} {rest : Text} {current : List Node} :
    Builds pos rest current [] [] (Node.addText rest current).reverse
  | start {pos n : Nat} {chunk rest : Text} {current : List Node}
      {outer : List (Element × List Node)} {e : Element} {tags : List Tag} {nodes : List Node} :
    pos + Text.size chunk = n →
    Builds n rest [] ((e, Node.addText chunk current) :: outer) tags nodes →
    Builds pos (chunk ++ rest) current outer (.start n e :: tags) nodes
  | stop {pos n : Nat} {chunk rest : Text} {current before : List Node}
      {outer : List (Element × List Node)} {e : Element} {tags : List Tag} {nodes : List Node} :
    pos + Text.size chunk = n →
    Builds n rest (.element e (Node.addText chunk current).reverse :: before) outer tags nodes →
    Builds pos (chunk ++ rest) current ((e, before) :: outer) (.stop n :: tags) nodes

/-- What `rebuildFrom` returns is built tag by tag. -/
lemma builds_of_rebuildFrom {size pos : Nat} {rest : Text} {current : List Node}
    {outer : List (Element × List Node)} {tags : List Tag} {nodes : List Node}
    (built : rebuildFrom size pos rest current outer tags = .ok nodes) :
    Builds pos rest current outer tags nodes := by
  induction tags generalizing pos rest current outer with
  | nil =>
    rw [rebuildFrom.eq_def] at built
    dsimp only at built
    split at built
    · cases built
      exact .done
    · cases built
  | cons tag tags ih =>
    rw [rebuildFrom.eq_def] at built
    dsimp only at built
    split at built
    · cases built
    · next ge =>
      split at built
      · cases built
      · next chunk rest' cut =>
        obtain ⟨rfl, size_chunk⟩ := Text.splitAt?_eq_some cut
        have reached : pos + Text.size chunk = tag.offset := by omega
        cases tag with
        | start n e => exact .start reached (ih built)
        | stop n =>
          cases outer with
          | nil => cases built
          | cons frame outer => exact .stop reached (ih built)

/-- The elements of tags and of open frames are no line breaks. -/
structure Plain (outer : List (Element × List Node)) (tags : List Tag) : Prop where
  frames : ∀ frame ∈ outer, frame.1.isLineBreak = false
  starts : ∀ n e, .start n e ∈ tags → e.isLineBreak = false

/-- Opening an element that is no line break keeps all open ones free of them. -/
lemma Plain.open {outer : List (Element × List Node)} {tags : List Tag} {n : Nat} {e : Element}
    (plain : Plain outer (.start n e :: tags)) (before : List Node) :
    Plain ((e, before) :: outer) tags where
  frames frame h := by
    rcases List.mem_cons.1 h with rfl | h
    · exact plain.starts n e List.mem_cons_self
    · exact plain.frames frame h
  starts n e h := plain.starts n e (List.mem_cons_of_mem _ h)

/-- So does closing one. -/
lemma Plain.close {outer : List (Element × List Node)} {tags : List Tag} {n : Nat}
    {frame : Element × List Node} (plain : Plain (frame :: outer) (.stop n :: tags)) :
    Plain outer tags where
  frames frame h := plain.frames frame (List.mem_cons_of_mem _ h)
  starts n e h := plain.starts n e (List.mem_cons_of_mem _ h)

/-- The nodes that are built have the text and the tags of the open tree, followed by the rest. -/
lemma flatten_of_builds {br : LineBreak} {pos : Nat} {rest : Text} {current : List Node}
    {outer : List (Element × List Node)} {tags : List Tag} {nodes : List Node}
    (built : Builds pos rest current outer tags nodes) (plain : Plain outer tags)
    (place : Text.size (Node.flattenOpen br current outer).text = pos) :
    Node.flatten br nodes = (Node.flattenOpen br current outer).append ⟨rest, tags⟩ := by
  induction built with
  | @done pos rest current =>
    have last := Node.flattenOpen_addText br rest current []
    rw [Node.flattenOpen] at last
    rw [last]
    simp [Flat.addText, Flat.append]
  | @start pos n chunk rest current outer e tags nodes reached built ih =>
    -- up to the tag the text moves from the rest to the open tree, and then the tag does
    have read := Node.flattenOpen_addText br chunk current outer
    have size : Text.size ((Node.flattenOpen br current outer).addText chunk).text = n := by
      simp [Flat.addText, place, reached]
    have opened := Node.flattenOpen_start br e (Node.addText chunk current) outer
    rw [read, size] at opened
    rw [ih (plain.open _) (by rw [opened]; exact size), opened]
    simp [Flat.addTag, Flat.addText, Flat.append]
  | @stop pos n chunk rest current before outer e tags nodes reached built ih =>
    have read := Node.flattenOpen_addText br chunk current ((e, before) :: outer)
    have size : Text.size ((Node.flattenOpen br current ((e, before) :: outer)).addText chunk).text
        = n := by
      simp [Flat.addText, place, reached]
    have closed := Node.flattenOpen_stop br (plain.frames _ List.mem_cons_self)
      (Node.addText chunk current) before outer
    rw [read, size] at closed
    rw [ih plain.close (by rw [closed]; exact size), closed]
    simp [Flat.addTag, Flat.addText, Flat.append]

/-- The nodes that are built from tags, none of them for a line break, have these tags. -/
lemma flatten_of_rebuild {tags : List Tag} {text : Text} {nodes : List Node}
    (built : rebuild tags text = .ok nodes)
    (plain : ∀ n e, .start n e ∈ tags → e.isLineBreak = false) (br : LineBreak) :
    Node.flatten br nodes = ⟨text, tags⟩ :=
  flatten_of_builds (builds_of_rebuildFrom built) ⟨by simp, plain⟩ rfl

/-- Nested tags on boundaries of the text can be built into nodes. -/
lemma exists_rebuildFrom {size : Nat} {read rest : Text} {current : List Node}
    {outer : List (Element × List Node)} {tags : List Tag}
    (nested : checkNestingFrom (Text.size read) outer.length tags = .ok ())
    (boundary : ∀ t ∈ tags, Text.IsBoundary (read ++ rest) t.offset) :
    ∃ nodes, rebuildFrom size (Text.size read) rest current outer tags = .ok nodes := by
  induction tags generalizing read rest current outer with
  | nil =>
    cases outer with
    | nil => exact ⟨_, rfl⟩
    | cons frame outer => simp [checkNestingFrom] at nested
  | cons tag tags ih =>
    rw [checkNestingFrom.eq_def] at nested
    dsimp only at nested
    split at nested
    · cases nested
    · next ge =>
      have le : Text.size read ≤ tag.offset := Nat.not_lt.1 ge
      -- what lies between the text that was read and the tag can be split off the rest
      obtain ⟨chunk, rest, rfl, size_chunk⟩ :=
        Text.isBoundary_iff.1 ((boundary tag List.mem_cons_self).drop le)
      have cut :
          Text.splitAt? (chunk ++ rest) (tag.offset - Text.size read) = some (chunk, rest) := by
        rw [← size_chunk, Text.splitAt?_append]
      have reached : Text.size (read ++ chunk) = tag.offset := by
        rw [Text.size_append]
        omega
      have boundary' : ∀ t ∈ tags, Text.IsBoundary (read ++ chunk ++ rest) t.offset := by
        intro t ht
        rw [List.append_assoc]
        exact boundary t (List.mem_cons_of_mem _ ht)
      rw [rebuildFrom.eq_def]
      dsimp only
      rw [if_neg ge, cut]
      cases tag with
      | start n e =>
        rw [Tag.offset_start] at reached
        subst reached
        exact ih nested boundary'
      | stop n =>
        rw [Tag.offset_stop] at reached
        subst reached
        cases outer with
        | nil => cases nested
        | cons frame outer => exact ih nested boundary'

/-- Nested tags on boundaries of a text, none of them for a line break, are the tags of the nodes
that are built from them. -/
lemma flatten_rebuild {tags : List Tag} {text : Text} (nested : checkNesting tags = .ok ())
    (boundary : ∀ t ∈ tags, Text.IsBoundary text t.offset)
    (plain : ∀ n e, .start n e ∈ tags → e.isLineBreak = false) :
    ∃ nodes, rebuild tags text = .ok nodes ∧ ∀ br, Node.flatten br nodes = ⟨text, tags⟩ := by
  obtain ⟨nodes, built⟩ : ∃ nodes, rebuildFrom (Text.size text) 0 text [] [] tags = .ok nodes :=
    @exists_rebuildFrom _ [] text [] [] tags nested boundary
  exact ⟨nodes, built, flatten_of_rebuild built plain⟩

end Highlighter
