import Mathlib.Data.List.Chain
import Highlighter.Markup.Node
import Highlighter.Proofs.Text.Boundary

/-!
# What proper nesting means

Tags are properly nested if their offsets ascend and the number of open elements, which never drops
below zero, ends at zero. The two halves are independent of each other, and each is kept by the
operations on tags for its own reason: `checkNestingFrom_eq_ok_iff` takes them apart. The tags of a
list of nodes are properly nested, and stand on boundaries of the text (`Node.wellFormed_flatten`).
-/

namespace Highlighter

namespace Tag

/-- The offset of a start. -/
@[simp] lemma offset_start (n : Nat) (e : Element) : (start n e).offset = n := rfl

/-- The offset of an end. -/
@[simp] lemma offset_stop (n : Nat) : (stop n).offset = n := rfl

/-- The number of open elements behind tags, or nothing if an end had no start. -/
def depthAfter : Nat → List Tag → Option Nat
  | d, [] => some d
  | d, .start _ _ :: tags => depthAfter (d + 1) tags
  | 0, .stop _ :: _ => none
  | d + 1, .stop _ :: tags => depthAfter d tags

/-- Without tags the depth stays. -/
@[simp] lemma depthAfter_nil (d : Nat) : depthAfter d [] = some d := by simp [depthAfter]

/-- A start opens an element. -/
@[simp] lemma depthAfter_start (d n : Nat) (e : Element) (tags : List Tag) :
    depthAfter d (.start n e :: tags) = depthAfter (d + 1) tags := by simp [depthAfter]

/-- An end closes one. -/
@[simp] lemma depthAfter_stop (d n : Nat) (tags : List Tag) :
    depthAfter (d + 1) (.stop n :: tags) = depthAfter d tags := rfl

/-- Depths of consecutive lists of tags add up. -/
lemma depthAfter_append (d : Nat) (a b : List Tag) :
    depthAfter d (a ++ b) = (depthAfter d a).bind fun d => depthAfter d b := by
  induction a generalizing d with
  | nil => simp
  | cons t a ih =>
    cases t with
    | start n e => simpa using ih (d + 1)
    | stop n =>
      cases d with
      | zero => rfl
      | succ d => simpa using ih d

/-- Offsets of tags ascend from an offset on. -/
def Ascending (n : Nat) (tags : List Tag) : Prop := (n :: tags.map Tag.offset).IsChain (· ≤ ·)

/-- No tags ascend from anywhere. -/
@[simp] lemma ascending_nil (n : Nat) : Ascending n [] := .singleton n

/-- Tags ascend if the first stands behind and the others ascend from it. -/
@[simp] lemma ascending_cons {n : Nat} {t : Tag} {tags : List Tag} :
    Ascending n (t :: tags) ↔ n ≤ t.offset ∧ Ascending t.offset tags := List.isChain_cons_cons

/-- Ascending offsets are ordered pairwise and not less than where they start. -/
lemma ascending_iff {n : Nat} {tags : List Tag} :
    Ascending n tags ↔
      (∀ t ∈ tags, n ≤ t.offset) ∧ tags.Pairwise fun s t => s.offset ≤ t.offset := by
  rw [Ascending, List.isChain_iff_pairwise, List.pairwise_cons, List.pairwise_map]
  simp

/-- Ascending lists may be appended if the second one starts behind the first. -/
lemma Ascending.append {n k : Nat} {a b : List Tag} (ha : Ascending n a)
    (le : ∀ t ∈ a, t.offset ≤ k) (hk : n ≤ k) (hb : Ascending k b) : Ascending n (a ++ b) := by
  rw [ascending_iff] at *
  refine ⟨fun t ht => ?_, List.pairwise_append.2 ⟨ha.2, hb.2, fun s hs t ht => ?_⟩⟩
  · rcases List.mem_append.1 ht with h | h
    · exact ha.1 t h
    · exact hk.trans (hb.1 t h)
  · exact (le s hs).trans (hb.1 t ht)

end Tag

/-- Tags pass the check if their offsets ascend and all elements are closed in the end. -/
lemma checkNestingFrom_eq_ok_iff {n d : Nat} {tags : List Tag} :
    checkNestingFrom n d tags = .ok () ↔
      Tag.Ascending n tags ∧ Tag.depthAfter d tags = some 0 := by
  induction tags generalizing n d with
  | nil => simp [checkNestingFrom]
  | cons t tags ih =>
    rw [checkNestingFrom.eq_def, Tag.ascending_cons]
    dsimp only
    split
    · next lt => simp [Nat.not_le.2 lt]
    · next ge =>
      have le : n ≤ t.offset := Nat.not_lt.1 ge
      cases t with
      | start k e =>
        rw [Tag.offset_start] at le
        simpa [le] using ih
      | stop k =>
        rw [Tag.offset_stop] at le
        cases d with
        | zero => simp [Tag.depthAfter]
        | succ d => simpa [le] using ih

/-- The check accepts tags in order of which every start has its end. -/
lemma checkNesting_eq_ok_iff {tags : List Tag} :
    checkNesting tags = .ok () ↔
      (tags.Pairwise fun s t => s.offset ≤ t.offset) ∧ Tag.depthAfter 0 tags = some 0 := by
  rw [checkNesting, checkNestingFrom_eq_ok_iff, Tag.ascending_iff]
  simp

namespace Flat

/--
Tags that nodes can have whose text starts at an offset: in order, all closed, on boundaries of the
text, and none of them for a line break.
-/
structure WellFormed (offset : Nat) (f : Flat) : Prop where
  ascending : Tag.Ascending offset f.tags
  depth : ∀ d, Tag.depthAfter d f.tags = some d
  boundary : ∀ t ∈ f.tags, ∃ n, Text.IsBoundary f.text n ∧ t.offset = offset + n
  plain : ∀ n e, .start n e ∈ f.tags → e.isLineBreak = false

/-- A text without tags. -/
lemma WellFormed.text (offset : Nat) (t : Text) : WellFormed offset ⟨t, []⟩ where
  ascending := Tag.ascending_nil offset
  depth := Tag.depthAfter_nil
  boundary := by simp
  plain := by simp

/-- No tag stands behind the text. -/
lemma WellFormed.offset_le {offset : Nat} {f : Flat} (hf : WellFormed offset f) :
    ∀ t ∈ f.tags, t.offset ≤ offset + Text.size f.text := by
  intro t ht
  obtain ⟨n, hn, e⟩ := hf.boundary t ht
  rw [e]
  exact Nat.add_le_add_left hn.le_size _

/-- One text with its tags behind another. -/
lemma WellFormed.append {offset : Nat} {f g : Flat} (hf : WellFormed offset f)
    (hg : WellFormed (offset + Text.size f.text) g) :
    WellFormed offset ⟨f.text ++ g.text, f.tags ++ g.tags⟩ where
  ascending := hf.ascending.append hf.offset_le (Nat.le_add_right _ _) hg.ascending
  depth d := by rw [Tag.depthAfter_append, hf.depth, Option.bind_some, hg.depth]
  boundary t ht := by
    rcases List.mem_append.1 ht with ht | ht
    · obtain ⟨n, hn, e⟩ := hf.boundary t ht
      exact ⟨n, by simpa using hn.append [] g.text, e⟩
    · obtain ⟨n, hn, e⟩ := hg.boundary t ht
      exact ⟨Text.size f.text + n, by simpa using hn.append f.text [], by omega⟩
  plain n e he := (List.mem_append.1 he).elim (hf.plain n e) (hg.plain n e)

/-- An element around a text with its tags. -/
lemma WellFormed.element {offset : Nat} {f : Flat} (hf : WellFormed offset f) {e : Element}
    (plain : e.isLineBreak = false) :
    WellFormed offset
      ⟨f.text, .start offset e :: f.tags ++ [.stop (offset + Text.size f.text)]⟩ where
  ascending := by
    have last : Tag.Ascending (offset + Text.size f.text) [.stop (offset + Text.size f.text)] := by
      simp
    exact Tag.ascending_cons.2 ⟨Nat.le_refl _,
      hf.ascending.append hf.offset_le (Nat.le_add_right _ _) last⟩
  -- the tags inside leave the depth as it is, so the end closes what the start opened
  depth d := by simp [Tag.depthAfter_append, hf.depth]
  boundary t ht := by
    rcases List.mem_append.1 ht with ht | ht
    · rcases List.mem_cons.1 ht with rfl | ht
      · exact ⟨0, by simp, rfl⟩
      · exact hf.boundary t ht
    · obtain rfl := List.mem_singleton.1 ht
      exact ⟨Text.size f.text, by simp, rfl⟩
  plain n d hd := by
    rcases List.mem_append.1 hd with hd | hd
    · rcases List.mem_cons.1 hd with h | h
      · cases h
        exact plain
      · exact hf.plain n d h
    · cases List.mem_singleton.1 hd

/-- Well-formed tags pass the check. -/
lemma WellFormed.checkNesting {f : Flat} (h : WellFormed 0 f) : checkNesting f.tags = .ok () :=
  checkNestingFrom_eq_ok_iff.2 ⟨h.ascending, h.depth 0⟩

end Flat

namespace Node

mutual
/-- The tags of a node are well-formed. -/
lemma wellFormed_flattenAt (br : LineBreak) (offset : Nat) (node : Node) :
    (node.flattenAt br offset).WellFormed offset := by
  cases node with
  | text t => exact .text offset t
  | element e children =>
    rw [flattenAt]
    split
    · exact .text offset br.toText
    · next plain =>
      exact (wellFormed_flattenListAt br offset children).element (Bool.not_eq_true _ ▸ plain)

/-- So are those of siblings. -/
lemma wellFormed_flattenListAt (br : LineBreak) (offset : Nat) (nodes : List Node) :
    (flattenListAt br offset nodes).WellFormed offset := by
  cases nodes with
  | nil => exact .text offset []
  | cons node nodes =>
    exact (wellFormed_flattenAt br offset node).append (wellFormed_flattenListAt br _ nodes)
end

/-- The tags of nodes are well-formed from the start of their text on. -/
lemma wellFormed_flatten (br : LineBreak) (nodes : List Node) : (flatten br nodes).WellFormed 0 :=
  wellFormed_flattenListAt br 0 nodes

end Node

end Highlighter
