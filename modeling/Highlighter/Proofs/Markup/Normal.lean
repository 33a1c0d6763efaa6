import Highlighter.Proofs.Markup.Nesting

/-!
# Normal trees

Siblings are tidy if no text among them is empty and no two texts stand side by side. Nodes are tidy
if the siblings at every depth are, and normal if besides no element is a line break. Every list of
nodes can be normalized without a change of its text and tags (`Node.flattenListAt_normalizeList`),
and there is only one way to do so: normal nodes are determined by their text and tags
(`Node.eq_of_flattenListAt_eq`).
-/

namespace Highlighter

/-- Of tags that are closed in themselves and the end that follows, each determines the other. -/
lemma Tag.append_stop_inj {a b x y : List Tag} {m n : Nat} (ha : depthAfter 0 a = some 0)
    (hb : depthAfter 0 b = some 0) (same : a ++ .stop m :: x = b ++ .stop n :: y) :
    a = b ∧ m = n ∧ x = y := by
  -- if one were longer than the other, it would hold an end without a start
  have no_longer : ∀ {a c z : List Tag} {m : Nat}, depthAfter 0 a = some 0 →
      depthAfter 0 (a ++ c) = some 0 → ∀ {w}, .stop m :: z = c ++ w → c = [] := by
    intro a c z m ha hac w e
    cases c with
    | nil => rfl
    | cons t c =>
      cases e
      rw [depthAfter_append, ha] at hac
      cases hac
  rcases List.append_eq_append_iff.1 same with ⟨c, rfl, e⟩ | ⟨c, rfl, e⟩
  · obtain rfl := no_longer ha hb e
    cases e
    exact ⟨by simp, rfl, rfl⟩
  · obtain rfl := no_longer hb ha e
    cases e
    exact ⟨by simp, rfl, rfl⟩

namespace Node

/-! ## Tidy nodes -/

/-- Whether a node is a text. -/
def isText : Node → Bool
  | .text _ => true
  | .element _ _ => false

/-- The lists of siblings at all depths: the nodes themselves and the children of every element. -/
inductive Siblings (nodes : List Node) : List Node → Prop where
  | top : Siblings nodes nodes
  | inside {siblings children : List Node} {e : Element} :
    Siblings nodes siblings → .element e children ∈ siblings → Siblings nodes children

/-- No text is empty, no two texts stand side by side, and all elements are of a kind. -/
structure TidySiblings (kind : Element → Prop) (siblings : List Node) : Prop where
  nonempty : .text [] ∉ siblings
  apart : siblings.IsChain fun a b => ¬ (a.isText ∧ b.isText)
  elements : ∀ e children, .element e children ∈ siblings → kind e

/-- Nodes are tidy if the siblings at every depth are. -/
def Tidy (kind : Element → Prop) (nodes : List Node) : Prop :=
  ∀ siblings, Siblings nodes siblings → TidySiblings kind siblings

/-- Nodes are normal if they are tidy and no element is a line break. -/
def Normal (nodes : List Node) : Prop := Tidy (fun e => e.isLineBreak = false) nodes

/-- Whether the first of some siblings is a text. -/
def startsWithText (siblings : List Node) : Bool := siblings.head?.any isText

variable {kind : Element → Prop}

/-- What stands below a descendant stands below the nodes. -/
lemma Siblings.trans {nodes children siblings : List Node} (outer : Siblings nodes children)
    (inner : Siblings children siblings) : Siblings nodes siblings := by
  induction inner with
  | top => exact outer
  | inside _ mem ih => exact .inside ih mem

/-- Nodes are tidy if they are tidy siblings and the children of each are tidy. -/
lemma tidy_iff {nodes : List Node} :
    Tidy kind nodes ↔ TidySiblings kind nodes ∧
      ∀ e children, .element e children ∈ nodes → Tidy kind children := by
  constructor
  · intro tidy
    refine ⟨tidy nodes .top, fun e children mem siblings inner => ?_⟩
    exact tidy siblings (Siblings.trans (.inside .top mem) inner)
  · rintro ⟨here, below⟩ siblings found
    -- siblings at some depth are the nodes themselves or belong to the children of one of them
    have placed : siblings = nodes ∨
        ∃ e children, .element e children ∈ nodes ∧ Siblings children siblings := by
      induction found with
      | top => exact .inl rfl
      | @inside siblings children e _ mem ih =>
        rcases ih with rfl | ⟨d, outer, hd, inner⟩
        · exact .inr ⟨e, children, mem, .top⟩
        · exact .inr ⟨d, outer, hd, .inside inner mem⟩
    rcases placed with rfl | ⟨e, children, mem, inner⟩
    · exact here
    · exact below e children mem siblings inner

/-- No nodes are tidy. -/
@[simp] lemma tidy_nil : Tidy kind [] := tidy_iff.2 ⟨⟨by simp, .nil, by simp⟩, by simp⟩

/-- A text before tidy nodes is tidy if it has characters and no text follows. -/
@[simp] lemma tidy_text_cons {t : Text} {nodes : List Node} :
    Tidy kind (.text t :: nodes) ↔ t ≠ [] ∧ startsWithText nodes = false ∧ Tidy kind nodes := by
  have apart : (Node.text t :: nodes).IsChain (fun a b => ¬ (a.isText ∧ b.isText)) ↔
      startsWithText nodes = false ∧ nodes.IsChain fun a b => ¬ (a.isText ∧ b.isText) := by
    cases nodes <;> simp [startsWithText, isText]
  rw [tidy_iff, tidy_iff]
  constructor
  · rintro ⟨⟨nonempty, chain, elements⟩, below⟩
    obtain ⟨first, chain⟩ := apart.1 chain
    refine ⟨?_, first, ⟨fun h => nonempty (List.mem_cons_of_mem _ h), chain, ?_⟩, ?_⟩
    · rintro rfl
      exact nonempty List.mem_cons_self
    · exact fun e children mem => elements e children (List.mem_cons_of_mem _ mem)
    · exact fun e children mem => below e children (List.mem_cons_of_mem _ mem)
  · rintro ⟨some, first, ⟨nonempty, chain, elements⟩, below⟩
    refine ⟨⟨?_, apart.2 ⟨first, chain⟩, ?_⟩, ?_⟩
    · simpa [some.symm] using nonempty
    · simpa using elements
    · simpa using below

/-- An element before tidy nodes is tidy if it is of the kind and its children are tidy. -/
@[simp] lemma tidy_element_cons {e : Element} {children nodes : List Node} :
    Tidy kind (.element e children :: nodes) ↔ kind e ∧ Tidy kind children ∧ Tidy kind nodes := by
  have apart : (Node.element e children :: nodes).IsChain (fun a b => ¬ (a.isText ∧ b.isText)) ↔
      nodes.IsChain fun a b => ¬ (a.isText ∧ b.isText) := by
    cases nodes <;> simp [isText]
  rw [tidy_iff, @tidy_iff kind nodes]
  constructor
  · rintro ⟨⟨nonempty, chain, elements⟩, below⟩
    refine ⟨elements e children List.mem_cons_self, below e children List.mem_cons_self,
      ⟨fun h => nonempty (List.mem_cons_of_mem _ h), apart.1 chain, ?_⟩, ?_⟩
    · exact fun d inner mem => elements d inner (List.mem_cons_of_mem _ mem)
    · exact fun d inner mem => below d inner (List.mem_cons_of_mem _ mem)
  · rintro ⟨he, tidy, ⟨nonempty, chain, elements⟩, below⟩
    refine ⟨⟨by simpa using nonempty, apart.2 chain, fun d inner mem => ?_⟩, fun d inner mem => ?_⟩
    · rcases List.mem_cons.1 mem with same | mem
      · cases same
        exact he
      · exact elements d inner mem
    · rcases List.mem_cons.1 mem with same | mem
      · cases same
        exact tidy
      · exact below d inner mem

/-- Tidiness does not depend on the direction in which siblings are listed. -/
@[simp] lemma tidy_reverse {nodes : List Node} : Tidy kind nodes.reverse ↔ Tidy kind nodes := by
  have apart : nodes.reverse.IsChain (fun a b => ¬ (a.isText ∧ b.isText)) ↔
      nodes.IsChain fun a b => ¬ (a.isText ∧ b.isText) := by
    rw [List.isChain_reverse]
    simp only [and_comm]
  rw [tidy_iff, tidy_iff]
  constructor
  · rintro ⟨⟨nonempty, chain, elements⟩, below⟩
    exact ⟨⟨by simpa using nonempty, apart.1 chain, by simpa using elements⟩, by simpa using below⟩
  · rintro ⟨⟨nonempty, chain, elements⟩, below⟩
    exact ⟨⟨by simpa using nonempty, apart.2 chain, by simpa using elements⟩, by simpa using below⟩

/-! ## Normal nodes are determined by their text and tags -/

/-- Nodes that do not start with a text are none at all or start with a tag. -/
lemma flattenListAt_of_not_startsWithText (br : LineBreak) (offset : Nat) {nodes : List Node}
    (normal : Normal nodes) (first : startsWithText nodes = false) :
    nodes = [] ∨ ∃ e tags, (flattenListAt br offset nodes).tags = .start offset e :: tags := by
  cases nodes with
  | nil => exact .inl rfl
  | cons node nodes =>
    cases node with
    | text t => cases first
    | element e children =>
      have plain := (tidy_element_cons.1 normal).1
      exact .inr ⟨e, _, by simp [flattenListAt, flattenAt, plain]; rfl⟩

/-- Normal nodes that start with a text differ in text or tags from those with an element. -/
lemma flattenListAt_text_ne_element (br : LineBreak) (offset : Nat) {t : Text} {e : Element}
    {bs a b : List Node} (ha : Normal (.text t :: a)) (hb : Normal (.element e bs :: b)) :
    flattenListAt br offset (.text t :: a) ≠ flattenListAt br offset (.element e bs :: b) := by
  obtain ⟨some, first, rest⟩ := tidy_text_cons.1 ha
  have plain := (tidy_element_cons.1 hb).1
  intro same
  have tags := congrArg Flat.tags same
  simp only [flattenListAt, flattenAt, plain, List.nil_append, Bool.false_eq_true, if_false,
    List.cons_append] at tags
  rcases flattenListAt_of_not_startsWithText br (offset + Text.size t) rest first
    with rfl | ⟨d, ds, h⟩
  · cases tags
  · rw [h] at tags
    have size : offset + Text.size t = offset := by
      injection tags with tag
      injection tag
    exact some (Text.size_eq_zero.1 (by omega))

/-- Normal nodes with the same text and tags start with the same text. -/
lemma text_eq_of_flattenListAt_eq {br : LineBreak} {offset : Nat} {t u : Text} {a b : List Node}
    (ha : Normal (.text t :: a)) (hb : Normal (.text u :: b))
    (same : flattenListAt br offset (.text t :: a) = flattenListAt br offset (.text u :: b)) :
    t = u := by
  obtain ⟨_, first_a, rest_a⟩ := tidy_text_cons.1 ha
  obtain ⟨_, first_b, rest_b⟩ := tidy_text_cons.1 hb
  simp only [flattenListAt, flattenAt, List.nil_append, Flat.mk.injEq] at same
  obtain ⟨texts, tags⟩ := same
  -- what follows is nothing or starts with a tag, which stands where the text ends
  rcases flattenListAt_of_not_startsWithText br (offset + Text.size t) rest_a first_a
    with rfl | ⟨d, ds, hd⟩ <;>
  rcases flattenListAt_of_not_startsWithText br (offset + Text.size u) rest_b first_b
    with rfl | ⟨c, cs, hc⟩
  · simpa [flattenListAt] using texts
  · rw [hc] at tags
    cases tags
  · rw [hd] at tags
    cases tags
  · rw [hd, hc] at tags
    have sizes : offset + Text.size t = offset + Text.size u := by
      injection tags with tag
      injection tag
    exact (Text.append_inj_of_size texts (by omega)).1

/-- Two elements at the head of normal nodes with the same text and tags have the same tags. -/
lemma element_eq_of_flattenListAt_eq {br : LineBreak} {offset : Nat} {d e : Element}
    {as bs a b : List Node} (ha : Normal (.element d as :: a)) (hb : Normal (.element e bs :: b))
    (same : flattenListAt br offset (.element d as :: a) =
      flattenListAt br offset (.element e bs :: b)) :
    d = e ∧ flattenListAt br offset as = flattenListAt br offset bs := by
  have plain_d := (tidy_element_cons.1 ha).1
  have plain_e := (tidy_element_cons.1 hb).1
  have closed_as := (wellFormed_flattenListAt br offset as).depth 0
  have closed_bs := (wellFormed_flattenListAt br offset bs).depth 0
  simp only [flattenListAt, flattenAt, plain_d, plain_e, Bool.false_eq_true, if_false,
    List.cons_append, List.append_assoc, List.nil_append, Flat.mk.injEq, List.cons.injEq,
    Tag.start.injEq, true_and] at same
  obtain ⟨texts, rfl, tags⟩ := same
  obtain ⟨inner, sizes, -⟩ := Tag.append_stop_inj closed_as closed_bs tags
  obtain ⟨text, -⟩ := Text.append_inj_of_size texts (by omega)
  refine ⟨rfl, ?_⟩
  generalize flattenListAt br offset as = f at text inner
  generalize flattenListAt br offset bs = g at text inner
  cases f
  cases g
  simp_all

/-- What equal nodes are followed by has the same text and tags if all of it has. -/
lemma flattenListAt_tail_eq {br : LineBreak} {offset : Nat} {node : Node} {a b : List Node}
    (same : flattenListAt br offset (node :: a) = flattenListAt br offset (node :: b)) :
    flattenListAt br (offset + Text.size (node.flattenAt br offset).text) a =
      flattenListAt br (offset + Text.size (node.flattenAt br offset).text) b := by
  simp only [flattenListAt, Flat.mk.injEq] at same
  exact congrArg₂ Flat.mk (List.append_cancel_left same.1) (List.append_cancel_left same.2)

/-- Normal nodes with the same text and tags are equal. -/
theorem eq_of_flattenListAt_eq (br : LineBreak) (offset : Nat) (a b : List Node) (ha : Normal a)
    (hb : Normal b) (same : flattenListAt br offset a = flattenListAt br offset b) : a = b := by
  match a, b with
  | [], [] => rfl
  | [], .text u :: b =>
    have text := congrArg Flat.text same
    simp [flattenListAt, flattenAt, (tidy_text_cons.1 hb).1] at text
  | .text t :: a, [] =>
    have text := congrArg Flat.text same
    simp [flattenListAt, flattenAt, (tidy_text_cons.1 ha).1] at text
  | [], .element e bs :: b =>
    have tags := congrArg Flat.tags same
    simp [flattenListAt, flattenAt, (tidy_element_cons.1 hb).1] at tags
  | .element d as :: a, [] =>
    have tags := congrArg Flat.tags same
    simp [flattenListAt, flattenAt, (tidy_element_cons.1 ha).1] at tags
  | .text t :: a, .element e bs :: b =>
    exact absurd same (flattenListAt_text_ne_element br offset ha hb)
  | .element d as :: a, .text u :: b =>
    exact absurd same.symm (flattenListAt_text_ne_element br offset hb ha)
  | .text t :: a, .text u :: b =>
    obtain rfl := text_eq_of_flattenListAt_eq ha hb same
    have rest := eq_of_flattenListAt_eq br _ a b (tidy_text_cons.1 ha).2.2 (tidy_text_cons.1 hb).2.2
      (flattenListAt_tail_eq same)
    rw [rest]
  | .element d as :: a, .element e bs :: b =>
    obtain ⟨rfl, inner⟩ := element_eq_of_flattenListAt_eq ha hb same
    obtain ⟨_, normal_as, normal_a⟩ := tidy_element_cons.1 ha
    obtain ⟨_, normal_bs, normal_b⟩ := tidy_element_cons.1 hb
    obtain rfl := eq_of_flattenListAt_eq br offset as bs normal_as normal_bs inner
    have rest := eq_of_flattenListAt_eq br _ a b normal_a normal_b (flattenListAt_tail_eq same)
    rw [rest]

/-! ## Normalization -/

/-- A node before its next siblings: an empty text is dropped, and a text is joined to a text. -/
def before : Node → List Node → List Node
  | .text [], siblings => siblings
  | .text t, .text u :: siblings => .text (t ++ u) :: siblings
  | node, siblings => node :: siblings

mutual
/-- A node with normal children; a line break becomes the text of one. -/
def normalize (br : LineBreak) : Node → Node
  | .text t => .text t
  | .element e children =>
    if e.isLineBreak then .text br.toText else .element e (normalizeList br children)

/-- Nodes with line breaks as texts, empty texts dropped and neighbouring texts joined. -/
def normalizeList (br : LineBreak) : List Node → List Node
  | [] => []
  | node :: nodes => (node.normalize br).before (normalizeList br nodes)
end

/-- What is dropped and joined makes no difference to text and tags. -/
lemma flattenListAt_before (br : LineBreak) (offset : Nat) (node : Node) (siblings : List Node) :
    flattenListAt br offset (node.before siblings)
      = flattenListAt br offset (node :: siblings) := by
  fun_cases before node siblings with
  | case1 => simp [flattenListAt, flattenAt]
  | case2 t u siblings => simp [flattenListAt, flattenAt, Nat.add_assoc]
  | case3 => rfl

mutual

/-- Normalizing a node changes neither its text nor its tags. -/
lemma flattenAt_normalize (br : LineBreak) (offset : Nat) (node : Node) :
    (node.normalize br).flattenAt br offset = node.flattenAt br offset := by
  cases node with
  | text t => rw [normalize]
  | element e children =>
    rw [normalize]
    split
    · next broken => simp [flattenAt, broken]
    · next plain => simp [flattenAt, plain, flattenListAt_normalizeList br offset children]

/-- Normalized nodes have the same text and tags. -/
lemma flattenListAt_normalizeList (br : LineBreak) (offset : Nat) (nodes : List Node) :
    flattenListAt br offset (normalizeList br nodes) = flattenListAt br offset nodes := by
  cases nodes with
  | nil => rfl
  | cons node nodes =>
    rw [normalizeList, flattenListAt_before, flattenListAt, flattenListAt,
      flattenAt_normalize br offset node, flattenListAt_normalizeList br _ nodes]
end

/-- Tidy siblings stay tidy with a text put before them. -/
lemma Tidy.text_before {siblings : List Node} (tidy : Tidy kind siblings) (t : Text) :
    Tidy kind ((Node.text t).before siblings) := by
  cases t with
  | nil => exact tidy
  | cons c t =>
    cases siblings with
    | nil => exact tidy_text_cons.2 ⟨by simp, rfl, tidy⟩
    | cons node siblings =>
      cases node with
      | text u =>
        obtain ⟨_, first, rest⟩ := tidy_text_cons.1 tidy
        exact tidy_text_cons.2 ⟨by simp, first, rest⟩
      | element e children => exact tidy_text_cons.2 ⟨by simp, rfl, tidy⟩

/-- Normalized nodes are normal. -/
theorem normal_normalizeList (br : LineBreak) (nodes : List Node) :
    Normal (normalizeList br nodes) := by
  match nodes with
  | [] => exact tidy_nil
  | .text t :: nodes => exact (normal_normalizeList br nodes).text_before t
  | .element e children :: nodes =>
    have rest := normal_normalizeList br nodes
    rw [normalizeList, normalize]
    split
    · exact rest.text_before br.toText
    · next plain =>
      have inner := normal_normalizeList br children
      exact tidy_element_cons.2 ⟨by simpa using plain, inner, rest⟩

/-- Normal nodes stay as they are. -/
theorem normalizeList_eq_self (br : LineBreak) {nodes : List Node} (normal : Normal nodes) :
    normalizeList br nodes = nodes :=
  eq_of_flattenListAt_eq br 0 _ _ (normal_normalizeList br nodes) normal
    (flattenListAt_normalizeList br 0 nodes)

end Node

end Highlighter
