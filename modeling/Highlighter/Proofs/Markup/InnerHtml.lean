import Mathlib.Tactic.Lemma
import Highlighter.Markup.Html

/-!
# An element and its children as HTML

The children of an element are written in two ways: between its tags, where the text directly inside
a raw element stays as it is, and without its tags, where such text is escaped. Only the texts among
the children tell the two apart, as the place of anything deeper is settled by its own parent.
Escaping never makes a text shorter, so both agree just if none of these texts has anything to
escape. The main result is `outer_eq_tags_inner_iff`.
-/

namespace Highlighter.Html

/-! ## Texts without anything to escape -/

/-- Whether a character of a text is escaped. -/
def isSpecial (c : Char) : Bool := c = '&' || c = '<' || c = '>' || c = Char.ofNat 0xA0

/-- A character that is not special stays as it is. -/
lemma escapeChar_eq {c : Char} (plain : isSpecial c = false) : escapeChar c = [c] := by
  simp only [isSpecial, Bool.or_eq_false_iff, decide_eq_false_iff_not] at plain
  obtain ⟨⟨⟨amp, lt⟩, gt⟩, space⟩ := plain
  rw [escapeChar, if_neg amp, if_neg lt, if_neg gt, if_neg space]

/-- A special character gets longer. -/
lemma one_lt_length_escapeChar {c : Char} (special : isSpecial c = true) :
    1 < (escapeChar c).length := by
  unfold escapeChar
  split
  · decide
  · split
    · decide
    · split
      · decide
      · split
        · decide
        · simp_all [isSpecial]

/-- No character gets lost. -/
lemma one_le_length_escapeChar (c : Char) : 1 ≤ (escapeChar c).length := by
  cases special : isSpecial c with
  | false => exact Nat.le_of_eq (congrArg List.length (escapeChar_eq special)).symm
  | true => exact Nat.le_of_lt (one_lt_length_escapeChar special)

/-- A text is escaped character by character. -/
lemma escape_cons (c : Char) (t : Text) : escape (c :: t) = escapeChar c ++ escape t :=
  List.flatMap_cons

/-- Escaping never shortens a text. -/
lemma length_le_length_escape (t : Text) : t.length ≤ (escape t).length := by
  induction t with
  | nil => exact Nat.le_refl 0
  | cons c t ih =>
    have first := one_le_length_escapeChar c
    rw [escape_cons, List.length_append, List.length_cons]
    omega

/-- A text stays as it is just if no character is special. -/
lemma escape_eq_self_iff {t : Text} : escape t = t ↔ ∀ c ∈ t, isSpecial c = false := by
  induction t with
  | nil => simp [escape]
  | cons c t ih =>
    rw [escape_cons, List.forall_mem_cons, ← ih]
    constructor
    · intro same
      have lengths := congrArg List.length same
      have rest := length_le_length_escape t
      rw [List.length_append, List.length_cons] at lengths
      cases special : isSpecial c with
      | true =>
        have longer := one_lt_length_escapeChar special
        omega
      | false =>
        rw [escapeChar_eq special] at same
        exact ⟨rfl, (List.cons.inj same).2⟩
    · rintro ⟨plain, rest⟩
      rw [escapeChar_eq plain, rest]
      rfl

/-! ## The two places of children -/

/-- The place of an element does not depend on whether text beside it is raw. -/
lemma node_element (raw raw' void : Bool) (e : Element) (children : List Node) :
    node ⟨raw, void⟩ (.element e children) = node ⟨raw', void⟩ (.element e children) := by
  rw [node, node]
  rfl

/-- A node gets no shorter by being escaped. -/
lemma length_node_le (void : Bool) (n : Node) :
    (node ⟨true, void⟩ n).length ≤ (node ⟨false, void⟩ n).length := by
  cases n with
  | text t => exact length_le_length_escape t
  | element e children => exact Nat.le_of_eq (congrArg List.length (node_element ..))

/-- Nor do nodes. -/
lemma length_nodes_le (void : Bool) (ns : List Node) :
    (nodes ⟨true, void⟩ ns).length ≤ (nodes ⟨false, void⟩ ns).length := by
  induction ns with
  | nil => exact Nat.le_refl _
  | cons n ns ih =>
    rw [nodes, nodes, List.length_append, List.length_append]
    exact Nat.add_le_add (length_node_le void n) ih

/-- Siblings are the same in both places just if the first is and the others are. -/
lemma nodes_cons_eq_iff (void : Bool) (n : Node) (ns : List Node) :
    nodes ⟨true, void⟩ (n :: ns) = nodes ⟨false, void⟩ (n :: ns) ↔
      node ⟨true, void⟩ n = node ⟨false, void⟩ n ∧
        nodes ⟨true, void⟩ ns = nodes ⟨false, void⟩ ns := by
  rw [nodes, nodes]
  constructor
  · -- neither part is longer in the raw place, so none is shorter there either
    intro same
    have lengths := congrArg List.length same
    have first := length_node_le void n
    have rest := length_nodes_le void ns
    rw [List.length_append, List.length_append] at lengths
    exact List.append_inj same (by omega)
  · rintro ⟨first, rest⟩
    rw [first, rest]

/-- Nodes are the same raw and escaped just if no text among them has special characters. -/
lemma nodes_raw_eq_iff (void : Bool) (ns : List Node) :
    nodes ⟨true, void⟩ ns = nodes ⟨false, void⟩ ns ↔
      ∀ t, .text t ∈ ns → ∀ c ∈ t, isSpecial c = false := by
  induction ns with
  | nil => simp [nodes]
  | cons n ns ih =>
    rw [nodes_cons_eq_iff, ih]
    cases n with
    | text t =>
      have here : node ⟨true, void⟩ (.text t) = node ⟨false, void⟩ (.text t) ↔ escape t = t :=
        eq_comm
      rw [here, escape_eq_self_iff]
      simp only [List.mem_cons, Node.text.injEq, forall_eq_or_imp]
    | element e children =>
      have here := node_element true false void e children
      simp [here]

/-- The children of an element that has an end tag stand between its tags, at their own place. -/
lemma outer_eq {e : ElementNode} (ends : isVoid e.element = false) :
    outer e
      = startTag e.element ++ nodes ⟨isRaw e.element, false⟩ e.children ++ endTag e.element := by
  rw [outer, ElementNode.toNode, node]
  simp [ends, Place.below]

/--
An element that has an end tag is written as its start tag, its inner HTML and its end tag, if and
only if its text is not raw or there is nothing to escape in the texts among its children.
-/
theorem outer_eq_tags_inner_iff {e : ElementNode} (ends : isVoid e.element = false) :
    outer e = startTag e.element ++ inner e ++ endTag e.element ↔
      (isRaw e.element = true → ∀ t, .text t ∈ e.children →
        ∀ c ∈ t, c ≠ '&' ∧ c ≠ '<' ∧ c ≠ '>' ∧ c ≠ Char.ofNat 0xA0) := by
  have plain : ∀ c, isSpecial c = false ↔ c ≠ '&' ∧ c ≠ '<' ∧ c ≠ '>' ∧ c ≠ Char.ofNat 0xA0 := by
    intro c
    simp only [isSpecial, Bool.or_eq_false_iff, decide_eq_false_iff_not, and_assoc]
  rw [outer_eq ends, List.append_left_inj, List.append_right_inj, inner, fragment]
  cases raw : isRaw e.element with
  | false => simp
  | true =>
    simp only [nodes_raw_eq_iff, plain, forall_const]

/-- The text of the script is the same in both places, and what stands deeper is escaped in both. -/
theorem outer_eq_tags_inner_iff_harmless :
    let script : ElementNode := ⟨⟨"SCRIPT", Attributes.empty.set "id" "\""⟩,
      [.text ['a', '=', 'b'], .element ⟨"i", .empty⟩ [.text ['<']]]⟩
    isVoid script.element = false ∧ isRaw script.element = true ∧
      outer script = startTag script.element ++ inner script ++ endTag script.element ∧
      outer script = "<script id=\"&quot;\">a=b<i>&lt;</i></script>".toList := by
  intro script
  have ends : isVoid script.element = false := by decide
  refine ⟨ends, by decide, (outer_eq_tags_inner_iff ends).2 fun _ t mem c here => ?_, by decide⟩
  rcases List.mem_cons.1 mem with same | mem
  · cases same
    simp only [List.mem_cons, List.not_mem_nil, or_false] at here
    obtain rfl | rfl | rfl := here
    all_goals decide
  · cases List.mem_singleton.1 mem

/-- A less-than sign in a script is written as it is between the tags, and escaped without them. -/
theorem inner_escapes_script :
    let script : ElementNode := ⟨⟨"script", .empty⟩, [.text ['a', '<', 'b']]⟩
    isVoid script.element = false ∧ outer script = "<script>a<b</script>".toList ∧
      inner script = "a&lt;b".toList ∧
      outer script ≠ startTag script.element ++ inner script ++ endTag script.element := by
  decide

end Highlighter.Html
