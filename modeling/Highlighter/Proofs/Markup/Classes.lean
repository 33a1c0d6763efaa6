import Mathlib.Tactic.Lemma
import Highlighter.Markup.Element

/-!
# Adding classes

The classes of an element are the words of a text, and adding a class joins them anew and appends
it. Words come back from a text that was joined by spaces, whatever stood between them before
(`Text.words_unwords_concat`), so a class that is not there yet extends the list of classes at its
end by the words of what was added (`Element.classes_addClass_of_new`). Without white space these
are one class, and it is found again when it is added in any case of its letters. The main result
is `Element.addClass_extends_classes`.
-/

namespace Highlighter

/-! ## Words of a text -/

namespace Text

/-- What stands between white space, as far as it is not empty. -/
def parts (t : Text) : List Text := (t.splitOnP isBlank).filter fun w => !w.isEmpty

/-- No character of the text is white space. -/
def Unbroken (t : Text) : Prop := ∀ c ∈ t, isBlank c = false

instance (t : Text) : Decidable (Unbroken t) :=
  decidable_of_iff (t.all (fun c => !isBlank c) = true) (by simp [Unbroken])

/-- Collecting words is splitting at blanks and leaving out what is empty. -/
lemma wordsFrom_eq (word t : Text) :
    wordsFrom word t = (t.splitOnPPrepend isBlank word).filter fun w => !w.isEmpty := by
  induction t generalizing word with
  | nil => cases word <;> simp [wordsFrom]
  | cons c t ih =>
    cases blank : isBlank c with
    | true =>
      have others := ih []
      rw [List.splitOnPPrepend_nil_right] at others
      rw [wordsFrom, if_pos blank, List.splitOnPPrepend_cons_pos blank, others]
      cases word <;> simp
    | false =>
      rw [wordsFrom, blank, List.splitOnPPrepend_cons_neg blank]
      exact ih (c :: word)

/-- The words of a text are its parts. -/
lemma words_eq_parts (t : Text) : words t = parts t := wordsFrom_eq [] t

/-- A blank separates the words before it from those behind it. -/
lemma words_append_cons {c : Char} (blank : isBlank c) (s t : Text) :
    words (s ++ c :: t) = words s ++ words t := by
  rw [words_eq_parts, words_eq_parts, words_eq_parts, parts, List.splitOnP_append_cons s t blank,
    List.filter_append]
  rfl

/-- A text without blanks is a single word. -/
lemma Unbroken.words_eq_singleton {w : Text} (unbroken : Unbroken w) (some : w ≠ []) :
    words w = [w] := by
  rw [words_eq_parts, parts, List.splitOnP_eq_singleton unbroken]
  simpa using some

/-- The empty text has no blanks. -/
lemma unbroken_nil : Unbroken [] := fun _ hc => absurd hc List.not_mem_nil

/-- The order of the characters does not matter. -/
lemma Unbroken.reverse {w : Text} (unbroken : Unbroken w) : Unbroken w.reverse :=
  fun c hc => unbroken c (List.mem_reverse.1 hc)

/-- Collected words are not empty and have no blanks, if the one begun has none. -/
lemma of_mem_wordsFrom {word t w : Text} (unbroken : Unbroken word) (h : w ∈ wordsFrom word t) :
    w ≠ [] ∧ Unbroken w := by
  fun_induction wordsFrom word t with
  | case1 word empty => cases h
  | case2 word some =>
    cases List.mem_singleton.1 h
    exact ⟨by simpa using some, unbroken.reverse⟩
  | case3 word c t blank empty ih => exact ih unbroken_nil h
  | case4 word c t blank some ih =>
    cases List.mem_cons.1 h with
    | inl here =>
      rw [here]
      exact ⟨by simpa using some, unbroken.reverse⟩
    | inr behind => exact ih unbroken_nil behind
  | case5 word c t letter ih =>
    have letter : isBlank c = false := by simpa using letter
    exact ih (List.forall_mem_cons.2 ⟨letter, unbroken⟩) h

/-- Words are not empty and have no blanks. -/
lemma of_mem_words {t w : Text} (h : w ∈ words t) : w ≠ [] ∧ Unbroken w :=
  of_mem_wordsFrom unbroken_nil h

/-- Words that are joined with a text behind them are read back, and then the words of the text. -/
lemma words_unwords_concat {ws : List Text} (h : ∀ w ∈ ws, w ≠ [] ∧ Unbroken w) (t : Text) :
    words (unwords (ws ++ [t])) = ws ++ words t := by
  induction ws with
  | nil =>
    rw [List.nil_append, unwords, List.intercalate_singleton]
    rfl
  | cons w ws ih =>
    obtain ⟨⟨some, unbroken⟩, others⟩ := List.forall_mem_cons.1 h
    have more : ws ++ [t] ≠ [] := List.append_ne_nil_of_right_ne_nil ws (List.cons_ne_nil t [])
    -- the space behind `w` is white space, so words are read on both sides of it
    rw [List.cons_append, unwords, List.intercalate_cons_of_ne_nil more, List.append_assoc,
      List.singleton_append, words_append_cons (by decide), unbroken.words_eq_singleton some]
    exact congrArg (w :: ·) (ih others)

/-- Texts are equal but for case if they are equal in lower case. -/
lemma eqIgnoreCase_iff {s t : Text} :
    eqIgnoreCase s t = true ↔ s.map Char.toLower = t.map Char.toLower := by
  rw [eqIgnoreCase, beq_iff_eq]

end Text

/-! ## What adding a class does -/

namespace Element

variable {e : Element} {c : String}

/-- An element has a class if one of its classes equals it but for case. -/
lemma hasClass_iff : e.hasClass c = true ↔ ∃ w ∈ e.classes, Text.eqIgnoreCase w c.toList :=
  List.any_eq_true

/-- A class that is known or empty is not added. -/
lemma addClass_of_known (known : c = "" ∨ e.hasClass c = true) : e.addClass c = e := by
  rw [addClass, if_pos]
  cases known with
  | inl empty => rw [empty]; rfl
  | inr here => rw [here, Bool.or_true]

/-- A new class is written behind the others. -/
lemma addClass_of_new (some : c ≠ "") (new : ¬ e.hasClass c = true) :
    e.addClass c = e.set "class" (String.ofList (Text.unwords (e.classes ++ [c.toList]))) := by
  rw [addClass, if_neg]
  rw [Bool.or_eq_true, String.isEmpty_iff]
  exact not_or.2 ⟨some, new⟩

/-- The classes are the words of the attribute. -/
lemma classes_set_class (e : Element) (t : Text) :
    (e.set "class" (String.ofList t)).classes = Text.words t := by
  rw [classes, get?, set, Attributes.get?_set, if_pos rfl, Option.getD_some, String.toList_ofList]

/-- A class that is not there yet is read back behind the others, word by word. -/
lemma classes_addClass_of_new (some : c ≠ "") (new : ¬ e.hasClass c = true) :
    (e.addClass c).classes = e.classes ++ Text.words c.toList := by
  rw [addClass_of_new some new, classes_set_class]
  exact Text.words_unwords_concat (fun _ hw => Text.of_mem_words hw) c.toList

/-- A new class without blanks becomes the last one. -/
lemma classes_addClass_of_unbroken (unbroken : Text.Unbroken c.toList) (some : c ≠ "")
    (new : ¬ e.hasClass c = true) : (e.addClass c).classes = e.classes ++ [c.toList] := by
  have letters : c.toList ≠ [] := mt String.toList_eq_nil_iff.1 some
  rw [classes_addClass_of_new some new, unbroken.words_eq_singleton letters]

/-- Without white space a class is there once it was added, if it is not empty. -/
lemma hasClass_addClass (unbroken : Text.Unbroken c.toList) (some : c ≠ "") :
    (e.addClass c).hasClass c = true := by
  by_cases here : e.hasClass c = true
  · rw [addClass_of_known (.inr here)]
    exact here
  · rw [hasClass_iff, classes_addClass_of_unbroken unbroken some here]
    exact ⟨c.toList, List.mem_append_right _ List.mem_cons_self, Text.eqIgnoreCase_iff.2 rfl⟩

/-- A class without white space is known in any case of its letters once it was added. -/
lemma addClass_addClass_variant {variant : String} (unbroken : Text.Unbroken c.toList)
    (same : Text.eqIgnoreCase variant.toList c.toList = true) :
    (e.addClass c).addClass variant = e.addClass c := by
  apply addClass_of_known
  rw [Text.eqIgnoreCase_iff] at same
  by_cases empty : c = ""
  · -- then the variant is empty as well
    rw [empty] at same
    exact .inl (String.toList_eq_nil_iff.1 (List.map_eq_nil_iff.1 same))
  · obtain ⟨w, hw, here⟩ := hasClass_iff.1 (hasClass_addClass (e := e) unbroken empty)
    rw [Text.eqIgnoreCase_iff] at here
    exact .inr (hasClass_iff.2 ⟨w, hw, Text.eqIgnoreCase_iff.2 (here.trans same.symm)⟩)

/-! ## Sequences of additions -/

/-- No two classes are equal up to the case of ASCII letters. -/
def DistinctClasses (e : Element) : Prop :=
  e.classes.Pairwise fun v w => Text.eqIgnoreCase v w = false

instance (e : Element) : Decidable e.DistinctClasses :=
  inferInstanceAs (Decidable (e.classes.Pairwise fun v w => Text.eqIgnoreCase v w = false))

/-- Adding a class keeps the classes distinct. -/
lemma DistinctClasses.addClass (distinct : e.DistinctClasses) (unbroken : Text.Unbroken c.toList) :
    (e.addClass c).DistinctClasses := by
  by_cases known : c = "" ∨ e.hasClass c = true
  · rw [addClass_of_known known]
    exact distinct
  · obtain ⟨some, new⟩ := not_or.1 known
    rw [DistinctClasses, classes_addClass_of_unbroken unbroken some new]
    refine List.pairwise_append.2 ⟨distinct, List.pairwise_singleton _ _, fun v hv w hw => ?_⟩
    rw [List.mem_singleton.1 hw]
    -- a class equal to the new one up to case would have kept it out
    exact Bool.eq_false_iff.2 fun same => new (hasClass_iff.2 ⟨v, hv, same⟩)

/-- So does adding classes one by one. -/
lemma DistinctClasses.foldl_addClass {cs : List String} (distinct : e.DistinctClasses)
    (unbroken : ∀ c ∈ cs, Text.Unbroken c.toList) :
    (cs.foldl Element.addClass e).DistinctClasses := by
  induction cs generalizing e with
  | nil => exact distinct
  | cons c cs ih =>
    obtain ⟨first, others⟩ := List.forall_mem_cons.1 unbroken
    exact ih (distinct.addClass first) others

/--
Classes are the parts of the class attribute between white space. Adding nothing, or a class that is
there in some case of its letters, changes nothing. Anything else changes the class attribute alone
and puts its own parts behind the classes. So a class without white space is added once, in whatever
case it comes again, and classes that differ by more than case do so after any number of such
additions.
-/
theorem addClass_extends_classes (e : Element) (c : String) :
    e.classes = Text.parts ((e.get? "class").getD "").toList ∧
    (c = "" ∨ (∃ w ∈ e.classes, Text.eqIgnoreCase w c.toList) → e.addClass c = e) ∧
    (¬ (c = "" ∨ ∃ w ∈ e.classes, Text.eqIgnoreCase w c.toList) →
      (e.addClass c).name = e.name ∧
      (∀ name ≠ "class", (e.addClass c).get? name = e.get? name) ∧
      (e.addClass c).classes = e.classes ++ Text.parts c.toList) ∧
    (Text.Unbroken c.toList →
      (e.addClass c).addClass c = e.addClass c ∧
      ∀ variant : String, Text.eqIgnoreCase variant.toList c.toList →
        (e.addClass c).addClass variant = e.addClass c) ∧
    (e.DistinctClasses → ∀ cs : List String, (∀ c ∈ cs, Text.Unbroken c.toList) →
      (cs.foldl addClass e).DistinctClasses) := by
  rw [← hasClass_iff, ← Text.words_eq_parts, ← Text.words_eq_parts]
  refine ⟨rfl, addClass_of_known, fun new => ?_, fun unbroken => ⟨?_, fun variant same => ?_⟩,
    fun distinct cs unbroken => distinct.foldl_addClass unbroken⟩
  · obtain ⟨some, new⟩ := not_or.1 new
    refine ⟨?_, fun name other => ?_, classes_addClass_of_new some new⟩
    · rw [addClass_of_new some new]
      rfl
    · rw [addClass_of_new some new, get?, set, Attributes.get?_set, if_neg other]
      rfl
  · exact addClass_addClass_variant unbroken (Text.eqIgnoreCase_iff.2 rfl)
  · exact addClass_addClass_variant unbroken same

/-- White space of several kinds around and between two classes. -/
def listing : Element := ⟨"pre", .ofList [("class", "\u3000code\u00a0 Listing\t"), ("id", "x")]⟩

/-- A known class in another case, two classes at once, and a sequence with repetitions. -/
theorem addClass_extends_classes_listing :
    listing.addClass "LISTING" = listing ∧
    (listing.addClass "a\u2003b").classes
      = ["code".toList, "Listing".toList, ['a'], ['b']] ∧
    (listing.addClass "a\u2003b").get? "id" = some "x" ∧
    (listing.addClass "sh").addClass "SH" = listing.addClass "sh" ∧
    listing.DistinctClasses ∧
    (["sh", "CODE", "", "Sh", "x"].foldl addClass listing).DistinctClasses := by
  obtain ⟨-, known, -, -, sequence⟩ := addClass_extends_classes listing "LISTING"
  obtain ⟨-, -, new, -⟩ := addClass_extends_classes listing "a\u2003b"
  obtain ⟨-, -, -, variant, -⟩ := addClass_extends_classes listing "sh"
  obtain ⟨-, others, classes⟩ := new (by decide +kernel)
  have distinct : listing.DistinctClasses := by decide +kernel
  refine ⟨known (.inr (by decide +kernel)), classes.trans (by decide +kernel),
    (others "id" (by decide)).trans (by decide +kernel), ?_, distinct, sequence distinct _ ?_⟩
  · exact (variant (by decide +kernel)).2 "SH" (by decide +kernel)
  · decide +kernel

end Element

end Highlighter
