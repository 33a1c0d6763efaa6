import Mathlib
import Highlighter.Markup.Html
import Highlighter.Proofs.Markup.Normal

/-!
# Reading HTML back

A reader of HTML that knows nothing of how it was written: a scanner takes it apart into characters
and tags, where a tag ends at the first `>` outside of double quotes, and `decode` replaces the
references to characters. What is written for nodes whose elements are simple, that is named `pre`,
`span` or `a` and without attributes other than `class` and `href`, shows their text: the characters
outside of tags decode to it, and the tags are nested marks of simple elements (`shows_outer`).
-/

namespace Highlighter.Html

/-! ## The reader -/

/-- What HTML consists of: characters, and tags without their angle brackets. -/
inductive Lexeme where
  | char (c : Char)
  | tag (body : List Char)
  deriving DecidableEq, Repr

/-- A tag whose end is not read yet, inside of a quoted value or not. -/
structure Opened where
  quoted : Bool := false
  body : List Char := []

/-- Reads on, outside of tags or in a tag. There is no answer if a tag does not end. -/
def lexFrom : Option Opened → List Char → Option (List Lexeme)
  | none, [] => some []
  | some _, [] => none
  | none, c :: cs =>
    if c = '<' then lexFrom (some {}) cs else (.char c :: ·) <$> lexFrom none cs
  | some t, c :: cs =>
    if c = '>' ∧ t.quoted = false then (.tag t.body :: ·) <$> lexFrom none cs
    else lexFrom (some ⟨t.quoted ^^ (c = '"'), t.body ++ [c]⟩) cs

/-- Takes HTML apart. -/
def lex (html : List Char) : Option (List Lexeme) := lexFrom none html

/-- A character outside of tags. -/
def Lexeme.char? : Lexeme → Option Char
  | char c => some c
  | tag _ => none

/-- The body of a tag. -/
def Lexeme.tag? : Lexeme → Option (List Char)
  | char _ => none
  | tag body => some body

/-- HTML without its tags. -/
def deleteTags (html : List Char) : Option (List Char) :=
  (lex html).map (·.filterMap Lexeme.char?)

/-- The tags of HTML in their order, without their angle brackets. -/
def tags (html : List Char) : Option (List (List Char)) :=
  (lex html).map (·.filterMap Lexeme.tag?)

/-- Replaces references to characters. -/
def decode : List Char → List Char
  | '&' :: 'a' :: 'm' :: 'p' :: ';' :: cs => '&' :: decode cs
  | '&' :: 'l' :: 't' :: ';' :: cs => '<' :: decode cs
  | '&' :: 'g' :: 't' :: ';' :: cs => '>' :: decode cs
  | '&' :: 'n' :: 'b' :: 's' :: 'p' :: ';' :: cs => Char.ofNat 0xA0 :: decode cs
  | c :: cs => c :: decode cs
  | [] => []

/-- The start or the end of an element, with the values of attributes as they are written. -/
inductive Mark where
  | start (name : String) (attributes : List (String × List Char))
  | stop (name : String)
  deriving DecidableEq, Repr

namespace Mark

/-- How a mark is written between angle brackets. -/
def body : Mark → List Char
  | start name attributes =>
    name.toList ++ attributes.flatMap fun p => ' ' :: p.1.toList ++ "=\"".toList ++ p.2 ++ ['"']
  | stop name => '/' :: name.toList

/-- Whether marks close what they open and all that is open, the innermost first. -/
def nested : List String → List Mark → Bool
  | opened, [] => opened.isEmpty
  | opened, start name _ :: marks => nested (name :: opened) marks
  | [], stop _ :: _ => false
  | innermost :: opened, stop name :: marks => innermost = name && nested opened marks

end Mark

/-- The elements that highlighting uses. -/
def simpleNames : List String := ["pre", "span", "a"]

/-- The attributes that highlighting uses. -/
def simpleAttributes : List String := ["class", "href"]

/-- A mark of an element that highlighting uses, none of whose values ends before its quote. -/
def Mark.isSimple : Mark → Bool
  | start name attributes =>
    simpleNames.contains name &&
      attributes.all fun p => simpleAttributes.contains p.1 && !p.2.contains '"'
  | stop name => simpleNames.contains name

/-- HTML shows a text: without its tags it decodes to the text, and its tags are nested marks. -/
def Shows (text : Text) (html : List Char) : Prop :=
  (deleteTags html).map decode = some text ∧
    ∃ marks, tags html = some (marks.map Mark.body) ∧ Mark.nested [] marks = true ∧
      ∀ m ∈ marks, m.isSimple = true

/-! ## Scanning -/

/-- HTML is taken apart into lexemes, whatever follows it. -/
def Scans (html : List Char) (lexemes : List Lexeme) : Prop :=
  ∀ rest, lex (html ++ rest) = (lexemes ++ ·) <$> lex rest

/-- A part of a tag that does not end it and leaves no value open. -/
def Passes (part : List Char) : Prop :=
  ∀ body rest,
    lexFrom (some ⟨false, body⟩) (part ++ rest) = lexFrom (some ⟨false, body ++ part⟩) rest

/-- Characters that neither end a tag nor open a value. -/
def isPlain (cs : List Char) : Bool := cs.all fun c => c ≠ '>' && c ≠ '"'

/-- Nothing is taken apart into nothing. -/
lemma Scans.nil : Scans [] [] := by
  intro rest
  simp

/-- HTML is taken apart piece by piece. -/
lemma Scans.append {a b : List Char} {xs ys : List Lexeme} (first : Scans a xs)
    (second : Scans b ys) : Scans (a ++ b) (xs ++ ys) := by
  intro rest
  rw [List.append_assoc, first, second]
  simp [Function.comp_def]

/-- What is taken apart whatever follows is taken apart if nothing follows. -/
lemma Scans.lex_eq {html : List Char} {lexemes : List Lexeme} (h : Scans html lexemes) :
    lex html = some lexemes := by
  have all := h []
  rw [List.append_nil] at all
  rw [all, lex, lexFrom]
  simp

/-- Characters are lexemes of their own up to the next tag. -/
lemma Scans.chars {cs : List Char} (plain : '<' ∉ cs) : Scans cs (cs.map .char) := by
  induction cs with
  | nil => exact .nil
  | cons c cs ih =>
    obtain ⟨first, others⟩ := not_or.1 (mt List.mem_cons.2 plain)
    intro rest
    have step : lex (c :: (cs ++ rest)) = (.char c :: ·) <$> lex (cs ++ rest) :=
      if_neg (Ne.symm first)
    rw [List.cons_append, step, ih others rest]
    simp [Function.comp_def]

/-- A tag is one lexeme, if nothing in it ends it. -/
lemma Scans.tag {part : List Char} (passes : Passes part) :
    Scans ('<' :: part ++ ['>']) [.tag part] := by
  intro rest
  have opens : lex ('<' :: part ++ ['>'] ++ rest)
      = lexFrom (some ⟨false, []⟩) (part ++ ('>' :: rest)) := by
    rw [List.append_assoc]
    rfl
  rw [opens, passes]
  exact if_pos ⟨rfl, rfl⟩

/-- Nothing ends no tag. -/
lemma Passes.nil : Passes [] := by
  intro body rest
  rw [List.nil_append, List.append_nil]

/-- A tag is not ended by parts that do not end it. -/
lemma Passes.append {a b : List Char} (first : Passes a) (second : Passes b) :
    Passes (a ++ b) := by
  intro body rest
  rw [List.append_assoc, first, second, List.append_assoc]

/-- Nor by many of them. -/
lemma Passes.flatMap {α : Type} {f : α → List Char} {l : List α} (h : ∀ a ∈ l, Passes (f a)) :
    Passes (l.flatMap f) := by
  induction l with
  | nil => exact .nil
  | cons a l ih =>
    rw [List.flatMap_cons]
    exact (h a List.mem_cons_self).append (ih fun b mem => h b (List.mem_cons_of_mem a mem))

/-- Plain characters do not end a tag. -/
lemma Passes.plain {cs : List Char} (plain : isPlain cs = true) : Passes cs := by
  induction cs with
  | nil => exact .nil
  | cons c cs ih =>
    simp only [isPlain, List.all_cons, Bool.and_eq_true, decide_eq_true_eq] at plain
    obtain ⟨⟨inside, unquoted⟩, others⟩ := plain
    intro body rest
    rw [List.cons_append, lexFrom, if_neg fun h => inside h.1, decide_eq_false unquoted,
      Bool.xor_false, ih others, List.append_assoc, List.singleton_append]

/-- Inside of quotes everything but a quote is read over. -/
lemma lexFrom_value {cs : List Char} (unquoted : '"' ∉ cs) (body rest : List Char) :
    lexFrom (some ⟨true, body⟩) (cs ++ rest) = lexFrom (some ⟨true, body ++ cs⟩) rest := by
  induction cs generalizing body with
  | nil => rw [List.nil_append, List.append_nil]
  | cons c cs ih =>
    obtain ⟨first, others⟩ := not_or.1 (mt List.mem_cons.2 unquoted)
    rw [List.cons_append, lexFrom, if_neg fun h => Bool.noConfusion h.2,
      decide_eq_false (Ne.symm first), Bool.xor_false, ih others, List.append_assoc,
      List.singleton_append]

/-- A quoted value does not end a tag, whatever is in it. -/
lemma Passes.value {cs : List Char} (unquoted : '"' ∉ cs) : Passes ('"' :: cs ++ ['"']) := by
  intro body rest
  have opens : lexFrom (some ⟨false, body⟩) ('"' :: cs ++ ['"'] ++ rest)
      = lexFrom (some ⟨true, body ++ ['"']⟩) (cs ++ ('"' :: rest)) := by
    rw [List.append_assoc]
    rfl
  have closes : lexFrom (some ⟨true, body ++ ['"'] ++ cs⟩) ('"' :: rest)
      = lexFrom (some ⟨false, body ++ ['"'] ++ cs ++ ['"']⟩) rest := rfl
  rw [opens, lexFrom_value unquoted, closes]
  simp

/-! ## Escaping -/

/-- A text is escaped piece by piece. -/
lemma escape_append (a b : Text) : escape (a ++ b) = escape a ++ escape b :=
  List.flatMap_append

/-- Only an ampersand starts a reference. -/
lemma decode_cons {c : Char} (plain : c ≠ '&') (cs : List Char) :
    decode (c :: cs) = c :: decode cs := by
  rw [decode.eq_5]
  all_goals
    rintro _ rfl
    exact absurd rfl plain

/-- An escaped character is decoded to itself. -/
lemma decode_escapeChar (c : Char) (cs : List Char) :
    decode (escapeChar c ++ cs) = c :: decode cs := by
  unfold escapeChar
  split
  · next amp => exact amp ▸ rfl
  · next amp =>
    split
    · next lt => exact lt ▸ rfl
    · split
      · next gt => exact gt ▸ rfl
      · split
        · next space => exact space ▸ rfl
        · exact decode_cons amp cs

/-- Decoding gives back what was escaped. -/
lemma decode_escape (t : Text) : decode (escape t) = t := by
  induction t with
  | nil => rfl
  | cons c t ih =>
    have first : escape (c :: t) = escapeChar c ++ escape t := List.flatMap_cons
    rw [first, decode_escapeChar, ih]

/-- Escaped text starts no tag. -/
lemma lt_not_mem_escape (t : Text) : '<' ∉ escape t := by
  intro mem
  obtain ⟨c, _, mem⟩ := List.mem_flatMap.1 mem
  unfold escapeChar at mem
  split_ifs at mem with amp lt gt space
  · revert mem; decide
  · revert mem; decide
  · revert mem; decide
  · revert mem; decide
  · exact lt (List.mem_singleton.1 mem).symm

/-- An escaped value does not end before its quote. -/
lemma quote_not_mem_escapeAttribute (t : Text) : '"' ∉ escapeAttribute t := by
  intro mem
  obtain ⟨c, _, mem⟩ := List.mem_flatMap.1 mem
  unfold escapeAttributeChar at mem
  split_ifs at mem with amp quote space
  · revert mem; decide
  · revert mem; decide
  · revert mem; decide
  · exact quote (List.mem_singleton.1 mem).symm

/-! ## Marks -/

/-- An element that highlighting uses, with attributes that it uses. -/
def IsSimple (e : Element) : Prop :=
  e.name ∈ simpleNames ∧ ∀ p ∈ e.attributes.entries, p.1 ∈ simpleAttributes

/-- An element without attributes is simple if its name is. -/
lemma IsSimple.bare {name : String} (mem : name ∈ simpleNames) : IsSimple ⟨name, .empty⟩ :=
  ⟨mem, fun _ none => absurd none List.not_mem_nil⟩

/-- Setting an attribute that highlighting uses keeps an element simple. -/
lemma IsSimple.set {e : Element} (h : IsSimple e) {name : String} (mem : name ∈ simpleAttributes)
    (value : String) : IsSimple (e.set name value) := by
  refine ⟨h.1, fun p hp => ?_⟩
  rcases Attributes.mem_insertInto hp with rfl | hp
  · exact mem
  · exact h.2 p hp

/-- Adding a class keeps an element simple. -/
lemma IsSimple.addClass {e : Element} (h : IsSimple e) (c : String) : IsSimple (e.addClass c) := by
  unfold Element.addClass
  split
  · exact h
  · exact h.set (by decide) _

/-- Simple names are written as they are, and their elements have an end tag and escaped text. -/
lemma of_mem_simpleNames : ∀ name ∈ simpleNames,
    name.toList.map Char.toLower = name.toList ∧ isPlain name.toList = true ∧
      (voidNames.any fun n => n.toList == name.toList) = false ∧
      (rawNames.any fun n => n.toList == name.toList) = false := by
  decide

/-- The mark of the start tag of an element. -/
def startMark (e : Element) : Mark :=
  .start e.name (e.attributes.entries.map fun p => (p.1, escapeAttribute p.2.toList))

section

variable {e : Element} (simple : IsSimple e)
include simple

/-- The name of a simple element is written as it is. -/
lemma tagName_of_isSimple : tagName e = e.name.toList :=
  (of_mem_simpleNames e.name simple.1).1

/-- A simple element has an end tag. -/
lemma isVoid_of_isSimple : isVoid e = false := by
  rw [isVoid, tagName_of_isSimple simple]
  exact (of_mem_simpleNames e.name simple.1).2.2.1

/-- Text in a simple element is escaped. -/
lemma below_of_isSimple : Place.below {} e = {} := by
  rw [Place.below, isVoid_of_isSimple simple, isRaw, tagName_of_isSimple simple,
    (of_mem_simpleNames e.name simple.1).2.2.2]
  rfl

/-- The mark of a simple element is simple. -/
lemma isSimple_startMark : (startMark e).isSimple = true := by
  simp only [startMark, Mark.isSimple, List.all_map, Bool.and_eq_true, List.all_eq_true,
    Function.comp_apply, List.contains_iff_mem, Bool.not_eq_true']
  refine ⟨simple.1, fun p hp => ⟨simple.2 p hp, ?_⟩⟩
  simpa using quote_not_mem_escapeAttribute p.2.toList

/-- The start tag of a simple element is one lexeme. -/
lemma scans_startTag : Scans (startTag e) [.tag (startMark e).body] := by
  have body : (startMark e).body = tagName e ++ e.attributes.entries.flatMap attributeText := by
    rw [startMark, Mark.body, List.flatMap_map, tagName_of_isSimple simple]
    rfl
  rw [startTag, List.cons_append, body]
  refine .tag (.append ?_ (.flatMap fun p hp => ?_))
  · rw [tagName_of_isSimple simple]
    exact .plain (of_mem_simpleNames e.name simple.1).2.1
  · have parts : attributeText p
        = (' ' :: p.1.toList ++ ['=']) ++ ('"' :: escapeAttribute p.2.toList ++ ['"']) := by
      simp [attributeText]
    have name : ∀ name ∈ simpleAttributes, isPlain (' ' :: name.toList ++ ['=']) = true := by
      decide
    rw [parts]
    exact .append (.plain (name p.1 (simple.2 p hp))) (.value (quote_not_mem_escapeAttribute _))

/-- So is its end tag. -/
lemma scans_endTag : Scans (endTag e) [.tag (Mark.stop e.name).body] := by
  have parts : endTag e = '<' :: ('/' :: e.name.toList) ++ ['>'] := by
    simp [endTag, tagName_of_isSimple simple]
  rw [parts]
  exact .tag (.plain (of_mem_simpleNames e.name simple.1).2.1)

end

/-! ## Nodes -/

/-- HTML is read as a text with marks that are nested in themselves, whatever follows it. -/
structure Reads (html : List Char) (text : Text) (marks : List Mark) : Prop where
  scans : ∃ lexemes, Scans html lexemes ∧ lexemes.filterMap Lexeme.char? = escape text ∧
    lexemes.filterMap Lexeme.tag? = marks.map Mark.body
  nested : ∀ opened rest, Mark.nested opened (marks ++ rest) = Mark.nested opened rest
  simple : ∀ m ∈ marks, m.isSimple = true

namespace Reads

/-- No HTML is read as no text. -/
lemma nil : Reads [] [] [] where
  scans := ⟨[], .nil, rfl, rfl⟩
  nested _ _ := rfl
  simple := nofun

/-- Escaped text is read as the text. -/
lemma text (t : Text) : Reads (escape t) t [] where
  scans := by
    refine ⟨_, .chars (lt_not_mem_escape t), ?_, ?_⟩
    · rw [List.filterMap_map]
      exact List.filterMap_some
    · rw [List.filterMap_map, List.map_nil, List.filterMap_eq_nil_iff]
      exact fun _ _ => rfl
  nested _ _ := rfl
  simple := nofun

/-- HTML is read piece by piece. -/
lemma append {a b : List Char} {s t : Text} {ms ns : List Mark} (first : Reads a s ms)
    (second : Reads b t ns) : Reads (a ++ b) (s ++ t) (ms ++ ns) where
  scans := by
    obtain ⟨xs, scans, chars, tags⟩ := first.scans
    obtain ⟨ys, scans', chars', tags'⟩ := second.scans
    refine ⟨xs ++ ys, scans.append scans', ?_, ?_⟩
    · rw [List.filterMap_append, chars, chars', escape_append]
    · rw [List.filterMap_append, tags, tags', List.map_append]
  nested opened rest := by rw [List.append_assoc, first.nested, second.nested]
  simple m mem := (List.mem_append.1 mem).elim (first.simple m) (second.simple m)

/-- The tags of a simple element add its marks around what is read between them. -/
lemma element {e : Element} (simple : IsSimple e) {html : List Char} {t : Text} {marks : List Mark}
    (inner : Reads html t marks) :
    Reads (startTag e ++ html ++ endTag e) t (startMark e :: marks ++ [.stop e.name]) where
  scans := by
    obtain ⟨xs, scans, chars, tags⟩ := inner.scans
    refine ⟨_, ((scans_startTag simple).append scans).append (scans_endTag simple), ?_, ?_⟩
    · rw [List.filterMap_append, List.filterMap_append, chars]
      exact List.append_nil _
    · rw [List.filterMap_append, List.filterMap_append, tags, List.map_append]
      rfl
  nested opened rest := by
    rw [List.append_assoc, List.cons_append, startMark, Mark.nested, inner.nested]
    simp [Mark.nested]
  simple m mem := by
    rcases List.mem_append.1 mem with mem | mem
    · rcases List.mem_cons.1 mem with rfl | mem
      · exact isSimple_startMark simple
      · exact inner.simple m mem
    · obtain rfl := List.mem_singleton.1 mem
      exact List.contains_iff_mem.2 simple.1

/-- HTML that is read as a text shows it. -/
lemma shows {html : List Char} {t : Text} {marks : List Mark} (h : Reads html t marks) :
    Shows t html := by
  obtain ⟨lexemes, scans, chars, tags_eq⟩ := h.scans
  refine ⟨?_, marks, ?_, ?_, h.simple⟩
  · rw [deleteTags, scans.lex_eq]
    simp [chars, decode_escape]
  · rw [tags, scans.lex_eq]
    simp [tags_eq]
  · have closed := h.nested [] []
    rwa [List.append_nil] at closed

end Reads

/-- What is written for nodes with simple elements is read as their text. -/
lemma exists_reads_nodes (ns : List Node) (tidy : Node.Tidy IsSimple ns) :
    ∃ marks, Reads (nodes {} ns) (Node.textContents ns) marks := by
  match ns with
  | [] => exact ⟨[], .nil⟩
  | .text t :: ns =>
    obtain ⟨marks, rest⟩ := exists_reads_nodes ns (Node.tidy_text_cons.1 tidy).2.2
    exact ⟨_, (Reads.text t).append rest⟩
  | .element e children :: ns =>
    obtain ⟨simple, inner, others⟩ := Node.tidy_element_cons.1 tidy
    obtain ⟨marks, first⟩ := exists_reads_nodes children inner
    obtain ⟨marks', rest⟩ := exists_reads_nodes ns others
    have written : node {} (.element e children)
        = startTag e ++ nodes {} children ++ endTag e := by
      rw [node, below_of_isSimple simple, isVoid_of_isSimple simple]
      rfl
    rw [nodes, written]
    exact ⟨_, (first.element simple).append rest⟩

/-- The HTML of an element shows its text, if the element and all elements in it are simple. -/
lemma shows_outer {e : ElementNode} (simple : IsSimple e.element)
    (tidy : Node.Tidy IsSimple e.children) : Shows (Node.textContents e.children) (outer e) := by
  obtain ⟨marks, reads⟩ := exists_reads_nodes [e.toNode]
    (Node.tidy_element_cons.2 ⟨simple, tidy, Node.tidy_nil⟩)
  have shows := reads.shows
  rwa [nodes, nodes, List.append_nil, Node.textContents, Node.textContents,
    List.append_nil] at shows

end Highlighter.Html
