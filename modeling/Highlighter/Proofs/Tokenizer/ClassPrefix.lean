import Highlighter.Proofs.Tokenizer.Runs

/-!
# The class prefix

The prefix of classes is written into elements at the very end, when runs become tags. Which runs
there are, where they lie, which of them are links and where these lead depends on the styles as the
grammar names them. So tags with a prefix are the tags without one, with the prefix put in front of
each class (`TextReport.tags_prefixed`). The main result is `highlight_prefixed`.
-/

namespace Highlighter

namespace Element

/-- The element with a prefix in front of its class attribute, if it has one. -/
def prefixClass (classPrefix : String) (e : Element) : Element :=
  match e.get? "class" with
  | some c => e.set "class" (classPrefix ++ c)
  | none => e

variable (classPrefix : String) (e : Element)

/-- The prefix leaves the name as it is. -/
@[simp] lemma name_prefixClass : (e.prefixClass classPrefix).name = e.name := by
  unfold prefixClass
  split <;> rfl

/-- The prefix goes in front of the class. -/
lemma class_prefixClass :
    (e.prefixClass classPrefix).get? "class" = (e.get? "class").map (classPrefix ++ ·) := by
  unfold prefixClass
  split
  · next c here => rw [here, get?, set, Attributes.get?_set, if_pos rfl]; rfl
  · next none => rw [none]; rfl

/-- The prefix leaves all other attributes as they are. -/
lemma get?_prefixClass {name : String} (other : name ≠ "class") :
    (e.prefixClass classPrefix).get? name = e.get? name := by
  unfold prefixClass
  split
  · rw [get?, set, Attributes.get?_set, if_neg other]; rfl
  · rfl

end Element

/-- A tag with a prefix in front of the class of its element. -/
def Tag.prefixClass (classPrefix : String) : Tag → Tag
  | .start n e => .start n (e.prefixClass classPrefix)
  | .stop n => .stop n

/-- The prefix leaves the offset as it is. -/
@[simp] lemma Tag.offset_prefixClass (classPrefix : String) (t : Tag) :
    (t.prefixClass classPrefix).offset = t.offset := by
  cases t <;> rfl

/-- A start of a run without a prefix: a link under the link style, else a `span`. -/
structure Element.Shows (style : String) (e : Element) : Prop where
  styled : e.get? "class" = some style
  name : e.name = if style = "sh_url" then "a" else "span"
  href : (e.get? "href").isSome ↔ style = "sh_url"

/-- The element of a run shows its style. -/
lemma Run.shows_element (line : Text) (r : Run) : (r.element "" line).Shows r.style := by
  unfold Run.element Link.style
  by_cases link : r.style = "sh_url"
  · rw [if_pos link]
    constructor <;> simp [link, Element.anchor, Element.set, Element.get?]
  · rw [if_neg link]
    constructor <;> simp [link, Element.span, Element.set, Element.get?]

/-- Which element a run has is settled by its style alone; the prefix only goes into the class. -/
lemma Run.element_prefixed (classPrefix : String) (line : Text) (r : Run) :
    r.element classPrefix line = (r.element "" line).prefixClass classPrefix := by
  rw [Element.prefixClass, (r.shows_element line).styled]
  unfold Run.element
  split
  · have behind : ¬ "href" < "class" := by decide
    simp [Element.anchor, Element.set, Attributes.set, Attributes.insertInto, Attributes.empty,
      behind]
  · simp [Element.span, Element.set, Attributes.set, Attributes.insertInto, Attributes.empty]

/-- The tags of a run have the prefix in front of the class. -/
lemma Run.tags_prefixed (classPrefix : String) (base : Nat) (line : Text) (r : Run) :
    r.tags classPrefix base line = (r.tags "" base line).map (Tag.prefixClass classPrefix) := by
  rw [Run.tags, Run.tags, r.element_prefixed classPrefix line]
  rfl

/-- So have the tags of a line. -/
lemma Line.tags_prefixed (classPrefix : String) (line : Line) (pieces : List Piece) :
    line.tags classPrefix pieces = (line.tags "" pieces).map (Tag.prefixClass classPrefix) := by
  rw [Line.tags, Line.tags, List.map_flatMap]
  exact List.flatMap_congr fun r _ => r.tags_prefixed classPrefix line.start line.content

/-- So have all tags. -/
lemma TextReport.tags_prefixed {σ : Type} (classPrefix : String) (r : TextReport σ) :
    r.tags classPrefix = (r.tags "").map (Tag.prefixClass classPrefix) := by
  rw [TextReport.tags, TextReport.tags, List.map_flatMap]
  exact List.flatMap_congr fun p _ => p.1.tags_prefixed classPrefix p.2

/-- The elements of a text without a prefix are those of its runs. -/
lemma TextReport.exists_shows {σ : Type} {r : TextReport σ} {n : Nat} {e : Element}
    (mem : .start n e ∈ r.tags "") : ∃ style, e.Shows style := by
  obtain ⟨p, _, mem⟩ := List.mem_flatMap.1 mem
  obtain ⟨run, _, mem⟩ := List.mem_flatMap.1 mem
  rcases List.mem_pair.1 mem with same | same
  · cases same
    exact ⟨run.style, run.shows_element p.1.content⟩
  · cases same

/-- What is reported does not depend on the prefix. -/
lemma events_highlightWithEvents (table : Table) (classPrefix : String) (text : Text) :
    (highlightWithEvents table classPrefix text).events
      = (highlightWithEvents table "" text).events := by
  unfold highlightWithEvents
  dsimp only
  cases (tokenize .cached table {} text).outcome with
  | error failure => rfl
  | ok left =>
    dsimp only
    rw [TextReport.tags_prefixed classPrefix, List.length_map]

/--
A class prefix changes nothing but classes. With a prefix highlighting fails in the same way as
without one, or returns the same tags with the prefix in front of each class, and it reports the
same events. Offsets, the names of elements and their destinations are those without a prefix: a
link if the class without it is the link style, else a `span`.
-/
theorem highlight_prefixed (table : Table) (classPrefix : String) (text : Text) :
    (highlightWithEvents table classPrefix text).events
      = (highlightWithEvents table "" text).events ∧
    ((∃ failure, highlight table classPrefix text = .error failure ∧
      highlight table "" text = .error failure) ∨
    ∃ tags, highlight table "" text = .ok tags ∧
      highlight table classPrefix text = .ok (tags.map (Tag.prefixClass classPrefix)) ∧
      (tags.map (Tag.prefixClass classPrefix)).map Tag.offset = tags.map Tag.offset ∧
      ∀ n e, .start n e ∈ tags → ∃ style, e.Shows style ∧
        (e.prefixClass classPrefix).get? "class" = some (classPrefix ++ style) ∧
        (e.prefixClass classPrefix).name = e.name ∧
        ∀ name ≠ "class", (e.prefixClass classPrefix).get? name = e.get? name) := by
  refine ⟨events_highlightWithEvents table classPrefix text, ?_⟩
  rw [highlight_eq, highlight_eq]
  cases (tokenize .cached table {} text).outcome with
  | error failure => exact .inl ⟨failure, rfl, rfl⟩
  | ok left =>
    refine .inr ⟨_, rfl, ?_, ?_, fun n e mem => ?_⟩
    · exact congrArg Except.ok (TextReport.tags_prefixed classPrefix _)
    · rw [List.map_map]
      exact List.map_congr_left fun t _ => t.offset_prefixClass classPrefix
    · obtain ⟨style, shows⟩ := TextReport.exists_shows mem
      refine ⟨style, shows, ?_, e.name_prefixClass classPrefix,
        fun name other => e.get?_prefixClass classPrefix other⟩
      rw [e.class_prefixClass, shows.styled]
      rfl

/-- A link, and a style that a prefix turns into the name of the link style. -/
def Definition.disguised : Definition :=
  ⟨none, [[.tuple "a" (.whole "sh_url") (-1) true, .tuple "b" (.whole "url") (-1) true]]⟩

/-- Under the prefix `sh_` the class of the second run is that of links, and it stays a `span`. -/
theorem highlight_prefixed_disguised :
    ∃ table tags, Definition.disguised.compile = .ok table ∧
      highlight table "" ['a', 'b'] = .ok tags ∧
      highlight table "sh_" ['a', 'b'] = .ok (tags.map (Tag.prefixClass "sh_")) ∧
      tags.map (Tag.prefixClass "sh_")
        = [.start 0 ((Element.anchor "sh_sh_url").set "href" "a"), .stop 1,
            .start 1 (Element.span "sh_url"), .stop 2] := by
  obtain ⟨table, compiled⟩ := Definition.exists_table (d := .disguised) (by decide +kernel)
  have returned := Definition.of_compile compiled
    (p := fun t => (highlight t "sh_" ['a', 'b']).toOption.any fun tags =>
      tags == [.start 0 ((Element.anchor "sh_sh_url").set "href" "a"), .stop 1,
        .start 1 (Element.span "sh_url"), .stop 2]) (by decide +kernel)
  rcases (highlight_prefixed table "sh_" ['a', 'b']).2 with
    ⟨failure, failed, _⟩ | ⟨tags, bare, prefixed, _⟩
  · rw [failed] at returned
    cases returned
  · rw [prefixed] at returned
    exact ⟨table, tags, compiled, bare, prefixed, eq_of_beq returned⟩

end Highlighter
