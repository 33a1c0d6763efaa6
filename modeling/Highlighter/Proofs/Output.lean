import Highlighter.CommandLine.Command
import Highlighter.Proofs.Grammar.Compilation
import Highlighter.Proofs.Markup.Html
import Highlighter.Proofs.Markup.RoundTrip
import Highlighter.Proofs.Source

/-!
# What is printed shows the text

A text that is highlighted becomes a `pre` element whose children are built from the tags of runs.
Nothing is asked of the matchers: if nodes could be built at all, they have the given text, and
their elements are those of runs, which are simple. So the printed HTML can be read back. The main
result is `printed_html_shows_text`.
-/

namespace Highlighter

/-- The element of a run is simple, whether it is a link or not. -/
lemma Run.isSimple_element (classPrefix : String) (line : Text) (r : Run) :
    Html.IsSimple (r.element classPrefix line) := by
  have anchor : Html.IsSimple ⟨"a", .empty⟩ := .bare (by decide)
  have span : Html.IsSimple ⟨"span", .empty⟩ := .bare (by decide)
  unfold element
  split
  · exact (anchor.set (by decide) _).set (by decide) _
  · exact span.set (by decide) _

/-- The elements of highlighting are simple, whatever the matchers return. -/
lemma isSimple_of_mem_highlight {table : Table} {classPrefix : String} {text : Text}
    {tags : List Tag} (ok : highlight table classPrefix text = .ok tags) {n : Nat} {e : Element}
    (mem : .start n e ∈ tags) : Html.IsSimple e := by
  obtain rfl := (highlight_eq_ok_iff.1 ok).2
  obtain ⟨p, _, mem⟩ := List.mem_flatMap.1 mem
  obtain ⟨r, _, mem⟩ := List.mem_flatMap.1 mem
  rcases List.mem_pair.1 mem with same | same
  · cases same
    exact r.isSimple_element classPrefix p.1.content
  · cases same

/-- Merging into nothing makes no tags of its own. -/
lemma mem_of_merge_nil {highlight merged : List Tag} (ok : merge [] highlight = .ok merged)
    {t : Tag} (mem : t ∈ merged) : t ∈ highlight := by
  obtain ⟨spans, _, ok⟩ := Except.bind_eq_ok.1 ok
  obtain rfl : _ = merged := Except.ok.inj ok
  cases spans with
  | nil => cases mem
  | cons s spans => exact mem

/-- The children of a highlighted element are built from its text, its tags and those of runs. -/
lemma ElementNode.of_highlighted {e after : ElementNode} {table : Table} {options : Options}
    (ok : (e.highlightInPlace table options).highlighted = .ok after) :
    let flat := Node.flatten options.lineBreak e.children
    ∃ tags, highlight table options.classPrefix flat.text = .ok tags ∧
      reconcile flat.text flat.tags tags = .ok after.children ∧
      after.element = e.element.addClass (options.classPrefix ++ sourceCodeClass) := by
  intro flat
  cases found : highlight table options.classPrefix flat.text with
  | error cause =>
    rw [Outcome.highlighted, (highlightInPlace_of_error found).1] at ok
    cases ok
  | ok tags =>
    cases built : reconcile flat.text flat.tags tags with
    | error cause =>
      rw [highlight] at found
      simp [Outcome.highlighted, highlightInPlace, flat, found, built, Except.map] at ok
    | ok children =>
      obtain ⟨result, element⟩ := highlightInPlace_of_ok found built
      rw [Outcome.highlighted, result, element] at ok
      obtain rfl : _ = after := Except.ok.inj ok
      exact ⟨tags, rfl, built, rfl⟩

/-- A highlighted text is an element with simple ones inside that has the text. -/
lemma of_highlightText {text : Text} {table : Table} {options : Options} {e : ElementNode}
    (ok : highlightText text table options = .ok e) :
    Html.IsSimple e.element ∧ Node.Tidy Html.IsSimple e.children ∧
      Node.textContents e.children = text := by
  have flat : Node.flatten options.lineBreak (ElementNode.ofText text).children = ⟨text, []⟩ := by
    simp [ElementNode.ofText, Node.flatten, Node.flattenListAt, Node.flattenAt]
  obtain ⟨tags, found, built, element⟩ := ElementNode.of_highlighted ok
  rw [flat] at found built
  obtain ⟨merged, merge, rebuilt⟩ := Except.bind_eq_ok.1 built
  refine ⟨?_, ?_, ?_⟩
  · have pre : Html.IsSimple ⟨"pre", .empty⟩ := .bare (by decide)
    rw [element]
    exact pre.addClass _
  · exact Node.tidy_of_rebuild rebuilt fun n e mem =>
      isSimple_of_mem_highlight found (mem_of_merge_nil merge mem)
  · exact Node.textContents_of_builds (builds_of_rebuildFrom rebuilt)

/-- A command that succeeds and lists nothing has highlighted the text of its input. -/
lemma Arguments.of_run {a : Arguments} {files : FileSystem} {stdin : ByteArray} {html : Text}
    (list : a.list = false) (ok : a.run files stdin = .ok html) :
    ∃ text table options e, a.text files stdin = .ok text ∧
      highlightText text table options = .ok e ∧ html = Html.outer e := by
  rw [run, if_neg (by simp [list])] at ok
  obtain ⟨⟨options, table⟩, _, ok⟩ := Except.bind_eq_ok.1 ok
  obtain ⟨text, read, ok⟩ := Except.bind_eq_ok.1 ok
  obtain ⟨e, made, ok⟩ := Except.bind_eq_ok.1 ok
  cases here : highlightText text table options with
  | error cause =>
    rw [here] at made
    cases made
  | ok e' =>
    rw [here] at made
    obtain rfl : e' = e := Except.ok.inj made
    exact ⟨text, table, options, e', read, here, (Except.ok.inj ok).symm⟩

/--
The HTML of a highlighted text shows the text, for every grammar and all options. So does what the
command prints, up to the line feed at its end, for the text of its input, whenever it succeeds and
was not asked for a list.
-/
theorem printed_html_shows_text :
    (∀ text table options e, highlightText text table options = .ok e →
      Html.Shows text (Html.outer e)) ∧
    ∀ args files stdin a, Arguments.parse args = .ok (.run a) → a.list = false →
      (command args files stdin).code = 0 →
      ∃ text html, a.text files stdin = .ok text ∧ Html.Shows text html ∧
        (command args files stdin).stdout = String.ofList (html ++ ['\n']) := by
  have shows : ∀ text table options e, highlightText text table options = .ok e →
      Html.Shows text (Html.outer e) := by
    intro text table options e ok
    obtain ⟨simple, tidy, contents⟩ := of_highlightText ok
    exact contents ▸ Html.shows_outer simple tidy
  refine ⟨shows, fun args files stdin a parsed list success => ?_⟩
  have answered : command args files stdin = Request.answer files stdin (.run a) := by
    rw [command, parsed]
  rw [answered, Request.answer] at success ⊢
  cases ran : a.run files stdin with
  | error cause =>
    rw [ran] at success
    cases success
  | ok html =>
    obtain ⟨text, table, options, e, read, made, rfl⟩ := Arguments.of_run list ran
    exact ⟨text, _, read, shows text table options e made, rfl⟩

/-- A link whose text has angle brackets and a quote. -/
def Definition.linking : Definition :=
  ⟨none, [[.shortTuple "a>\"b<" (.whole "sh_url") (-1)]]⟩

/-- All that is escaped is read back, and no bracket in a destination ends its tag; likewise for an
address that the command finds on its standard input. -/
theorem printed_html_shows_text_link :
    let link : Text := ['&', 'a', '>', '"', 'b', '<', Char.ofNat 0xA0]
    let html := ("<pre class=\"sh_sourceCode\">&amp;<a class=\"sh_url\" " ++
      "href=\"a>&quot;b<\">a&gt;\"b&lt;</a>&nbsp;</pre>").toList
    let output := command ["-l", "url"] (fun _ => .error .notFound)
      ⟨#[60, 120, 64, 121, 46, 122, 62, 38]⟩
    (∃ table e, Definition.linking.compile = .ok table ∧ highlightText link table {} = .ok e ∧
      Html.outer e = html ∧ Html.Shows link (Html.outer e)) ∧
    output.code = 0 ∧ ∃ html, Html.Shows ['<', 'x', '@', 'y', '.', 'z', '>', '&'] html ∧
      output.stdout = String.ofList (html ++ ['\n']) := by
  intro link html output
  obtain ⟨shows, prints⟩ := printed_html_shows_text
  constructor
  · obtain ⟨table, compiled⟩ := Definition.exists_table (d := .linking) (by decide +kernel)
    have written := Definition.of_compile compiled
      (p := fun t => (highlightText link t {}).toOption.any fun e => Html.outer e == html)
      (by decide +kernel)
    cases made : highlightText link table {} with
    | error cause =>
      rw [made] at written
      cases written
    | ok e =>
      rw [made] at written
      exact ⟨table, e, compiled, made, eq_of_beq written, shows link table {} e made⟩
  · have success : output.code = 0 := by decide +kernel
    have parsed : Arguments.parse ["-l", "url"] = .ok (.run { language := some "url" }) := by cbv
    obtain ⟨text, html, read, shown, printed⟩ := prints _ _ _ _ parsed rfl success
    have typed : decodeText ⟨#[60, 120, 64, 121, 46, 122, 62, 38]⟩
        = .ok ['<', 'x', '@', 'y', '.', 'z', '>', '&'] := by decide +kernel
    have read : (decodeText ⟨#[60, 120, 64, 121, 46, 122, 62, 38]⟩).mapError
        (CommandError.unreadable "<stdin>") = .ok text := read
    rw [typed] at read
    obtain rfl : _ = text := Except.ok.inj read
    exact ⟨success, html, shown, printed⟩

end Highlighter
