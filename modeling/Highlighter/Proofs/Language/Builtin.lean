import Highlighter.Language.Builtin
import Highlighter.Proofs.Grammar.Compilation
import Highlighter.Proofs.Pattern.Retries
import Highlighter.Proofs.Text.Partition
import Highlighter.Proofs.Tokenizer.Confinement
import Highlighter.Proofs.Tokenizer.Interruption

/-!
# The built-in grammars fail only by interruption

Whether the grammar of a definition is confined to some trails shows in its transitions, given that
the end of the line is found everywhere and that all other patterns match some text
(`Definition.exists_confined`). That is all that is asked of an engine (`Engine.Handles`), and the
engine at hand does it for every built-in pattern, as the plans of the patterns show
(`Builtin.handles_ofSource`).

All built-in grammars but the one of C have a single state, and that one opens at most a comment or
a string, in a directive or outside. At the end of a line a comment after two slashes and a
directive are closed, because the end of the line is found everywhere. So with every such engine
highlighting fails only if a search is given up.

That happens: with the engine at hand the grammar of C gives up the search for a number if there is
a long one to the base 16 that goes on as a word (`Builtin.highlight?_c_hexNumber`).
-/

namespace Highlighter

/-- What is asked of an engine for a pattern. -/
structure Engine.Handles (engine : Engine) (pattern : String) : Prop where
  /-- The pattern can be read. -/
  accepted : ∃ m, engine pattern = .ok m
  /-- What is found fits the line. -/
  sound : ∀ m, engine pattern = .ok m → ∀ line, m.Sound line
  /-- The end of the line is found from every place. -/
  lineEnd : ∀ m, engine pattern = .ok m → pattern = "$" → m.FoundEverywhere
  /-- Any other pattern matches some text. -/
  reads : ∀ m, engine pattern = .ok m → pattern ≠ "$" → m.Reads

/-- Whether the plan of a pattern shows that the engine at hand handles it. -/
def Pattern.isOrderly (source : String) : Bool :=
  (read source.toList).toOption.any fun p =>
    p.plan.readsOn && if source = "$" then p.plan = .anchor .lineEnd else 0 < p.plan.least

/-- The engine at hand handles orderly patterns. -/
lemma Matcher.handles_ofSource {source : String} (orderly : Pattern.isOrderly source) :
    Engine.Handles ofSource source := by
  unfold Pattern.isOrderly at orderly
  cases read : Pattern.read source.toList with
  | error cause => simp [read, Except.toOption] at orderly
  | ok p =>
    have accepted : ofSource source = .ok (p.matcher source) := ofSource_eq_ok_iff.2 ⟨p, read, rfl⟩
    simp only [read, Except.toOption, Option.any_some, Bool.and_eq_true] at orderly
    obtain ⟨readsOn, plan⟩ := orderly
    refine ⟨⟨_, accepted⟩, fun m made => ?_, fun m made same => ?_, fun m made other => ?_⟩
    · cases accepted.symm.trans made
      exact p.sound_of_readsOn readsOn source
    · cases accepted.symm.trans made
      rw [if_pos same] at plan
      exact fun line n hn => p.exists_find_lineEnd (of_decide_eq_true plan) hn
    · cases accepted.symm.trans made
      rw [if_neg other] at plan
      intro line n r _ found
      have least := (p.fits_of_find readsOn found).2
      have long : 0 < p.plan.least := of_decide_eq_true plan
      omega

/-- A number that goes on as a word is a line of its own. -/
lemma Text.physicalLines_hexNumber (n : Nat) :
    physicalLines (hexNumber n) = [⟨0, hexNumber n, none⟩] := by
  have first : FirstLine (hexNumber n) (hexNumber n) none [] := by
    refine ⟨by simp [LineBreak.optionText], fun c mem => ?_, fun _ => ⟨by simp [hexNumber], rfl⟩,
      by simp⟩
    have known : c = '0' ∨ c = 'x' ∨ c = 'f' ∨ c = '_' := by
      simp only [hexNumber, List.mem_cons, List.mem_append, List.mem_replicate,
        List.not_mem_nil, or_false] at mem
      tauto
    rcases known with rfl | rfl | rfl | rfl <;> simp [EndsLine]
  rw [physicalLines, first.pieces_eq]
  rfl

namespace Definition

open RuleDefinition (Yields)

variable {engine : Engine} {d : Definition} {trails rests : List (List Nat)}

/--
Whether the rules of a state keep to some trails from one of them on. The end of the line closes a
context that is open.
-/
def keeps (trails : List (List Nat)) (trail : List Nat) (rules : List RuleDefinition) : Bool :=
  rules.all fun d => d.transition?.any fun t =>
    trails.contains (t.apply trail) && (d.pattern ≠ "$" || t = .pop && trail ≠ [])

/-- Whether the grammar of a definition is confined to some trails. -/
def confines (trails rests : List (List Nat)) (d : Definition) : Bool :=
  d.states.all (·.all fun r => r.transition?.isSome) && rests.contains [] &&
    rests.all trails.contains && trails.all fun trail =>
      trail.length < 32 && (d.states[trail.headD 0]?).any fun rules =>
        keeps trails trail rules && (rests.contains trail || rules.any fun r => r.pattern = "$")

/-- A definition compiles if it has states and its transitions and patterns can be read. -/
lemma exists_compileWith (nonempty : d.states ≠ [])
    (readable : ∀ rules ∈ d.states, ∀ r ∈ rules,
      r.transition?.isSome ∧ ∃ m, engine r.pattern = .ok m) :
    ∃ table, d.compileWith engine = .ok table := by
  have yields : ∀ rules ∈ d.states, ∀ r ∈ rules, ∃ rule, Yields engine r rule := by
    intro rules mem r mem'
    obtain ⟨told, m, read⟩ := readable rules mem r mem'
    cases moved : r.transition 0 0 with
    | error e => simp [RuleDefinition.transition?, moved, Except.toOption] at told
    | ok t => exact ⟨⟨m, r.style, t, r.kind⟩, moved, read, rfl, rfl⟩
  obtain ⟨states, yields⟩ : ∃ states,
      List.Forall₂ (List.Forall₂ (Yields engine)) d.states states :=
    exists_forall₂ fun rules mem => exists_forall₂ (yields rules mem)
  have nonempty' : states ≠ [] := by
    rintro rfl
    exact nonempty (List.forall₂_nil_right_iff.1 yields)
  exact ⟨⟨d.name, states, nonempty'⟩, compileWith_eq_ok_iff.2 ⟨rfl, yields⟩⟩

/-- Rules that keep to some trails stay among them, and read something or close a context. -/
lemma of_keeps {trail : List Nat} {r : RuleDefinition} {ds : List RuleDefinition} {rule : Rule}
    (kept : keeps trails trail ds = true) (mem : r ∈ ds) (yields : r.Yields engine rule)
    (handles : engine.Handles r.pattern) :
    rule.transition.apply trail ∈ trails ∧
      (rule.matcher.Reads ∨ rule.transition = .pop ∧ trail ≠ []) := by
  have kept := List.all_eq_true.1 kept r mem
  rw [yields.transition?_eq] at kept
  simp only [Option.any_some, Bool.and_eq_true, List.contains_iff_mem, Bool.or_eq_true,
    decide_eq_true_eq] at kept
  obtain ⟨stays, other | closes⟩ := kept
  · exact ⟨stays, .inl (handles.reads _ yields.matcher other)⟩
  · exact ⟨stays, .inr closes⟩

/-- With an engine that handles its patterns, such a definition compiles to a confined table. -/
theorem exists_confined (h : d.confines trails rests)
    (handles : ∀ r ∈ d.states.flatten, engine.Handles r.pattern) :
    ∃ table, d.compileWith engine = .ok table ∧ table.Confined trails rests := by
  simp only [confines, Bool.and_eq_true, List.all_eq_true, List.contains_iff_mem,
    decide_eq_true_eq, Option.any_eq_true, Bool.or_eq_true, List.any_eq_true] at h
  obtain ⟨⟨⟨told, root⟩, subset⟩, steps⟩ := h
  have nonempty : d.states ≠ [] := by
    intro none
    obtain ⟨rules, state, _⟩ := (steps [] (subset [] root)).2
    rw [none] at state
    cases state
  obtain ⟨table, compiled⟩ : ∃ table, d.compileWith engine = .ok table :=
    exists_compileWith nonempty fun rules mem r mem' => ⟨told rules mem r mem',
      (handles r (List.mem_flatten.2 ⟨rules, mem, mem'⟩)).accepted⟩
  obtain ⟨_, yields⟩ := compileWith_eq_ok_iff.1 compiled
  -- the state that is active on a trail, as it was written and as it was compiled
  have agrees : ∀ trail ∈ trails, ∃ ds rules, table.state? (trail.headD 0) = some rules ∧
      List.Forall₂ (Yields engine) ds rules ∧ (∀ r ∈ ds, engine.Handles r.pattern) ∧
        keeps trails trail ds = true ∧ (trail ∈ rests ∨ ∃ r ∈ ds, r.pattern = "$") := by
    intro trail mem
    obtain ⟨_, ds, state, kept, rest⟩ := steps trail mem
    obtain ⟨rules, state', yields'⟩ := exists_getElem? yields state
    refine ⟨ds, rules, state', yields', fun r mem' => ?_, kept, rest⟩
    exact handles r (List.mem_flatten.2 ⟨ds, List.mem_of_getElem? state, mem'⟩)
  refine ⟨table, compiled, fun line rule mem => ?sound, root, subset,
    fun trail mem => (steps trail mem).1, fun trail mem => ?known,
    fun trail mem rules state rule mem' => ?closed, fun trail mem rules state never => ?resting⟩
  case sound =>
    obtain ⟨r, mem', yields'⟩ := exists_yields_of_mem compiled mem
    exact (handles r mem').sound _ yields'.matcher line
  case known =>
    obtain ⟨_, rules, state, _⟩ := agrees trail mem
    exact Option.isSome_iff_exists.2 ⟨rules, state⟩
  case closed =>
    obtain ⟨ds, rules', state', yields', handled, kept, _⟩ := agrees trail mem
    obtain rfl : rules' = rules := Option.some.inj (state'.symm.trans state)
    obtain ⟨r, mem'', yields''⟩ := exists_of_mem_right yields' mem'
    exact of_keeps kept mem'' yields'' (handled r mem'')
  case resting =>
    obtain ⟨ds, rules', state', yields', handled, _, rest | ⟨r, mem', ends⟩⟩ := agrees trail mem
    · exact rest
    · obtain rfl : rules' = rules := Option.some.inj (state'.symm.trans state)
      obtain ⟨rule, mem'', yields''⟩ := exists_of_mem_left yields' mem'
      exact absurd ((handled r mem').lineEnd _ yields''.matcher ends) (never rule mem'')

end Definition

namespace Builtin

/-- The patterns of the built-in grammars. -/
def patterns : List String :=
  all.flatMap fun entry => entry.2.states.flatten.map RuleDefinition.pattern

/-- The stacks of the grammar of C within a line. -/
def cTrails : List (List Nat) := [[], [1], [2], [3], [4], [2, 4], [3, 4]]

/-- The stacks that its lines leave. -/
def cRests : List (List Nat) := [[], [2], [3], [2, 4], [3, 4]]

/-- The grammar of C keeps to its stacks. -/
lemma confines_c : c.confines cTrails cRests = true := by decide +kernel

/-- Every built-in grammar is confined; those other than that of C have only the root. -/
lemma exists_confines {entry : String × Definition} (mem : entry ∈ all) :
    ∃ trails rests, entry.2.confines trails rests = true := by
  have confines_root : ∀ d ∈ [diff, properties, url], d.confines [[]] [[]] = true := by
    decide +kernel
  simp only [all, List.mem_cons, List.not_mem_nil, or_false] at mem
  rcases mem with rfl | rfl | rfl | rfl
  · exact ⟨_, _, confines_c⟩
  · exact ⟨_, _, confines_root diff (by simp)⟩
  · exact ⟨_, _, confines_root properties (by simp)⟩
  · exact ⟨_, _, confines_root url (by simp)⟩

/-- The engine at hand handles all built-in patterns. -/
lemma handles_ofSource : ∀ pattern ∈ patterns, Engine.Handles Matcher.ofSource pattern := by
  have orderly : patterns.all Pattern.isOrderly = true := by decide +kernel
  exact fun pattern mem => Matcher.handles_ofSource (List.all_eq_true.1 orderly pattern mem)

/-- An engine that handles all built-in patterns makes confined tables of the built-in grammars. -/
lemma exists_confined {engine : Engine} (handles : ∀ pattern ∈ patterns, engine.Handles pattern)
    {entry : String × Definition} (mem : entry ∈ all) {trails rests : List (List Nat)}
    (confines : entry.2.confines trails rests = true) :
    ∃ table, entry.2.compileWith engine = .ok table ∧ table.Confined trails rests := by
  refine Definition.exists_confined confines fun r mem' => handles r.pattern ?_
  exact List.mem_flatMap.2 ⟨entry, mem, List.mem_map_of_mem mem'⟩

/-- The built-in grammars compile. -/
lemma exists_compile {entry : String × Definition} (mem : entry ∈ all) :
    ∃ table, entry.2.compile = .ok table := by
  obtain ⟨trails, rests, confines⟩ := exists_confines mem
  obtain ⟨table, compiled, _⟩ := exists_confined handles_ofSource mem confines
  exact ⟨table, compiled⟩

/-- The rules for code before the one for numbers match no zero, and that one reads numbers. -/
lemma cCode_hex :
    ((cCode.take 7).all fun r => r.plan?.any fun p => p.readsOn && p.avoids '0') = true ∧
      (cCode[7]?.any fun r => r.plan?.any Plan.readsHex) = true := by
  constructor <;> decide +kernel

/-- The grammar of C does not come to the end of a long number that goes on as a word. -/
theorem highlight?_c_hexNumber {table : Table} (compiled : c.compile = .ok table) {n : Nat}
    (long : 4472 ≤ n) (classPrefix : String) :
    highlight? table classPrefix (Text.hexNumber n) = none := by
  obtain ⟨others, number⟩ := cCode_hex
  have many : Attempt.retryLimit < n * (n + 1) / 2 := by
    have least : 4472 * 4473 ≤ n * (n + 1) := Nat.mul_le_mul long (Nat.succ_le_succ long)
    unfold Attempt.retryLimit
    omega
  obtain ⟨rules, root, yields⟩ :=
    exists_getElem? (Definition.compile_eq_ok_iff.1 compiled).2 (i := 0) (a := cCode) rfl
  obtain ⟨d, here, reads⟩ := (Option.any_eq_true _ _).1 number
  obtain ⟨rule, here, yields'⟩ := exists_getElem? yields here
  obtain ⟨p, plan, matcher⟩ := yields'.exists_plan?
  rw [plan, Option.any_some] at reads
  have gives : rule.matcher.givesUp (Text.hexNumber n) 0 = true := by
    rw [matcher]
    exact p.givesUp_hexNumber reads many
  refine highlight?_eq_none (Text.physicalLines_hexNumber n) root here gives
    (fun j lt r m there found => ?_) classPrefix
  -- the rules before it cannot begin with the zero
  obtain ⟨d, there, yields'⟩ := exists_getElem? yields.flip there
  have mem : d ∈ cCode.take 7 := by
    refine List.mem_of_getElem? (i := j) ?_
    rwa [List.getElem?_take_of_lt lt]
  obtain ⟨p, plan, matcher⟩ := RuleDefinition.Yields.exists_plan? yields'
  have checked := List.all_eq_true.1 others d mem
  rw [plan, Option.any_some, Bool.and_eq_true] at checked
  rw [matcher] at found
  exact p.start_ne_of_avoids checked.1 checked.2 found

end Builtin

/--
With every engine that handles their patterns the built-in grammars compile, and highlighting a text
has tags unless it is interrupted, because a search on one of its lines is given up. Whatever number
of lines the grammar of C has tokenized, it goes on from a stack that is empty or in a comment in
marks or a string, possibly with a directive around, unless it was interrupted: neither a comment
after two slashes nor a directive without more in it goes on in the next line.
-/
theorem builtin_highlight_ok_unless_interrupted {engine : Engine}
    (handles : ∀ pattern ∈ Builtin.patterns, engine.Handles pattern) :
    (∀ entry ∈ Builtin.all, ∃ table, entry.2.compileWith engine = .ok table ∧
      ∀ classPrefix text,
        (∃ tags, highlight? table classPrefix text = some (.ok tags) ∧
          highlight table classPrefix text = .ok tags) ∨
        highlight? table classPrefix text = none ∧
          ∃ line ∈ physicalLines text, table.GivesUpOn line.content) ∧
    ∃ table, Builtin.c.compileWith engine = .ok table ∧ ∀ (text : Text) (n : Nat),
      (∃ stack cache,
        (tokenizeLines .guarded table 0 [] (some {}) ((physicalLines text).take n)).outcome
            = .ok (stack, some cache) ∧
          (tokenize .guarded table (some {}) text).outcome
            = (tokenizeLines .guarded table ((physicalLines text).take n).length stack (some cache)
                ((physicalLines text).drop n)).outcome ∧
          stack.reverse.map Context.state ∈ [[], [2], [3], [4, 2], [4, 3]]) ∨
      (∃ stack,
        (tokenizeLines .guarded table 0 [] (some {}) ((physicalLines text).take n)).outcome
            = .ok (stack, none)) ∧
          ∃ line ∈ (physicalLines text).take n, table.GivesUpOn line.content := by
  constructor
  · intro entry mem
    obtain ⟨trails, rests, confines⟩ := Builtin.exists_confines mem
    obtain ⟨table, compiled, confined⟩ := Builtin.exists_confined handles mem confines
    refine ⟨table, compiled, fun classPrefix text => ?_⟩
    obtain ⟨tags, highlighted⟩ := confined.exists_highlight classPrefix text
    refine (highlight?_eq table classPrefix text).imp_left fun same => ?_
    exact ⟨tags, highlighted ▸ same, highlighted⟩
  · have listed : ("c", Builtin.c) ∈ Builtin.all := by simp [Builtin.all]
    obtain ⟨table, compiled, confined⟩ :=
      Builtin.exists_confined handles listed Builtin.confines_c
    refine ⟨table, compiled, fun text n => ?_⟩
    have root : ContextStack.trail [] ∈ Builtin.cRests := confined.root
    obtain ⟨stack, cache, outcome, rest⟩ :=
      confined.exists_tokenizeLines root 0 {} ((physicalLines text).take n)
    rcases guarded_tokenizeLines table 0 [] {} ((physicalLines text).take n)
      with same | ⟨⟨left, interrupted, _⟩, gives⟩
    · have guarded : (tokenizeLines .guarded table 0 [] (some {})
          ((physicalLines text).take n)).outcome = .ok (stack, some cache) := by
        rw [same, TextReport.mapMemory, outcome]
        rfl
      refine .inl ⟨stack, cache, guarded, ?_, ?_⟩
      · have onward := outcome_tokenizeLines_append guarded ((physicalLines text).drop n)
        rwa [List.take_append_drop, Nat.zero_add] at onward
      · rw [List.map_reverse]
        exact List.mem_map_of_mem rest
    · exact .inr ⟨⟨left, interrupted⟩, gives⟩

/-- The engine at hand is one that handles all patterns, the end of the line among them. -/
theorem builtin_highlight_ok_unless_interrupted_ofSource :
    "$" ∈ Builtin.patterns ∧
      (∀ pattern ∈ Builtin.patterns, Engine.Handles Matcher.ofSource pattern) ∧
      ∃ table, Builtin.c.compile = .ok table ∧ ∀ (text : Text) (n : Nat),
        (∃ stack cache,
          (tokenizeLines .guarded table 0 [] (some {}) ((physicalLines text).take n)).outcome
              = .ok (stack, some cache) ∧
            stack.reverse.map Context.state ∈ [[], [2], [3], [4, 2], [4, 3]]) ∨
          ∃ line ∈ (physicalLines text).take n, table.GivesUpOn line.content := by
  refine ⟨by decide +kernel, Builtin.handles_ofSource, ?_⟩
  obtain ⟨table, compiled, onward⟩ :=
    (builtin_highlight_ok_unless_interrupted Builtin.handles_ofSource).2
  refine ⟨table, compiled, fun text n => ?_⟩
  rcases onward text n with ⟨stack, cache, outcome, _, states⟩ | ⟨_, gives⟩
  · exact .inl ⟨stack, cache, outcome, states⟩
  · exact .inr gives

/-- On a number of six thousand digits that goes on as a word, the grammar of C is interrupted. -/
theorem builtin_c_interrupted_on_number :
    ∃ table, Builtin.c.compile = .ok table ∧ highlight? table "" (Text.hexNumber 6000) = none := by
  have mem : ("c", Builtin.c) ∈ Builtin.all := by simp [Builtin.all]
  obtain ⟨table, compiled⟩ := Builtin.exists_compile mem
  exact ⟨table, compiled, Builtin.highlight?_c_hexNumber compiled (by decide) ""⟩

end Highlighter
