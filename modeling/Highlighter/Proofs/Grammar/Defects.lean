import Highlighter.Proofs.Grammar.Compilation

/-!
# The first defect of a definition

Each transition has a number and a record that ask for it (`Transition.code`, `Transition.record`).
A rule spells out what it says by one of the two (`RuleDefinition.Spells`), or there is something
wrong with it (`RuleDefinition.Defect`), and compiling the rule tells which. Compiling a definition
makes two nested traversals, so what it reports is the defect of the first rule that has one, at the
place of that rule, and the way in which rules are spelled does not matter. The main result is
`Definition.compile_reports_first_defect`.
-/

namespace Highlighter

namespace Transition

/-- The number that stands for a transition. -/
def code : Transition → Int
  | stay => -1
  | pop => -2
  | popAll => -3
  | push state => state

/-- The record that asks for a transition in words. -/
def record (t : Transition) (pattern : String) (style : Style) (state : Bool) : RuleRecord :=
  match t with
  | stay => ⟨pattern, style, none, false, false, state⟩
  | pop => ⟨pattern, style, none, true, false, state⟩
  | popAll => ⟨pattern, style, none, false, true, state⟩
  | push target => ⟨pattern, style, some target, false, false, state⟩

/-- A transition can be read from its code. -/
lemma ofCode?_code (t : Transition) : ofCode? t.code = some t := by
  cases t <;> rfl

/-- A number stands for a transition, or it is too small. -/
lemma exists_code_or_lt (code : Int) : (∃ t : Transition, code = t.code) ∨ code < -3 := by
  rcases code with n | _ | _ | _ | n
  · exact .inl ⟨.push n, rfl⟩
  · exact .inl ⟨.stay, rfl⟩
  · exact .inl ⟨.pop, rfl⟩
  · exact .inl ⟨.popAll, rfl⟩
  · exact .inr (by omega)

/-- Codes below those of the three named transitions mean nothing. -/
lemma ofCode?_of_lt {code : Int} (lt : code < -3) : ofCode? code = none := by
  rcases code with n | _ | _ | _ | n
  · exact absurd lt (by simp)
  · exact absurd lt (by decide)
  · exact absurd lt (by decide)
  · exact absurd lt (by decide)
  · rfl

/-- A transition can be read from a record that asks for it. -/
lemma transition?_record (t : Transition) (pattern : String) (style : Style) (state : Bool) :
    (t.record pattern style state).transition? = some t := by
  cases t <;> rfl

end Transition

namespace RuleRecord

/-- Number of transitions that a record asks for. -/
def asked (r : RuleRecord) : Nat := r.push.toList.length + r.pop.toNat + r.popAll.toNat

/-- A record asks for a transition, or for more than one. -/
lemma exists_record_or_lt (r : RuleRecord) :
    (∃ t : Transition, r = t.record r.pattern r.style r.state) ∨ 1 < r.asked := by
  obtain ⟨pattern, style, _ | target, _ | _, _ | _, state⟩ := r
  · exact .inl ⟨.stay, rfl⟩
  · exact .inl ⟨.popAll, rfl⟩
  · exact .inl ⟨.pop, rfl⟩
  · exact .inr (Nat.lt_add_one 1)
  · exact .inl ⟨.push target, rfl⟩
  all_goals exact .inr (by simp [asked])

/-- A record that asks for more than one transition has none. -/
lemma transition?_of_lt {r : RuleRecord} (lt : 1 < r.asked) : r.transition? = none := by
  obtain ⟨pattern, style, push, pop, popAll, state⟩ := r
  revert lt
  cases push <;> cases pop <;> cases popAll <;> simp [asked, transition?]

end RuleRecord

namespace RuleDefinition

/--
What a rule spells out: its pattern, its style, its transition and whether a context that it opens
is a state.
-/
inductive Spells : RuleDefinition → String → Style → Transition → Bool → Prop where
  | tuple (pattern : String) (style : Style) (t : Transition) (state : Bool) :
    Spells (.tuple pattern style t.code state) pattern style t state
  | shortTuple (pattern : String) (style : Style) (t : Transition) :
    Spells (.shortTuple pattern style t.code) pattern style t false
  | record (pattern : String) (style : Style) (t : Transition) (state : Bool) :
    Spells (.record (t.record pattern style state)) pattern style t state

/-- What is wrong with the transition of the rule with an index in the state with an index. -/
inductive Misdirected (state index : Nat) : RuleDefinition → GrammarError → Prop where
  | tuple {pattern : String} {style : Style} {code : Int} {opens : Bool} :
    code < -3 →
    Misdirected state index (.tuple pattern style code opens) (.invalidTransition code state index)
  | shortTuple {pattern : String} {style : Style} {code : Int} :
    code < -3 →
    Misdirected state index (.shortTuple pattern style code) (.invalidTransition code state index)
  | record {r : RuleRecord} :
    1 < r.asked → Misdirected state index (.record r) (.conflictingTransitions state index)

/-- What is wrong with a rule. Its pattern matters only if its transition can be told. -/
inductive Defect (state index : Nat) : RuleDefinition → GrammarError → Prop where
  | transition {d : RuleDefinition} {e : GrammarError} :
    Misdirected state index d e → Defect state index d e
  | pattern {d : RuleDefinition} {pattern : String} {style : Style} {t : Transition} {opens : Bool}
      {cause : PatternError} :
    Spells d pattern style t opens → Matcher.ofSource pattern = .error cause →
    Defect state index d (.badPattern pattern cause)

/-- A rule of a table says what the definition spells out, and searches for its pattern. -/
structure Describes (d : RuleDefinition) (rule : Rule) : Prop where
  spells : ∃ state, Spells d rule.matcher.source rule.style rule.transition state ∧
    rule.kind = if state then .state else .environment
  matcher : Matcher.ofSource rule.matcher.source = .ok rule.matcher

/-- A rule whose transition can be told and whose pattern can be read. -/
def IsSound (d : RuleDefinition) : Prop :=
  ∃ pattern style t state, Spells d pattern style t state ∧ (Matcher.ofSource pattern).isOk

/-- Rules of which the second asks in words for what the first may ask for by a number. -/
inductive Respells : RuleDefinition → RuleDefinition → Prop where
  | same (d : RuleDefinition) : Respells d d
  | tuple (pattern : String) (style : Style) (t : Transition) (state : Bool) :
    Respells (.tuple pattern style t.code state) (.record (t.record pattern style state))
  | shortTuple (pattern : String) (style : Style) (t : Transition) :
    Respells (.shortTuple pattern style t.code) (.record (t.record pattern style false))

end RuleDefinition

/-! ## Compiling a rule -/

/-- A compiled matcher remembers its pattern. -/
lemma Matcher.source_of_ofSource {source : String} {m : Matcher} (ok : ofSource source = .ok m) :
    m.source = source := by
  obtain ⟨p, _, rfl⟩ := ofSource_eq_ok_iff.1 ok
  rfl

namespace RuleDefinition

variable {d d' : RuleDefinition} {state index : Nat} {e : GrammarError}

/-- A rule spells something out, or its transition is wrong. -/
lemma exists_spells_or_misdirected (d : RuleDefinition) (state index : Nat) :
    (∃ pattern style t opens, Spells d pattern style t opens) ∨
      ∃ e, Misdirected state index d e := by
  cases d with
  | tuple pattern style code opens =>
    rcases Transition.exists_code_or_lt code with ⟨t, rfl⟩ | lt
    · exact .inl ⟨pattern, style, t, opens, .tuple ..⟩
    · exact .inr ⟨_, .tuple lt⟩
  | shortTuple pattern style code =>
    rcases Transition.exists_code_or_lt code with ⟨t, rfl⟩ | lt
    · exact .inl ⟨pattern, style, t, false, .shortTuple ..⟩
    · exact .inr ⟨_, .shortTuple lt⟩
  | record r =>
    rcases r.exists_record_or_lt with ⟨t, same⟩ | lt
    · rw [same]
      exact .inl ⟨_, _, t, _, .record ..⟩
    · exact .inr ⟨_, .record lt⟩

/-- A rule that is misdirected fails with what is wrong with its transition. -/
lemma Misdirected.compile_eq (h : Misdirected state index d e) :
    d.compile Matcher.ofSource state index = .error e := by
  have failed : d.transition state index = .error e := by
    cases h with
    | tuple lt => rw [transition, transition.ofCode, Transition.ofCode?_of_lt lt]
    | shortTuple lt => rw [transition, transition.ofCode, Transition.ofCode?_of_lt lt]
    | record lt => rw [transition, RuleRecord.transition?_of_lt lt]
  rw [compile, failed]
  rfl

/-- The rule that comes of what is spelled out, or what is wrong with the pattern. -/
def assemble (pattern : String) (style : Style) (t : Transition) (state : Bool) :
    Except GrammarError Rule :=
  match Matcher.ofSource pattern with
  | .ok matcher => .ok ⟨matcher, style, t, if state then .state else .environment⟩
  | .error cause => .error (.badPattern pattern cause)

/-- What is spelled out is all that compilation looks at. -/
lemma Spells.compile_eq {pattern : String} {style : Style} {t : Transition} {opens : Bool}
    (h : Spells d pattern style t opens) (state index : Nat) :
    d.compile Matcher.ofSource state index = assemble pattern style t opens := by
  have told : d.transition state index = .ok t := by
    cases h with
    | tuple => rw [transition, transition.ofCode, Transition.ofCode?_code]
    | shortTuple => rw [transition, transition.ofCode, Transition.ofCode?_code]
    | record => rw [transition, Transition.transition?_record]
  have parts : d.pattern = pattern ∧ d.style = style ∧
      d.kind = if opens then .state else .environment := by
    cases h with
    | tuple => cases opens <;> exact ⟨rfl, rfl, rfl⟩
    | shortTuple => exact ⟨rfl, rfl, rfl⟩
    | record => cases t <;> exact ⟨rfl, rfl, rfl⟩
  obtain ⟨rfl, rfl, kind⟩ := parts
  rw [compile, told, assemble, ← kind]
  cases Matcher.ofSource d.pattern <;> rfl

/-- A rule is assembled from what was written and the matcher of its pattern. -/
lemma assemble_eq_ok_iff {pattern : String} {style : Style} {t : Transition} {opens : Bool}
    {rule : Rule} :
    assemble pattern style t opens = .ok rule ↔
      rule.matcher.source = pattern ∧ rule.style = style ∧ rule.transition = t ∧
        (rule.kind = if opens then .state else .environment) ∧
        Matcher.ofSource pattern = .ok rule.matcher := by
  rw [assemble]
  cases read : Matcher.ofSource pattern with
  | error cause => simp
  | ok m =>
    have source := Matcher.source_of_ofSource read
    constructor
    · intro h
      cases h
      exact ⟨source, rfl, rfl, rfl, rfl⟩
    · rintro ⟨_, rfl, rfl, kind, same⟩
      cases same
      rw [← kind]

/-- Compiling a rule reports what is wrong with it. -/
lemma compile_eq_error_iff :
    d.compile Matcher.ofSource state index = .error e ↔ Defect state index d e := by
  constructor
  · intro failed
    rcases exists_spells_or_misdirected d state index with ⟨pattern, _, _, _, spells⟩ | ⟨e', wrong⟩
    · rw [spells.compile_eq, assemble] at failed
      cases read : Matcher.ofSource pattern with
      | error cause =>
        rw [read] at failed
        cases failed
        exact .pattern spells read
      | ok m => rw [read] at failed; cases failed
    · obtain rfl : e' = e := Except.error.inj (wrong.compile_eq.symm.trans failed)
      exact .transition wrong
  · intro defect
    cases defect with
    | transition wrong => exact wrong.compile_eq
    | pattern spells unreadable => rw [spells.compile_eq, assemble, unreadable]

/-- Compiling a rule gives what its definition describes. -/
lemma compile_eq_ok_iff_describes {rule : Rule} :
    d.compile Matcher.ofSource state index = .ok rule ↔ Describes d rule := by
  constructor
  · intro made
    rcases exists_spells_or_misdirected d state index with ⟨_, _, _, opens, spells⟩ | ⟨e, wrong⟩
    · rw [spells.compile_eq, assemble_eq_ok_iff] at made
      obtain ⟨rfl, rfl, rfl, kind, read⟩ := made
      exact ⟨⟨opens, spells, kind⟩, read⟩
    · rw [wrong.compile_eq] at made
      cases made
  · rintro ⟨⟨opens, spells, kind⟩, read⟩
    rw [spells.compile_eq, assemble_eq_ok_iff]
    exact ⟨rfl, rfl, rfl, kind, read⟩

/-- What a definition yields is what it describes. -/
lemma yields_iff_describes {rule : Rule} :
    Yields Matcher.ofSource d rule ↔ Describes d rule := by
  rw [← @compile_eq_ok_iff _ d 0 0, compile_eq_ok_iff_describes]

/-- A definition is sound if it yields a rule. -/
lemma isSound_iff : IsSound d ↔ ∃ rule, Yields Matcher.ofSource d rule := by
  constructor
  · rintro ⟨pattern, style, t, opens, spells, readable⟩
    cases read : Matcher.ofSource pattern with
    | error cause => rw [read] at readable; cases readable
    | ok m =>
      refine ⟨⟨m, style, t, if opens then .state else .environment⟩, ?_⟩
      rw [← @compile_eq_ok_iff _ d 0 0, spells.compile_eq, assemble, read]
  · rintro ⟨rule, yields⟩
    obtain ⟨⟨opens, spells, _⟩, read⟩ := yields_iff_describes.1 yields
    exact ⟨_, _, _, opens, spells, by rw [read]; rfl⟩

/-- Asking in words for the same transition changes nothing. -/
lemma Respells.compile_eq (h : Respells d d') (state index : Nat) :
    d'.compile Matcher.ofSource state index = d.compile Matcher.ofSource state index := by
  cases h with
  | same => rfl
  | tuple pattern style t opens =>
    rw [(Spells.record pattern style t opens).compile_eq,
      (Spells.tuple pattern style t opens).compile_eq]
  | shortTuple pattern style t =>
    rw [(Spells.record pattern style t false).compile_eq,
      (Spells.shortTuple pattern style t).compile_eq]

end RuleDefinition

/-! ## Traversals -/

/--
A traversal of a list that makes something of each member at its place, up to the first error.
-/
structure Traverses {ε α β : Type} (f : Nat → α → Except ε β)
    (g : Nat → List α → Except ε (List β)) : Prop where
  nil : ∀ i, g i [] = .ok []
  cons : ∀ i a l, g i (a :: l) = do return (← f i a) :: (← g (i + 1) l)

section

variable {ε α β : Type} {f : Nat → α → Except ε β} {g : Nat → List α → Except ε (List β)}
  {i : Nat} {a : α} {l : List α} {e : ε}

/-- The first member of which an error is made, in a list whose own first member has an index. -/
def FirstError (f : Nat → α → Except ε β) (i : Nat) (l : List α) (e : ε) : Prop :=
  ∃ k a, l[k]? = some a ∧ f (i + k) a = .error e ∧
    ∀ k' < k, ∀ b, l[k']? = some b → ∃ c, f (i + k') b = .ok c

/-- An error in the first place is the first error. -/
lemma firstError_cons_of_error {e' : ε} (first : f i a = .error e') :
    FirstError f i (a :: l) e ↔ e' = e := by
  constructor
  · rintro ⟨k, b, here, failed, earlier⟩
    cases k with
    | zero =>
      cases here
      exact Except.error.inj (first.symm.trans failed)
    | succ k =>
      obtain ⟨c, ok⟩ := earlier 0 (Nat.succ_pos k) a rfl
      cases first.symm.trans ok
  · rintro rfl
    exact ⟨0, a, rfl, first, fun k' lt => absurd lt (Nat.not_lt_zero k')⟩

/-- Behind a first place without an error, the first error is that of the rest. -/
lemma firstError_cons_of_ok {c : β} (first : f i a = .ok c) :
    FirstError f i (a :: l) e ↔ FirstError f (i + 1) l e := by
  -- the same member, counted from `a` or from the one behind it
  have place : ∀ k, i + (k + 1) = i + 1 + k := fun k => by omega
  constructor
  · rintro ⟨k, b, here, failed, earlier⟩
    cases k with
    | zero =>
      cases here
      cases first.symm.trans failed
    | succ k =>
      refine ⟨k, b, here, place k ▸ failed, fun k' lt b' there => ?_⟩
      exact place k' ▸ earlier (k' + 1) (Nat.succ_lt_succ lt) b' there
  · rintro ⟨k, b, here, failed, earlier⟩
    refine ⟨k + 1, b, here, place k ▸ failed, fun k' lt b' there => ?_⟩
    cases k' with
    | zero =>
      cases there
      exact ⟨c, first⟩
    | succ k' => exact place k' ▸ earlier k' (Nat.lt_of_succ_lt_succ lt) b' there

namespace Traverses

/-- A traversal fails with the first error. -/
lemma eq_error_iff (h : Traverses f g) : g i l = .error e ↔ FirstError f i l e := by
  induction l generalizing i with
  | nil => simp [h.nil, FirstError]
  | cons a l ih =>
    rw [h.cons]
    cases first : f i a with
    | error e' =>
      rw [firstError_cons_of_error first]
      exact Except.error.injEq e' e ▸ Iff.rfl
    | ok c =>
      rw [firstError_cons_of_ok first, ← ih]
      cases g (i + 1) l with
      | error e' => exact Iff.rfl
      | ok cs =>
        constructor
        · intro same
          cases same
        · intro same
          cases same

/-- Members of which the same is made may be exchanged. -/
lemma congr (h : Traverses f g) {l' : List α}
    (same : List.Forall₂ (fun a a' => ∀ i, f i a' = f i a) l l') (i : Nat) : g i l' = g i l := by
  induction same generalizing i with
  | nil => rfl
  | cons first _ ih => rw [h.cons, h.cons, first, ih]

end Traverses

end

/-- The rules of a state are compiled one by one. -/
lemma RuleDefinition.traverses_compileFrom (state : Nat) :
    Traverses (RuleDefinition.compile Matcher.ofSource state)
      (RuleDefinition.compileFrom Matcher.ofSource state) :=
  ⟨fun _ => rfl, fun _ _ _ => rfl⟩

/-- So are the states. -/
lemma Definition.traverses_compileFrom :
    Traverses (fun state => RuleDefinition.compileFrom Matcher.ofSource state 0)
      (Definition.compileFrom Matcher.ofSource) :=
  ⟨fun _ => rfl, fun _ _ _ => rfl⟩

/-! ## Compiling a definition -/

namespace RuleDefinition

/-- A rule compiles if its definition is sound. -/
lemma exists_compile_iff {d : RuleDefinition} {state index : Nat} :
    (∃ rule, d.compile Matcher.ofSource state index = .ok rule) ↔ IsSound d := by
  simp only [compile_eq_ok_iff, isSound_iff]

/-- Rules compile if all their definitions are sound. -/
lemma exists_compileFrom_iff {state index : Nat} {ds : List RuleDefinition} :
    (∃ rules, compileFrom Matcher.ofSource state index ds = .ok rules) ↔ ∀ d ∈ ds, IsSound d := by
  simp only [compileFrom_eq_ok_iff, isSound_iff]
  constructor
  · rintro ⟨rules, yields⟩ d mem
    obtain ⟨rule, _, here⟩ := exists_of_mem_left yields mem
    exact ⟨rule, here⟩
  · exact exists_forall₂

end RuleDefinition

namespace Definition

open RuleDefinition (IsSound Defect Describes Respells)

/-- The rule with an index in the state with an index. -/
def rule? (d : Definition) (state index : Nat) : Option RuleDefinition := do
  let rules ← d.states[state]?
  rules[index]?

/-- The first rule, state by state, that has a defect. -/
structure FirstDefect (d : Definition) (state index : Nat) (e : GrammarError) : Prop where
  defect : ∃ rule, d.rule? state index = some rule ∧ Defect state index rule e
  before : ∀ state' index' rule, (state' < state ∨ state' = state ∧ index' < index) →
    d.rule? state' index' = some rule → IsSound rule

/-- A rule is found by its state and its place there. -/
lemma rule?_eq_some_iff {d : Definition} {state index : Nat} {rule : RuleDefinition} :
    d.rule? state index = some rule ↔
      ∃ rules, d.states[state]? = some rules ∧ rules[index]? = some rule :=
  Option.bind_eq_some_iff

/-- Two nested traversals report the first defect. -/
lemma compileFrom_eq_error_iff {d : Definition} {e : GrammarError} :
    compileFrom Matcher.ofSource 0 d.states = .error e ↔
      ∃ state index, d.FirstDefect state index e := by
  simp only [traverses_compileFrom.eq_error_iff,
    (RuleDefinition.traverses_compileFrom _).eq_error_iff, FirstError, Nat.zero_add,
    RuleDefinition.exists_compileFrom_iff, RuleDefinition.exists_compile_iff,
    RuleDefinition.compile_eq_error_iff]
  constructor
  · rintro ⟨state, rules, here, ⟨index, rule, at_index, defect, sound⟩, states⟩
    refine ⟨state, index, ⟨rule, rule?_eq_some_iff.2 ⟨rules, here, at_index⟩, defect⟩, ?_⟩
    intro state' index' rule' before there
    obtain ⟨rules', here', there⟩ := rule?_eq_some_iff.1 there
    rcases before with lt | ⟨rfl, lt⟩
    · exact states state' lt rules' here' rule' (List.mem_of_getElem? there)
    · cases here.symm.trans here'
      exact sound index' lt rule' there
  · rintro ⟨state, index, ⟨rule, found, defect⟩, before⟩
    obtain ⟨rules, here, at_index⟩ := rule?_eq_some_iff.1 found
    refine ⟨state, rules, here, ⟨index, rule, at_index, defect, ?_⟩, ?_⟩
    · intro index' lt rule' there
      exact before state index' rule' (.inr ⟨rfl, lt⟩) (rule?_eq_some_iff.2 ⟨rules, here, there⟩)
    · intro state' lt rules' here' rule' mem
      obtain ⟨index', there⟩ := List.mem_iff_getElem?.1 mem
      exact before state' index' rule' (.inl lt) (rule?_eq_some_iff.2 ⟨rules', here', there⟩)

/-- Compiling fails for want of states, or with the first defect. -/
lemma compile_eq_error_iff {d : Definition} {e : GrammarError} :
    d.compile = .error e ↔
      (d.states = [] ∧ e = .emptyGrammar) ∨ ∃ state index, d.FirstDefect state index e := by
  rw [← compileFrom_eq_error_iff, compile, compileWith]
  cases compiled : compileFrom Matcher.ofSource 0 d.states with
  | error e' =>
    have some : d.states ≠ [] := by
      intro none
      rw [none] at compiled
      cases compiled
    simp [some, bind, Except.bind]
  | ok states =>
    have same : states = [] ↔ d.states = [] := by
      rw [← List.length_eq_zero_iff, ← List.length_eq_zero_iff,
        (compileFrom_eq_ok_iff.1 compiled).length_eq]
    by_cases none : states = []
    · simp [none, same.1 none, bind, Except.bind, throw, throwThe, MonadExceptOf.throw, eq_comm]
    · simp [none, mt same.2 none, bind, Except.bind, pure, Except.pure]

/-- A grammar compiles if it has states and all its rules are sound. -/
lemma exists_compile_iff {d : Definition} :
    (∃ table, d.compile = .ok table) ↔
      d.states ≠ [] ∧ ∀ rules ∈ d.states, ∀ rule ∈ rules, IsSound rule := by
  constructor
  · rintro ⟨table, compiled⟩
    obtain ⟨_, yields⟩ := compile_eq_ok_iff.1 compiled
    refine ⟨?_, fun rules mem rule mem' => ?_⟩
    · intro none
      rw [none, List.forall₂_nil_left_iff] at yields
      exact table.nonempty yields
    · obtain ⟨_, _, yields⟩ := exists_of_mem_left yields mem
      obtain ⟨compiled, _, yields⟩ := exists_of_mem_left yields mem'
      exact RuleDefinition.isSound_iff.2 ⟨compiled, yields⟩
  · rintro ⟨some, sound⟩
    obtain ⟨states, yields⟩ := exists_forall₂ fun rules mem => exists_forall₂ fun rule mem' =>
      RuleDefinition.isSound_iff.1 (sound rules mem rule mem')
    have some : states ≠ [] := by
      rintro rfl
      exact some (List.forall₂_nil_right_iff.1 yields)
    exact ⟨⟨d.name, states, some⟩, compile_eq_ok_iff.2 ⟨rfl, yields⟩⟩

/-- Asking in words for the same transitions changes nothing. -/
lemma compile_of_respells {d d' : Definition} (name : d'.name = d.name)
    (states : List.Forall₂ (List.Forall₂ Respells) d.states d'.states) :
    d'.compile = d.compile := by
  have same :
      compileFrom Matcher.ofSource 0 d'.states = compileFrom Matcher.ofSource 0 d.states := by
    refine traverses_compileFrom.congr (states.imp fun rules rules' respells state => ?_) 0
    exact (RuleDefinition.traverses_compileFrom state).congr
      (respells.imp fun _ _ respelled => respelled.compile_eq state) 0
  rw [compile, compile, compileWith, compileWith, same, name]

/--
A definition compiles if and only if it has a state and all its rules are sound, and then to the
table that it describes place by place. Otherwise the error says that there are no states, or what
is wrong with the first rule that has a defect. The result does not depend on how transitions are
spelled.
-/
theorem compile_reports_first_defect (d : Definition) :
    ((∃ table, d.compile = .ok table) ↔
      d.states ≠ [] ∧ ∀ rules ∈ d.states, ∀ rule ∈ rules, IsSound rule) ∧
    (∀ table, d.compile = .ok table ↔
      table.name = d.name ∧ List.Forall₂ (List.Forall₂ Describes) d.states table.states) ∧
    (∀ e, d.compile = .error e ↔
      (d.states = [] ∧ e = .emptyGrammar) ∨ ∃ state index, d.FirstDefect state index e) ∧
    ∀ d' : Definition, d'.name = d.name →
      List.Forall₂ (List.Forall₂ Respells) d.states d'.states → d'.compile = d.compile := by
  have described : RuleDefinition.Yields Matcher.ofSource = Describes := by
    funext rule compiled
    exact propext RuleDefinition.yields_iff_describes
  refine ⟨exists_compile_iff, fun table => ?_, fun e => compile_eq_error_iff,
    fun d' => compile_of_respells⟩
  rw [compile_eq_ok_iff, described]

/-- A definition with three bad rules, the first of them bad in two ways. -/
def flawed : Definition :=
  ⟨none, [[.tuple "a" (.whole "s") 1 true, .shortTuple "b" (.whole "s") (-2)],
    [.record ⟨"c", .whole "s", none, false, false, false⟩, .tuple "(" (.whole "s") (-7) false,
      .record ⟨"d", .whole "s", some 0, true, false, false⟩],
    [.shortTuple ")" (.whole "s") 0]]⟩

/-- The same definition with its first two transitions in words. -/
def flawedInWords : Definition :=
  ⟨none, [[.record ⟨"a", .whole "s", some 1, false, false, true⟩,
      .record ⟨"b", .whole "s", none, true, false, false⟩],
    [.record ⟨"c", .whole "s", none, false, false, false⟩, .tuple "(" (.whole "s") (-7) false,
      .record ⟨"d", .whole "s", some 0, true, false, false⟩],
    [.shortTuple ")" (.whole "s") 0]]⟩

/-- The transition is reported and not the pattern, also where the rules before are in words. -/
theorem compile_reports_first_defect_flawed :
    flawed.FirstDefect 1 1 (.invalidTransition (-7) 1 1) ∧
    List.Forall₂ (List.Forall₂ Respells) flawed.states flawedInWords.states ∧
    flawed.compile = .error (.invalidTransition (-7) 1 1) ∧
    flawedInWords.compile = .error (.invalidTransition (-7) 1 1) := by
  obtain ⟨_, _, reports, respelled⟩ := compile_reports_first_defect flawed
  have outcome : (flawed.compile.map fun _ => ()) = .error (.invalidTransition (-7) 1 1) := by
    decide +kernel
  have failed : flawed.compile = .error (.invalidTransition (-7) 1 1) := by
    cases compiled : flawed.compile with
    | error e => rw [compiled] at outcome; exact congrArg _ (Except.error.inj outcome)
    | ok table => rw [compiled] at outcome; cases outcome
  have words : List.Forall₂ (List.Forall₂ Respells) flawed.states flawedInWords.states :=
    .cons (.cons (.tuple "a" _ (.push 1) true) (.cons (.shortTuple "b" _ .pop) .nil))
      (List.forall₂_same.2 fun _ _ => List.forall₂_same.2 fun rule _ => .same rule)
  have first : flawed.FirstDefect 1 1 (.invalidTransition (-7) 1 1) := by
    rcases (reports _).1 failed with ⟨none, _⟩ | ⟨state, index, first⟩
    · cases none
    · obtain ⟨rule, _, defect⟩ := first.defect
      cases defect with
      | transition wrong => cases wrong <;> exact first
  exact ⟨first, words, failed, (respelled flawedInWords rfl words).trans failed⟩

end Definition

end Highlighter
