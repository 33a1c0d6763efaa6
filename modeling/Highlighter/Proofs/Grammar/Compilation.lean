import Mathlib.Data.List.Forall2
import Highlighter.Grammar.Definition

/-!
# What compilation makes of a definition

A rule is compiled by itself: it yields a rule if its transition can be told and its pattern can be
read, whatever its place (`RuleDefinition.compile_eq_ok_iff`). So a definition compiles to the
tables that agree with it place by place (`Definition.compileWith_eq_ok_iff`). All this holds for
every engine; with the one at hand the matchers of a table are those of the plans of its patterns
(`RuleDefinition.Yields.exists_plan?`).
-/

namespace Highlighter

/-- Two computations in a row succeed if both do. -/
lemma Except.bind_eq_ok {ε α β : Type} {x : Except ε α} {f : α → Except ε β} {b : β} :
    x >>= f = .ok b ↔ ∃ a, x = .ok a ∧ f a = .ok b := by
  cases x with
  | error e => simp [bind, Except.bind]
  | ok a => simp [bind, Except.bind]

section

variable {α β : Type} {R : α → β → Prop} {l : List α} {m : List β}

/-- Lists that are related member by member have a partner at every index. -/
lemma exists_getElem? (h : List.Forall₂ R l m) {i : Nat} {a : α} (here : l[i]? = some a) :
    ∃ b, m[i]? = some b ∧ R a b := by
  induction h generalizing i with
  | nil => cases here
  | @cons a' b l m first _ ih =>
    cases i with
    | zero =>
      cases here
      exact ⟨b, rfl, first⟩
    | succ i => simpa using ih (by simpa using here)

/-- A member on the left has a partner on the right. -/
lemma exists_of_mem_left (h : List.Forall₂ R l m) {a : α} (mem : a ∈ l) : ∃ b ∈ m, R a b := by
  obtain ⟨i, here⟩ := List.mem_iff_getElem?.1 mem
  obtain ⟨b, there, related⟩ := exists_getElem? h here
  exact ⟨b, List.mem_of_getElem? there, related⟩

/-- A member on the right has a partner on the left. -/
lemma exists_of_mem_right (h : List.Forall₂ R l m) {b : β} (mem : b ∈ m) : ∃ a ∈ l, R a b :=
  exists_of_mem_left (R := flip R) (List.Forall₂.flip h) mem

/-- If every member has a partner, the list has one. -/
lemma exists_forall₂ (h : ∀ a ∈ l, ∃ b, R a b) : ∃ m, List.Forall₂ R l m := by
  induction l with
  | nil => exact ⟨[], .nil⟩
  | cons a l ih =>
    obtain ⟨b, first⟩ := h a List.mem_cons_self
    obtain ⟨m, others⟩ := ih fun a' mem => h a' (List.mem_cons_of_mem a mem)
    exact ⟨b :: m, .cons first others⟩

end

/-- The engine at hand reads the pattern and searches for it. -/
lemma Matcher.ofSource_eq_ok_iff {source : String} {m : Matcher} :
    ofSource source = .ok m ↔ ∃ p, Pattern.read source.toList = .ok p ∧ p.matcher source = m := by
  rw [ofSource, Except.bind_eq_ok]
  constructor
  · rintro ⟨p, read, made⟩
    cases made
    exact ⟨p, read, rfl⟩
  · rintro ⟨p, read, rfl⟩
    exact ⟨p, read, rfl⟩

namespace RuleDefinition

variable {engine : Engine} {d : RuleDefinition} {state index : Nat} {rule : Rule}

/-- The rule says what its definition says, with the matcher of the pattern. -/
structure Yields (engine : Engine) (d : RuleDefinition) (rule : Rule) : Prop where
  transition : d.transition 0 0 = .ok rule.transition
  matcher : engine d.pattern = .ok rule.matcher
  style : rule.style = d.style
  kind : rule.kind = d.kind

/-- The place of a rule shows only in errors. -/
lemma transition_eq_ok_iff {t : Transition} :
    d.transition state index = .ok t ↔ d.transition 0 0 = .ok t := by
  cases d with
  | tuple pattern style code opens =>
    rw [transition, transition, transition.ofCode, transition.ofCode]
    cases Transition.ofCode? code <;> simp
  | shortTuple pattern style code =>
    rw [transition, transition, transition.ofCode, transition.ofCode]
    cases Transition.ofCode? code <;> simp
  | record r =>
    rw [transition, transition]
    cases r.transition? <;> simp

/-- A rule compiles to what it yields. -/
lemma compile_eq_ok_iff : d.compile engine state index = .ok rule ↔ d.Yields engine rule := by
  rw [compile, Except.bind_eq_ok]
  constructor
  · rintro ⟨t, ht, made⟩
    cases read : engine d.pattern with
    | error cause => rw [read] at made; cases made
    | ok m =>
      rw [read] at made
      cases made
      exact ⟨transition_eq_ok_iff.1 ht, read, rfl, rfl⟩
  · rintro ⟨ht, read, hs, hk⟩
    refine ⟨rule.transition, transition_eq_ok_iff.2 ht, ?_⟩
    rw [read, ← hs, ← hk]
    rfl

/-- The rules of a state compile to rules that they yield one by one. -/
lemma compileFrom_eq_ok_iff {ds : List RuleDefinition} {rules : List Rule} :
    compileFrom engine state index ds = .ok rules ↔ List.Forall₂ (Yields engine) ds rules := by
  induction ds generalizing index rules with
  | nil => simp [compileFrom, eq_comm]
  | cons d ds ih =>
    simp only [compileFrom, Except.bind_eq_ok, compile_eq_ok_iff, ih, List.forall₂_cons_left_iff]
    constructor
    · rintro ⟨rule, first, rest, others, made⟩
      cases made
      exact ⟨rule, rest, first, others, rfl⟩
    · rintro ⟨rule, rest, first, others, rfl⟩
      exact ⟨rule, first, rest, others, rfl⟩

/-- The plan of the pattern, if it can be read. -/
def plan? (d : RuleDefinition) : Option Plan :=
  (Pattern.read d.pattern.toList).toOption.map Pattern.plan

/-- The transition, if it can be told. -/
def transition? (d : RuleDefinition) : Option Transition := (d.transition 0 0).toOption

/-- The transition of the rule is the one that can be told. -/
lemma Yields.transition?_eq (h : d.Yields engine rule) :
    d.transition? = some rule.transition := by
  rw [transition?, h.transition]
  rfl

/-- The matcher of the rule searches by the plan of the pattern. -/
lemma Yields.exists_plan? (h : d.Yields Matcher.ofSource rule) :
    ∃ p : Pattern, d.plan? = some p.plan ∧ rule.matcher = p.matcher d.pattern := by
  obtain ⟨p, read, matcher⟩ := Matcher.ofSource_eq_ok_iff.1 h.matcher
  refine ⟨p, ?_, matcher.symm⟩
  rw [plan?, read]
  rfl

end RuleDefinition

namespace Definition

open RuleDefinition (Yields)

variable {engine : Engine} {d : Definition} {table : Table}

/-- States compile to states that they yield rule by rule. -/
lemma compileFrom_eq_ok_iff {state : Nat} {ds : List (List RuleDefinition)}
    {states : List LexicalState} :
    compileFrom engine state ds = .ok states ↔
      List.Forall₂ (List.Forall₂ (Yields engine)) ds states := by
  induction ds generalizing state states with
  | nil => simp [compileFrom, eq_comm]
  | cons rules ds ih =>
    simp only [compileFrom, Except.bind_eq_ok, RuleDefinition.compileFrom_eq_ok_iff, ih,
      List.forall₂_cons_left_iff]
    constructor
    · rintro ⟨state, first, rest, others, made⟩
      cases made
      exact ⟨state, rest, first, others, rfl⟩
    · rintro ⟨state, rest, first, others, rfl⟩
      exact ⟨state, first, rest, others, rfl⟩

/-- A definition compiles to the table that agrees with it place by place. -/
theorem compileWith_eq_ok_iff :
    d.compileWith engine = .ok table ↔
      table.name = d.name ∧ List.Forall₂ (List.Forall₂ (Yields engine)) d.states table.states := by
  rw [compileWith, Except.bind_eq_ok]
  constructor
  · rintro ⟨states, compiled, made⟩
    split at made
    · cases made
      exact ⟨rfl, compileFrom_eq_ok_iff.1 compiled⟩
    · cases made
  · rintro ⟨hn, hs⟩
    refine ⟨table.states, compileFrom_eq_ok_iff.2 hs, ?_⟩
    rw [dif_pos table.nonempty, ← hn]
    rfl

/-- So it is with the engine at hand. -/
theorem compile_eq_ok_iff :
    d.compile = .ok table ↔ table.name = d.name ∧
      List.Forall₂ (List.Forall₂ (Yields Matcher.ofSource)) d.states table.states :=
  compileWith_eq_ok_iff

/-- Every rule of the table comes of a rule of the definition. -/
lemma exists_yields_of_mem (compiled : d.compileWith engine = .ok table) {rule : Rule}
    (mem : rule ∈ table.rules) : ∃ r ∈ d.states.flatten, RuleDefinition.Yields engine r rule := by
  obtain ⟨rules, state, mem⟩ := List.mem_flatten.1 mem
  obtain ⟨rs, state', yields⟩ := exists_of_mem_right (compileWith_eq_ok_iff.1 compiled).2 state
  obtain ⟨r, mem', yields⟩ := exists_of_mem_right yields mem
  exact ⟨r, List.mem_flatten.2 ⟨rs, state', mem'⟩, yields⟩

end Definition

end Highlighter
