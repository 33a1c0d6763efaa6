import Highlighter.Grammar.Table
import Highlighter.Json
import Highlighter.Pattern.Reader
import Highlighter.Yaml.Cursor

/-!
# Grammar definitions

A definition is a grammar as it is written: patterns are texts, and a transition is a number or a
choice of words. Compiling a definition turns it into a table, rule by rule, and stops at the first
rule that says something impossible.
-/

namespace Highlighter

/-- Why a grammar could not be read or compiled. -/
inductive GrammarError where
  | yaml (cause : Yaml.YamlError)
  | json (cause : JsonError)
  | emptyGrammar
  | invalidTransition (code : Int) (state rule : Nat)
  | conflictingTransitions (state rule : Nat)
  | badPattern (pattern : String) (cause : PatternError)
  deriving DecidableEq, Repr

/-- The wording of an error. -/
def GrammarError.message : GrammarError → String
  | yaml cause => "YAML parse error: " ++ cause.message
  | json cause => "JSON parse error: " ++ cause.message
  | emptyGrammar => "grammar has no lexical states"
  | invalidTransition code state rule =>
    s!"invalid transition code {code} in state {state}, rule {rule}"
  | conflictingTransitions state rule =>
    s!"rule {rule} in state {state} declares more than one transition"
  | badPattern pattern cause => s!"regex compile error for pattern '{pattern}': {cause.message}"

/-- A rule whose transition is given in words. -/
structure RuleRecord where
  pattern : String
  style : Style
  push : Option Nat
  pop : Bool
  popAll : Bool
  state : Bool
  deriving DecidableEq, Repr

/-- A rule as it is written. -/
inductive RuleDefinition where
  /-- A pattern, a style, the code of a transition and whether a context opened is a state. -/
  | tuple (pattern : String) (style : Style) (code : Int) (state : Bool)
  /-- The same without the last entry. -/
  | shortTuple (pattern : String) (style : Style) (code : Int)
  | record (r : RuleRecord)
  deriving DecidableEq, Repr

/-- A grammar as it is written. -/
structure Definition where
  name : Option String
  states : List (List RuleDefinition)
  deriving DecidableEq, Repr

/-- An engine reads patterns: it makes matchers of their sources. -/
abbrev Engine := String → Except PatternError Matcher

/-- The transition that a record asks for, if it asks for at most one. -/
def RuleRecord.transition? (r : RuleRecord) : Option Transition :=
  match r.push, r.pop, r.popAll with
  | none, false, false => some .stay
  | some target, false, false => some (.push target)
  | none, true, false => some .pop
  | none, false, true => some .popAll
  | _, _, _ => none

namespace RuleDefinition

/-- The text of the pattern. -/
def pattern : RuleDefinition → String
  | tuple p _ _ _ => p
  | shortTuple p _ _ => p
  | record r => r.pattern

/-- The style of a match. -/
def style : RuleDefinition → Style
  | tuple _ s _ _ => s
  | shortTuple _ s _ => s
  | record r => r.style

/-- Whether a context opened by the rule lends its style to the text inside. -/
def kind : RuleDefinition → ContextKind
  | tuple _ _ _ true => .state
  | tuple _ _ _ false => .environment
  | shortTuple _ _ _ => .environment
  | record r => if r.state then .state else .environment

/-- The transition of the rule with an index in the state with an index. -/
def transition (state rule : Nat) : RuleDefinition → Except GrammarError Transition
  | tuple _ _ code _ => ofCode code
  | shortTuple _ _ code => ofCode code
  | record r =>
    match r.transition? with
    | some t => .ok t
    | none => .error (.conflictingTransitions state rule)
where
  /-- The transition that a number stands for. -/
  ofCode (code : Int) : Except GrammarError Transition :=
    match Transition.ofCode? code with
    | some t => .ok t
    | none => .error (.invalidTransition code state rule)

/-- Compiles the rule with an index in the state with an index. -/
def compile (engine : Engine) (state rule : Nat) (d : RuleDefinition) :
    Except GrammarError Rule := do
  let transition ← d.transition state rule
  match engine d.pattern with
  | .ok matcher => return ⟨matcher, d.style, transition, d.kind⟩
  | .error cause => throw (.badPattern d.pattern cause)

/-- Compiles the rules of the state with an index, from the one with index `rule` on. -/
def compileFrom (engine : Engine) (state rule : Nat) :
    List RuleDefinition → Except GrammarError (List Rule)
  | [] => .ok []
  | d :: ds => do
    return (← d.compile engine state rule) :: (← compileFrom engine state (rule + 1) ds)

end RuleDefinition

namespace Definition

/-- Compiles the states from the one with index `state` on. -/
def compileFrom (engine : Engine) (state : Nat) :
    List (List RuleDefinition) → Except GrammarError (List LexicalState)
  | [] => .ok []
  | rules :: more => do
    return (← RuleDefinition.compileFrom engine state 0 rules) ::
      (← compileFrom engine (state + 1) more)

/-- Compiles a definition with the matchers of an engine. -/
def compileWith (engine : Engine) (d : Definition) : Except GrammarError Table := do
  let states ← compileFrom engine 0 d.states
  if h : states ≠ [] then return ⟨d.name, states, h⟩ else throw .emptyGrammar

/-- Compiles a definition. -/
def compile (d : Definition) : Except GrammarError Table := d.compileWith Matcher.ofSource

end Definition

end Highlighter
