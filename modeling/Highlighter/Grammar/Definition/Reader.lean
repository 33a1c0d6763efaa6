import Highlighter.Grammar.Definition
import Highlighter.Yaml.Schema

/-!
# Reading definitions

A definition is read from YAML or from JSON. The rules are the same in both: a sequence of four or
three entries, or a record, which may be written as a mapping or as the sequence of its fields.
-/

namespace Highlighter

/-- A style: a name, or a list of names some of which may be left open. -/
def Style.ofDatum? : Datum → Option Style
  | .string name => some (.whole name)
  | d => .groups <$> d.list? (Datum.optional? Datum.string?)

/-- A field of a rule that is a record. -/
inductive RuleField where
  | pattern
  | style
  | push
  | pop
  | popAll
  | state
  deriving DecidableEq, Repr

namespace RuleField

/-- All fields in their order. -/
def all : List RuleField := [pattern, style, push, pop, popAll, state]

/-- The name of a field. -/
def name : RuleField → String
  | pattern => "match"
  | style => "style"
  | push => "push"
  | pop => "pop"
  | popAll => "pop_all"
  | state => "state"

/-- The field that a key names, by its name or by its place. -/
def ofKey? : Datum → Option RuleField
  | .string s => all.find? (·.name == s)
  | .natural n => all[n]?
  | _ => none

end RuleField

namespace RuleRecord

/-- A truth value that is false if it is not given. -/
def flag? : Option Datum → Option Bool
  | none => some false
  | some d => d.bool?

/-- A record from its fields, each given at most once. -/
def ofFields? (fields : List (RuleField × Datum)) : Option RuleRecord := do
  guard (fields.map Prod.fst).Nodup
  let push ← match fields.lookup .push with
    | none => some none
    | some d => d.optional? Datum.unsigned?
  return {
    pattern := ← (← fields.lookup .pattern).string?
    style := ← Style.ofDatum? (← fields.lookup .style)
    push := push
    pop := ← flag? (fields.lookup .pop)
    popAll := ← flag? (fields.lookup .popAll)
    state := ← flag? (fields.lookup .state) }

/-- A record from a mapping or from the sequence of its fields. -/
def ofDatum? : Datum → Option RuleRecord
  | .mapping entries => do ofFields? (← entries.mapM fun (k, v) => (·, v) <$> RuleField.ofKey? k)
  | .sequence items => do
    guard (items.length ≤ RuleField.all.length)
    ofFields? (RuleField.all.zip items)
  | _ => none

end RuleRecord

namespace RuleDefinition

/-- A rule of four entries. -/
def tuple? : Datum → Option RuleDefinition
  | .sequence [p, s, c, b] => do
    return tuple (← p.string?) (← Style.ofDatum? s) (← c.signed?) (← b.bool?)
  | _ => none

/-- A rule of three entries. -/
def shortTuple? : Datum → Option RuleDefinition
  | .sequence [p, s, c] => do
    return shortTuple (← p.string?) (← Style.ofDatum? s) (← c.signed?)
  | _ => none

/-- A rule in the first way of writing that fits. -/
def ofDatum? (d : Datum) : Option RuleDefinition :=
  tuple? d <|> shortTuple? d <|> record <$> RuleRecord.ofDatum? d

end RuleDefinition

/-- The value of a field that is given at most once. -/
def uniqueField? {α : Type} (name : String) (fields : List (String × α)) : Option (Option α) :=
  match fields.filter (·.1 == name) with
  | [] => some none
  | [(_, v)] => some (some v)
  | _ => none

namespace Definition

/-- The rules of a JSON array. -/
def rulesOfJson? : Json → Option (List RuleDefinition)
  | .array items => items.mapM fun v => v.toDatum?.bind RuleDefinition.ofDatum?
  | _ => none

/-- The states of a JSON array. -/
def statesOfJson? : Json → Option (List (List RuleDefinition))
  | .array items => items.mapM rulesOfJson?
  | _ => none

/-- The name of a grammar, which may be null. -/
def nameOfJson? : Json → Option (Option String)
  | .null => some none
  | .string s => some <$> s
  | _ => none

/-- A definition from an object, or from the array of a name and the states. -/
def ofJson? : Json → Option Definition
  | .object members => do
    let fields ← members.mapM fun (k, v) => (·, v) <$> k
    let name ← match ← uniqueField? "name" fields with
      | none => some none
      | some v => nameOfJson? v
    return ⟨name, ← statesOfJson? (← ← uniqueField? "states" fields)⟩
  | .array [name, states] => do return ⟨← nameOfJson? name, ← statesOfJson? states⟩
  | _ => none

/-- Reads a definition from a JSON text. -/
def readJson (t : Text) : Except GrammarError Definition := do
  let v ← (Json.read t).mapError .json
  match ofJson? v with
  | some d => return d
  | none => throw (.json .mismatch)

/-- A definition from the fields of a YAML document. -/
def ofYamlFields? (fields : List (String × Yaml.Tree)) : Option Definition := do
  let name ← match ← uniqueField? "name" fields with
    | none => some none
    | some t => t.optionalText?
  let states ← (← (← ← uniqueField? "states" fields).items?).mapM fun rules => do
    (← rules.items?).mapM fun rule => rule.toDatum?.bind RuleDefinition.ofDatum?
  return ⟨name, states⟩

/-- Reads a definition from a YAML text. -/
def readYaml (t : Text) : Except GrammarError Definition := do
  let fields ← (Yaml.readFields t).mapError .yaml
  match ofYamlFields? fields with
  | some d => return d
  | none => throw (.yaml .mismatch)

end Definition

namespace Table

/-- Reads and compiles a definition from a JSON text. -/
def readJson (t : Text) : Except GrammarError Table := do (← Definition.readJson t).compile

/-- Reads and compiles a definition from a YAML text. -/
def readYaml (t : Text) : Except GrammarError Table := do (← Definition.readYaml t).compile

end Table

end Highlighter
