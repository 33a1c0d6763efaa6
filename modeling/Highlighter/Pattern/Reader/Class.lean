import Highlighter.Pattern.Reader.Escape

/-!
# Character classes

A class lists characters, ranges, properties and further classes between square brackets; `&&`
intersects what stands before it with what follows. A hyphen that cannot make a range stands for
itself, and so does a closing bracket in the first place if another one closes the class.
-/

namespace Highlighter.PatternReader

/-- A character of a class; `raw` if it was written as a byte. -/
structure ClassValue where
  code : Nat
  raw : Bool := false
  deriving DecidableEq, Repr

/-- What a hyphen or a further item would refer to. -/
inductive ClassState where
  | start
  | value (v : ClassValue)
  | property
  | range (first : ClassValue)
  | complete
  deriving DecidableEq, Repr

/-- The items of a class so far: those before the last `&&`, those behind it, and the state. -/
structure ClassItems where
  before : Option CharSet := none
  items : CharSet := .none
  state : ClassState := .start

namespace ClassItems

/-- Adds a set. -/
def add (c : ClassItems) (s : CharSet) : ClassItems := { c with items := c.items.union s }

/-- The code points from one to another; a byte beyond ASCII is no character of its own. -/
def between (first last : ClassValue) : CharSet :=
  if last.raw && 0x80 ≤ last.code then
    if first.raw || first.code < 0x80 then .range first.code 0x7F else .range first.code last.code
  else .range first.code last.code

/-- Takes in the character that was waiting for a hyphen. -/
def settle (c : ClassItems) : ClassItems :=
  match c.state with
  | .value v => c.add (between v v)
  | _ => c

/-- A character. -/
def char (c : ClassItems) (v : ClassValue) : Except PatternError ClassItems :=
  match c.state with
  | .range first =>
    if v.code < first.code then .error .emptyRange
    else .ok { c.add (between first v) with state := .complete }
  | _ => .ok { c.settle with state := .value v }

/-- A property. -/
def property (c : ClassItems) (s : CharSet) : Except PatternError ClassItems :=
  match c.state with
  | .range _ => .error .propertyInRange
  | _ => .ok { c.settle.add s with state := .property }

/-- A class inside the class. -/
def inner (c : ClassItems) (s : CharSet) : ClassItems := { c.settle.add s with state := .complete }

/-- The set of the items so far. -/
def toSet (c : ClassItems) : CharSet :=
  let c := c.settle
  match c.before with
  | some s => .inter s c.items
  | none => c.items

/-- A hyphen; `last` if the class or a part of it ends behind it. -/
def hyphen (c : ClassItems) (last : Bool) : Except PatternError ClassItems :=
  match c.state with
  | .value v => if last then c.char ⟨'-'.toNat, false⟩ else .ok { c with state := .range v }
  | .property => if last then c.char ⟨'-'.toNat, false⟩ else .error .propertyInRange
  | _ => c.char ⟨'-'.toNat, false⟩

/-- A code point; only as the end of a range it may be one without a character. -/
def point (c : ClassItems) (n : Nat) : Except PatternError ClassItems :=
  match c.state with
  | .range _ =>
    if n.isValidChar || (0x100 ≤ n && n ≤ 0x7FFFFFFF) then c.char ⟨n, false⟩
    else .error .invalidCode
  | _ => if n.isValidChar then c.char ⟨n, false⟩ else .error .invalidCode

/-- Further code points of a list, of which some end a range. -/
def points (c : ClassItems) : List (Bool × Nat) → Except PatternError ClassItems
  | [] => .ok c
  | (joined, n) :: rest => do
    let c ← if joined then c.hyphen false else pure c
    (← c.point n).points rest

end ClassItems

/-- Whether a text, behind `[:`, is a name of letters and `:]`. -/
def namesProperty (rest : List Char) : Bool :=
  let name := match rest with
    | '^' :: rest => rest
    | rest => rest
  match name.dropWhile CharProperty.alpha.holds with
  | ':' :: ']' :: _ => rest.head? != some ':'
  | _ => false

/-- The property that a bracket expression names, behind `[:`. -/
def readBracket (flags : Flags) (rest : List Char) : Except PatternError (CharSet × List Char) :=
  let (negated, rest) := match rest with
    | '^' :: rest => (true, rest)
    | rest => (false, rest)
  let name := rest.takeWhile (· != ':')
  match CharProperty.names.lookup (String.ofList name) with
  | some p => .ok (flags.property p negated, rest.drop (name.length + 2))
  | none => .error .unknownProperty

/-- An escape in a class. -/
def readClassEscape (flags : Flags) (c : ClassItems) (rest : List Char) :
    Except PatternError (ClassItems × List Char) := do
  match rest with
  | [] => throw .endAtEscape
  | x :: after =>
    match letterProperty? x with
    | some (p, negated) => return (← c.property (flags.property p negated), after)
    | none =>
      match x, after with
      | 'p', '\x7b' :: after => do
        let (s, after) ← readProperty flags false after
        return (← c.property s, after)
      | 'P', '\x7b' :: after => do
        let (s, after) ← readProperty flags true after
        return (← c.property s, after)
      | _, _ =>
        match ← readCode? true rest with
        | some (.point n, more, after) => return (← (← c.point n).points more, after)
        | some (.byte n, _, after) =>
          if n < 0xC2 ∨ 0xF4 < n then return (← c.char ⟨n, true⟩, after)
          else
            let (x, after) ← readEncoded n after
            return (← c.char ⟨x.toNat, false⟩, after)
        | none =>
          match digitValue? 8 x with
          | some _ =>
            let n := readNumber 8 3 rest
            if 0xFF < n.value then throw .tooBigNumber
            return (← c.char ⟨n.value, true⟩, n.rest)
          | none => return (← c.char ⟨x.toNat, false⟩, after)

/-- The deepest nesting of groups and classes. -/
def maxDepth : Nat := 4096

mutual
/-- A class, behind its opening bracket, at a depth. -/
def readClass : Nat → Flags → Nat → List Char → Except PatternError (CharSet × List Char)
  | 0, _, _, _ => .error .tooDeep
  | fuel + 1, flags, depth, rest => do
    if maxDepth < depth then throw .tooDeep
    let (negated, rest) := match rest with
      | '^' :: rest => (true, rest)
      | rest => (false, rest)
    let (s, rest) ← match rest with
      | ']' :: rest =>
        if rest.contains ']' then
          readItems fuel flags depth { state := .value ⟨']'.toNat, false⟩ } rest
        else throw .emptyClass
      | rest => readItems fuel flags depth {} rest
    return (.negatedIf negated s, rest)

/-- The items of a class up to its closing bracket. -/
def readItems : Nat → Flags → Nat → ClassItems → List Char →
    Except PatternError (CharSet × List Char)
  | 0, _, _, _, _ => .error .tooDeep
  | _ + 1, _, _, _, [] => .error .unclosedClass
  | _ + 1, _, _, c, ']' :: rest => .ok (c.toSet, rest)
  | fuel + 1, flags, depth, c, '-' :: rest => do
    let last := match rest with
      | ']' :: _ => true
      | '&' :: '&' :: _ => true
      | _ => false
    readItems fuel flags depth (← c.hyphen last) rest
  | fuel + 1, flags, depth, c, '&' :: '&' :: rest =>
    readItems fuel flags depth { before := some c.toSet } rest
  | fuel + 1, flags, depth, c, '[' :: rest => do
    match rest with
    | ':' :: name =>
      if namesProperty name then
        let (s, rest) ← readBracket flags name
        readItems fuel flags depth (← c.property s) rest
      else
        let (s, rest) ← readClass fuel flags (depth + 1) rest
        readItems fuel flags depth (c.inner s) rest
    | rest =>
      let (s, rest) ← readClass fuel flags (depth + 1) rest
      readItems fuel flags depth (c.inner s) rest
  | fuel + 1, flags, depth, c, '\\' :: rest => do
    let (c, rest) ← readClassEscape flags c rest
    readItems fuel flags depth c rest
  | fuel + 1, flags, depth, c, x :: rest => do
    readItems fuel flags depth (← c.char ⟨x.toNat, false⟩) rest
end

end Highlighter.PatternReader
