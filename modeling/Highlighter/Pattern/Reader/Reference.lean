import Highlighter.Pattern.Reader.Quantifier

/-!
# References to groups

A group is referred to by its number, by its distance from the reference, or by its name. A
back-reference may add a nesting level, and a call names the group that it matches again.
-/

namespace Highlighter.PatternReader

/-- How far a pattern has been read, and the groups in it so far. -/
structure Scan where
  rest : List Char
  groups : Nat := 0
  /-- Named groups, the latest first. -/
  named : List (List Char × Nat) := []
  /-- The highest group that is referred to by its number; zero if none is. -/
  highest : Nat := 0
  /-- Whether a group is called by its number. -/
  callsByNumber : Bool := false

/-- The name of a group up to a closing character: anything behind a word character. -/
def readName (close : Char) (rest : List Char) : Except PatternError (List Char × List Char) :=
  let name := rest.takeWhile fun c => c != close && c != ')'
  match rest.drop name.length, name with
  | c :: rest, first :: _ =>
    if c == close && CharProperty.word.holds first && (digitValue? 10 first).isNone then
      .ok (name, rest)
    else .error .invalidName
  | _, _ => .error .invalidName

/-- A reference as it is written. -/
inductive Written where
  | absolute (n : Nat)
  /-- So many groups before the reference. -/
  | before (n : Nat)
  /-- So many groups behind the reference. -/
  | behind (n : Nat)
  | name (text : List Char)

/-- The number of the group that a reference by number means, in a pattern read so far. -/
def Written.number? (s : Scan) : Written → Option Nat
  | absolute n => some n
  | before n => if 0 < n ∧ n ≤ s.groups then some (s.groups + 1 - n) else none
  | behind n => if 0 < n then some (s.groups + n) else none
  | name _ => none

/-- Digits behind an optional sign, if a number is written there. -/
def readSigned? (rest : List Char) : Option (Written × List Char) :=
  match rest with
  | '-' :: rest =>
    let n := readDecimal rest
    if n.digits = 0 then none else some (.before n.value, n.rest)
  | '+' :: rest =>
    let n := readDecimal rest
    if n.digits = 0 then none else some (.behind n.value, n.rest)
  | rest =>
    let n := readDecimal rest
    if n.digits = 0 then none else some (.absolute n.value, n.rest)

/-- A nesting level behind a reference, if one is written there. -/
def readLevel? (rest : List Char) : Option Int × List Char :=
  match rest with
  | '-' :: digits =>
    let n := readDecimal digits
    if n.digits = 0 then (none, rest) else (some (-(n.value : Int)), n.rest)
  | '+' :: digits =>
    let n := readDecimal digits
    if n.digits = 0 then (none, rest) else (some (n.value : Int), n.rest)
  | _ => (none, rest)

/-- A reference up to a closing character, with its nesting level. -/
def readWritten (close : Char) (rest : List Char) :
    Except PatternError (Written × Option Int × List Char) := do
  let (w, rest) ← match readSigned? rest with
    | some found => pure found
    | none =>
      let name := rest.takeWhile CharProperty.word.holds
      if name.isEmpty then throw .invalidName
      pure (.name name, rest.drop name.length)
  let (level, rest) := readLevel? rest
  match rest with
  | c :: rest => if c = close then return (w, level, rest) else throw .invalidName
  | [] => throw .invalidName

/-- The groups that a reference means. -/
def groupsOf (s : Scan) (w : Written) : Except PatternError (List Nat × Scan) :=
  match w with
  | .name text =>
    match (s.named.filter fun p => p.1 == text).map Prod.snd with
    | [] => .error .undefinedName
    | groups => .ok (groups, s)
  | w =>
    match w.number? s with
    | some 0 => .error .undefinedGroup
    | some n => .ok ([n], { s with highest := max s.highest n })
    | none => .error .undefinedGroup

/-- A back-reference, behind its opening character. -/
def readReference (flags : Flags) (s : Scan) (close : Char) (rest : List Char) :
    Except PatternError (Regex × Scan) := do
  let (w, level, rest) ← readWritten close rest
  let (groups, s) ← groupsOf s w
  let r := if level.all (· == 0) then .backref groups flags.ignoreCase else .fail
  return (r, { s with rest })

/-- A call of a group, behind its opening character. -/
def readCall (s : Scan) (close : Char) (rest : List Char) :
    Except PatternError (Regex × Scan) := do
  match readSigned? rest with
  | some (w, c :: rest) =>
    if c ≠ close then throw .invalidName
    match w.number? s with
    | some n => return (.call (.number n), { s with rest, callsByNumber := true })
    | none => throw .undefinedGroup
  | some (_, []) => throw .invalidName
  | none =>
    let (name, rest) ← readName close rest
    return (.call (.name name), { s with rest })

end Highlighter.PatternReader
