import Highlighter.Pattern.Planning
import Highlighter.Pattern.Reader.Class
import Highlighter.Pattern.Reader.Reference
import Highlighter.Pattern.Recursion

/-!
# Reading patterns

`Pattern.read` reads the usual notation of regular expressions: alternatives, quantifiers, classes,
groups, look-around, references, conditions and options. An option without a group of its own holds
up to the end of the group that it stands in, alternatives included. Where a group has a name,
groups without one do not capture.
-/

namespace Highlighter

namespace PatternReader

/-- The text behind the parenthesis that closes a comment. -/
def skipComment : List Char → Except PatternError (List Char)
  | [] => .error .unclosedGroup
  | '\\' :: _ :: rest => skipComment rest
  | ')' :: rest => .ok rest
  | _ :: rest => skipComment rest

/-- Passes over comments, in an extended pattern also over white space and line comments. -/
def skipIgnored (extended : Bool) : Nat → List Char → Except PatternError (List Char)
  | 0, rest => .ok rest
  | fuel + 1, '(' :: '?' :: '#' :: rest => do skipIgnored extended fuel (← skipComment rest)
  | fuel + 1, c :: rest =>
    if extended then
      if Text.isBlank c then skipIgnored extended fuel rest
      else if c = '#' then
        skipIgnored extended fuel ((rest.dropWhile (· != '\n')).drop 1)
      else .ok (c :: rest)
    else .ok (c :: rest)
  | _ + 1, [] => .ok []

/-- A character that stands for itself. -/
def literal (flags : Flags) (c : Char) : Regex := .word [c] flags.ignoreCase

/-- The spelled-out foldings of the characters of a set that have longer ones. -/
def spelledOut (s : CharSet) : List Regex :=
  (Unicode.fullFoldings.filter fun p => s.mem (Char.ofNat p.1)).map fun p =>
    .join (p.2.map fun n => .set (.ofList (Unicode.variants (Char.ofNat n))))

/-- A class; without case it also matches the longer foldings of its characters. -/
def ofClass (flags : Flags) (s : CharSet) : Regex :=
  match s.onlyChar? with
  | some c => literal flags c
  | none =>
    if flags.ignoreCase then
      match s with
      | .compl s => .set (.compl (.folded s))
      | s => alternatives (.set (.folded s)) (spelledOut s)
    else .set s
where
  /-- An expression and others in its place. -/
  alternatives (r : Regex) : List Regex → Regex
    | [] => r
    | other :: rest => .alt r (alternatives other rest)

/-- The option letters of a group up to `)` or `:`, of which the latter gives `true`. -/
def readOptions (flags : Flags) (off : Bool) : List Char →
    Except PatternError (Flags × Bool × List Char)
  | [] => .error .unclosedGroup
  | ')' :: rest => .ok (flags, false, rest)
  | ':' :: rest => .ok (flags, true, rest)
  | '-' :: rest => readOptions flags true rest
  | 'i' :: rest => readOptions { flags with ignoreCase := !off } off rest
  | 'm' :: rest => readOptions { flags with dotAll := !off } off rest
  | 'x' :: rest => readOptions { flags with extended := !off } off rest
  | 'W' :: rest => readOptions { flags with narrowWord := !off } off rest
  | 'D' :: rest => readOptions { flags with narrowDigit := !off } off rest
  | 'S' :: rest => readOptions { flags with narrowSpace := !off } off rest
  | 'P' :: rest => readOptions { flags with narrowAll := !off } off rest
  | 'y' :: '\x7b' :: 'g' :: '\x7d' :: rest =>
    if off then .error .unknownOption else readOptions flags off rest
  | 'y' :: '\x7b' :: 'w' :: '\x7d' :: rest =>
    if off then .error .unknownOption else readOptions flags off rest
  | _ => .error .unknownOption

/-- A line break of any kind. -/
def anyLineBreak : Regex :=
  .choice (.word ['\r', '\n'] false) .empty
    (.set (.union (.range 10 13) (.union (.range 0x85 0x85) (.range 0x2028 0x2029))))

/-- What a reader takes for one character. -/
def anyUnit : Regex :=
  .atomic (.seq (.set .all) (.loop (.seq (.anchor .noUnitBoundary) (.set .all)) 0 none true))

/-- Something that a quantifier may follow, or that ends a branch. -/
inductive Item where
  | one (r : Regex) (s : Scan)
  /-- Everything up to the end of the group, under other options. -/
  | rest (r : Regex) (s : Scan)

/-- The character of a code and of the codes that follow it in a list. -/
def codeWord (flags : Flags) (n : Nat) (more : List (Bool × Nat)) : Except PatternError Regex := do
  let c ← charOf n
  let cs ← more.mapM fun p => charOf p.2
  return .word (c :: cs) flags.ignoreCase

/-- The expression that one letter behind a backslash stands for. -/
def letterRegex? (flags : Flags) (c : Char) : Option Regex :=
  let narrow := flags.isNarrow .word
  match c with
  | 'b' => some (.anchor (.wordBoundary narrow))
  | 'B' => some (.anchor (.noWordBoundary narrow))
  | 'A' => some (.anchor .textStart)
  | 'Z' => some (.anchor .lastLineEnd)
  | 'z' => some (.anchor .textEnd)
  | 'G' => some (.anchor .searchStart)
  | 'K' => some .keep
  | 'R' => some anyLineBreak
  | 'N' => some (.set .notLineFeed)
  | 'O' => some (.set .all)
  | 'X' => some anyUnit
  | 'y' => some (.anchor .unitBoundary)
  | 'Y' => some (.anchor .noUnitBoundary)
  | c => (letterProperty? c).map fun (p, negated) => .set (flags.property p negated)

/-- What a backslash stands for outside classes. -/
def readEscape (flags : Flags) (s : Scan) (rest : List Char) :
    Except PatternError (Regex × Scan) := do
  match rest with
  | [] => throw .endAtEscape
  | c :: after =>
    match letterRegex? flags c with
    | some r => return (r, { s with rest := after })
    | none =>
      match c, after with
      | 'g', '<' :: after => readCall s '>' after
      | 'g', '\'' :: after => readCall s '\'' after
      | 'k', '<' :: after => readReference flags s '>' after
      | 'k', '\'' :: after => readReference flags s '\'' after
      | 'p', '\x7b' :: after =>
        let (set, after) ← readProperty flags false after
        return (.set set, { s with rest := after })
      | 'P', '\x7b' :: after =>
        let (set, after) ← readProperty flags true after
        return (.set set, { s with rest := after })
      | _, _ =>
        let n := readDecimal rest
        if c != '0' && 0 < n.digits && n.value ≤ 1000 && (n.value ≤ s.groups || n.value ≤ 9) then
          return (.backref [n.value] flags.ignoreCase,
            { s with rest := n.rest, highest := max s.highest n.value })
        else
          match ← readCode? false rest with
          | some (.point n, more, after) =>
            return (← codeWord flags n more, { s with rest := after })
          | some (.byte n, _, after) =>
            let (c, after) ← readEncoded n after
            return (literal flags c, { s with rest := after })
          | none =>
            match digitValue? 8 c with
            | some _ =>
              let n := readNumber 8 3 rest
              if 0xFF < n.value then throw .tooBigNumber
              let (c, after) ← readEncoded n.value n.rest
              return (literal flags c, { s with rest := after })
            | none => return (literal flags c, { s with rest := after })

/-- Applies the quantifiers that follow an item, at a depth. -/
def readQuantifiers (flags : Flags) : Nat → Nat → Regex → Scan → Except PatternError (Regex × Scan)
  | 0, _, _, _ => .error .tooDeep
  | fuel + 1, depth, r, s => do
    let rest ← skipIgnored flags.extended (s.rest.length + 1) s.rest
    match ← readQuantifier? rest with
    | none => return (r, { s with rest })
    | some q =>
      if maxDepth ≤ depth then throw .tooDeep
      readQuantifiers flags fuel (depth + 1) (← q.apply r) { s with rest := q.rest }

/-- The closing parenthesis of a group. -/
def closeGroup (s : Scan) : Except PatternError Scan :=
  match s.rest with
  | ')' :: rest => .ok { s with rest }
  | _ => .error .unclosedGroup

/-- The two branches of a condition: the first alternative and the others. -/
def branches : Regex → Regex × Regex
  | .alt yes no => (yes, no)
  | r => (r, .empty)

/-- Reads what calls out of the match between braces, which does nothing here. -/
def skipCallout (rest : List Char) : Except PatternError (List Char) :=
  let opening := rest.takeWhile (· == '\x7b')
  skipContents opening.length (rest.length + 1) (rest.drop opening.length)
where
  /-- Passes over contents up to as many closing braces, a tag and a direction. -/
  skipContents (braces : Nat) : Nat → List Char → Except PatternError (List Char)
    | 0, _ => .error .unclosedGroup
    | _ + 1, [] => .error .unclosedGroup
    | fuel + 1, c :: rest =>
      if (c :: rest).take braces == List.replicate braces '\x7d' then
        skipTag ((c :: rest).drop braces)
      else skipContents braces fuel rest
  /-- Passes over a tag and a direction. -/
  skipTag (rest : List Char) : Except PatternError (List Char) :=
    let rest := match rest with
      | '[' :: tag => (tag.dropWhile (· != ']')).drop 1
      | rest => rest
    let rest := match rest with
      | 'X' :: rest => rest
      | '<' :: rest => rest
      | '>' :: rest => rest
      | rest => rest
    match rest with
    | ')' :: rest => .ok rest
    | _ => .error .unclosedGroup

mutual
/-- Alternatives up to the end of the group. -/
def readAlternatives : Nat → Flags → Nat → Scan → Except PatternError (Regex × Scan)
  | 0, _, _, _ => .error .tooDeep
  | fuel + 1, flags, depth, s => do
    if maxDepth < depth + 2 then throw .tooDeep
    let (first, s) ← readBranch fuel flags depth [] s
    match s.rest with
    | '|' :: rest =>
      let (others, s) ← readAlternatives fuel flags depth { s with rest }
      return (.alt first others, s)
    | _ => return (first, s)

/-- One alternative, behind the items that were read, the latest first. -/
def readBranch : Nat → Flags → Nat → List Regex → Scan → Except PatternError (Regex × Scan)
  | 0, _, _, _, _ => .error .tooDeep
  | fuel + 1, flags, depth, items, s => do
    let rest ← skipIgnored flags.extended (s.rest.length + 1) s.rest
    match rest with
    | [] => return (.branch items.reverse, { s with rest })
    | '|' :: _ => return (.branch items.reverse, { s with rest })
    | ')' :: _ => return (.branch items.reverse, { s with rest })
    | _ =>
      match ← readItem fuel flags (depth + 2) { s with rest } with
      | .rest r s => return (.branch (r :: items).reverse, s)
      | .one r s =>
        let (r, s) ← readQuantifiers flags (s.rest.length + 1) (depth + 2) r s
        readBranch fuel flags depth (r :: items) s

/-- An item that is not at the end of a branch. -/
def readItem : Nat → Flags → Nat → Scan → Except PatternError Item
  | 0, _, _, _ => .error .tooDeep
  | fuel + 1, flags, depth, s =>
    match s.rest with
    | [] => .error .unclosedGroup
    | c :: rest =>
      if c = '.' then
        .ok (.one (.set (if flags.dotAll then .all else .notLineFeed)) { s with rest })
      else if c = '^' then .ok (.one (.anchor .lineStart) { s with rest })
      else if c = '$' then .ok (.one (.anchor .lineEnd) { s with rest })
      else if c = '[' then do
        let (set, rest) ← readClass (rest.length + 1) flags (depth + 1) rest
        return .one (ofClass flags set) { s with rest }
      else if c = '\\' then do
        let (r, s) ← readEscape flags s rest
        return .one r s
      else if c = '(' then readGroup fuel flags depth { s with rest }
      else do
        match ← readQuantifier? (c :: rest) with
        | some _ => throw .nothingToRepeat
        | none => return .one (literal flags c) { s with rest }

/-- A group, behind its opening parenthesis. -/
def readGroup : Nat → Flags → Nat → Scan → Except PatternError Item
  | 0, _, _, _ => .error .tooDeep
  | fuel + 1, flags, depth, s =>
    match s.rest with
    | '?' :: ':' :: rest => do
      let (r, s) ← readBody fuel flags depth { s with rest }
      return .one r s
    | '?' :: '=' :: rest => do
      let (r, s) ← readBody fuel flags depth { s with rest }
      return .one (.ahead r) s
    | '?' :: '!' :: rest => do
      let (r, s) ← readBody fuel flags depth { s with rest }
      return .one (.notAhead r) s
    | '?' :: '>' :: rest => do
      let (r, s) ← readBody fuel flags depth { s with rest }
      return .one (.atomic r) s
    | '?' :: '~' :: rest => readAbsent fuel flags depth { s with rest }
    | '?' :: '\x7b' :: rest => do
      let rest ← skipCallout ('\x7b' :: rest)
      return .one (.ahead .empty) { s with rest }
    | '?' :: '(' :: rest => readCondition fuel flags depth { s with rest }
    | '?' :: '<' :: '=' :: rest => do
      let (r, s) ← readBody fuel flags depth { s with rest }
      return .one (.behind r) s
    | '?' :: '<' :: '!' :: rest => do
      let (r, s) ← readBody fuel flags depth { s with rest }
      return .one (.notBehind r) s
    | '?' :: '<' :: rest => do
      let (name, rest) ← readName '>' rest
      readNamed fuel flags depth { s with rest } name
    | '?' :: '\'' :: rest => do
      let (name, rest) ← readName '\'' rest
      readNamed fuel flags depth { s with rest } name
    | '?' :: ')' :: _ => .error .unknownOption
    | '?' :: rest => do
      let (inner, hasBody, rest) ← readOptions flags false rest
      if hasBody then
        let (r, s) ← readBody fuel inner depth { s with rest }
        return .one (.optioned r) s
      else
        let (r, s) ← readAlternatives fuel inner depth { s with rest }
        return .rest (.optioned r) s
    | '*' :: rest => do
      let name := rest.takeWhile fun c => c != ')'
      if name = "FAIL".toList ∨ name = "MISMATCH".toList then
        return .one (.notAhead .empty) { s with rest := rest.drop (name.length + 1) }
      else throw .unknownCallout
    | rest => do
      let group := s.groups + 1
      let (r, s) ← readBody fuel flags depth { s with rest, groups := group }
      return .one (.capture group r) s

/-- A group with a name. -/
def readNamed : Nat → Flags → Nat → Scan → List Char → Except PatternError Item
  | 0, _, _, _, _ => .error .tooDeep
  | fuel + 1, flags, depth, s, name => do
    let group := s.groups + 1
    let (r, s) ← readBody fuel flags depth
      { s with groups := group, named := (name, group) :: s.named }
    return .one (.capture group r) s

/-- The inside of a group and its closing parenthesis. -/
def readBody : Nat → Flags → Nat → Scan → Except PatternError (Regex × Scan)
  | 0, _, _, _ => .error .tooDeep
  | fuel + 1, flags, depth, s => do
    let (r, s) ← readAlternatives fuel flags depth s
    return (r, ← closeGroup s)

/-- A group that keeps an expression out of its match. -/
def readAbsent : Nat → Flags → Nat → Scan → Except PatternError Item
  | 0, _, _, _ => .error .tooDeep
  | fuel + 1, flags, depth, s =>
    match s.rest with
    | '|' :: ')' :: rest => .ok (.one .readOn { s with rest })
    | '|' :: rest => do
      let (r, s) ← readBody fuel flags depth { s with rest }
      match r with
      | .alt body expr => return .one (.absent body expr) s
      | body => return .one (.stopBefore body) s
    | rest => do
      let (r, s) ← readBody fuel flags depth { s with rest }
      return .one (.absent r (.loop (.set .all) 0 none true)) s

/-- A group with a condition, behind the parenthesis that opens the condition. -/
def readCondition : Nat → Flags → Nat → Scan → Except PatternError Item
  | 0, _, _, _ => .error .tooDeep
  | fuel + 1, flags, depth, s => do
    let (condition, s) ← match s.rest with
      | '<' :: rest => readNamedCondition '>' s rest
      | '\'' :: rest => readNamedCondition '\'' s rest
      | rest =>
        match readSigned? rest, readWritten ')' rest with
        | some _, .ok (w, _, rest) =>
          let (groups, s) ← groupsOf s w
          pure (.tookPart groups, { s with rest })
        | _, _ => readBody fuel flags depth { s with rest }
    match s.rest with
    | ')' :: rest =>
      match condition with
      | .tookPart _ => return .one condition { s with rest }
      | _ => throw .invalidCondition
    | '|' :: rest =>
      let (no, s) ← readBody fuel flags depth { s with rest }
      return .one (.choice condition .empty no) s
    | _ =>
      let (r, s) ← readBody fuel flags depth s
      let (yes, no) := branches r
      return .one (.choice condition yes no) s

/-- The condition that a group took part, behind the character that opens its name. -/
def readNamedCondition (close : Char) (s : Scan) (rest : List Char) :
    Except PatternError (Regex × Scan) := do
  let (w, _, rest) ← readWritten close rest
  let (groups, s) ← groupsOf s w
  return (.tookPart groups, ← closeGroup { s with rest })
end

/-- The number of a group among the groups that capture. -/
def renumber (named : List Nat) (n : Nat) : Option Nat :=
  if named.isEmpty then some n else if n = 0 then some 0 else (named.idxOf? n).map (· + 1)

/-- The pattern that was read, once all of its groups are known. -/
def finish (r : Regex) (s : Scan) : Except PatternError Pattern := do
  unless s.rest.isEmpty do throw .unmatchedClose
  if s.groups < s.highest then throw .undefinedGroup
  let named := (s.named.map Prod.snd).reverse
  if !named.isEmpty && (0 < s.highest || s.callsByNumber) then throw .numberedReference
  let groups := if named.isEmpty then s.groups else named.length
  let r ← r.resolve (renumber named) s.named
  if r.called.any (groups < ·) then throw .undefinedGroup
  if r.hasEndlessRecursion then throw .endlessRecursion
  Pattern.ofRegex r groups

end PatternReader

/-- Reads a pattern. -/
def Pattern.read (source : List Char) : Except PatternError Pattern := do
  let (r, s) ← PatternReader.readAlternatives (8 * source.length + 16) {} 0 { rest := source }
  PatternReader.finish r s

/-- The matcher of a pattern. -/
def Matcher.ofSource (source : String) : Except PatternError Matcher := do
  let p ← Pattern.read source.toList
  return p.matcher source

end Highlighter
