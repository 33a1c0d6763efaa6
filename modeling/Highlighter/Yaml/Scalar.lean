import Highlighter.Json
import Highlighter.Yaml.Cursor

/-!
# Scalars

The three ways to write a scalar: plain, in quotes, and as a block below an indicator. White space
between the words of a scalar is a `Gap`; folding turns a gap into what it stands for.
-/

namespace Highlighter.Yaml

/-- How a scalar is written. -/
inductive ScalarStyle where
  | plain
  | quoted
  | literal
  | folded
  deriving DecidableEq, Repr

/-- White space inside a scalar. -/
inductive Gap where
  /-- Blanks on one line. -/
  | blanks (cs : List Char)
  /-- Line breaks, with the blanks around them dropped. An escaped first break is `none`. -/
  | breaks (first : Option Char) (more : List Char)

namespace Gap

/-- No white space. -/
def empty : Gap := blanks []

/-- Whether there is a line break in a gap. -/
def isBreaks : Gap → Bool
  | blanks _ => false
  | breaks _ _ => true

/-- What a gap stands for: blanks stand for themselves, a single line feed for a space, and one
that is followed by other breaks for these. -/
def fold : Gap → List Char
  | blanks cs => cs
  | breaks none more => more
  | breaks (some c) more =>
    if c == '\n' then if more.isEmpty then [' '] else more else c :: more

/-- A gap with a blank behind it. -/
def addBlank (c : Char) : Gap → Gap
  | blanks cs => blanks (cs ++ [c])
  | breaks first more => breaks first more

/-- A gap with a line break behind it. -/
def addBreak (c : Char) : Gap → Gap
  | blanks _ => breaks (some c) []
  | breaks first more => breaks first (more ++ [c])

/-- Reads white space onto a gap. A tab left of column `margin` may not follow a break. -/
def scan (margin : Nat) : Nat → Gap → Cursor → Except YamlError (Gap × Cursor)
  | 0, _, _ => .error .tooLong
  | fuel + 1, gap, cur =>
    match cur.takeBreak with
    | some (c, cur) => scan margin fuel (gap.addBreak c) cur
    | none =>
      match cur.rest with
      | c :: _ =>
        if isBlank c then
          if gap.isBreaks && cur.column < margin && c == '\t' then .error .tabInIndentation
          else scan margin fuel (gap.addBlank c) (cur.advance 1)
        else .ok (gap, cur)
      | [] => .ok (gap, cur)

end Gap

/-- A character that ends a plain scalar in a flow collection. -/
def isFlowIndicator (c : Char) : Bool :=
  c == ',' || c == '[' || c == ']' || c == '\x7b' || c == '\x7d'

/-- The word of a plain scalar at the start of a text. -/
def plainWord (flow : Bool) : List Char → Except YamlError (List Char)
  | [] => .ok []
  | c :: rest =>
    if isBlank c || isBreak c then .ok []
    else if flow && c == ':' && rest.head?.any (fun d => isFlowIndicator d || d == '?') then
      .error .unexpectedColon
    else if (c == ':' && atGap rest) || (flow && isFlowIndicator c) then .ok []
    else (c :: ·) <$> plainWord flow rest

/-- Reads a plain scalar, `text` of it, then `gap`, being read already. In a block, a line that
starts left of column `margin` is not part of it. The flag tells whether it ended behind a line
break. -/
def scanPlain (flow : Bool) (margin : Nat) :
    Nat → List Char → Gap → Cursor → Except YamlError (List Char × Bool × Cursor)
  | 0, _, _, _ => .error .tooLong
  | fuel + 1, text, gap, cur => do
    if cur.atDocumentMark || cur.head? = some '#' then return (text, gap.isBreaks, cur)
    let word ← plainWord flow cur.rest
    if word.isEmpty then return (text, gap.isBreaks, cur)
    let text := text ++ gap.fold ++ word
    let cur := cur.advance word.length
    match cur.rest with
    | [] => return (text, false, cur)
    | c :: _ =>
      if !(isBlank c || isBreak c) then return (text, false, cur)
      let (gap, cur) ← Gap.scan margin (cur.rest.length + 1) .empty cur
      if !flow && cur.column < margin then return (text, gap.isBreaks, cur)
      scanPlain flow margin fuel text gap cur

/-- The character that a single character behind a backslash stands for. -/
def shortEscape? : Char → Option Char
  | '0' => some '\x00'
  | 'a' => some '\x07'
  | 'b' => some '\x08'
  | 't' => some '\t'
  | '\t' => some '\t'
  | 'n' => some '\n'
  | 'v' => some '\x0b'
  | 'f' => some '\x0c'
  | 'r' => some '\r'
  | 'e' => some '\x1b'
  | ' ' => some ' '
  | '"' => some '"'
  | '/' => some '/'
  | '\\' => some '\\'
  | 'N' => some '\u0085'
  | '_' => some '\u00a0'
  | 'L' => some '\u2028'
  | 'P' => some '\u2029'
  | _ => none

/-- How many hexadecimal digits follow a character behind a backslash. -/
def escapeDigits? : Char → Option Nat
  | 'x' => some 2
  | 'u' => some 4
  | 'U' => some 8
  | _ => none

/-- The value of hexadecimal digits. -/
def hexNumber? (digits : List Char) : Option Nat :=
  digits.foldlM (fun n c => (n * 16 + ·) <$> Json.hexValue? c) 0

/-- Reads an escape behind its backslash. -/
def scanEscape (cur : Cursor) : Except YamlError (Char × Cursor) :=
  match cur.rest with
  | [] => .error .badEscape
  | c :: rest =>
    match shortEscape? c with
    | some d => .ok (d, cur.advance 1)
    | none =>
      match escapeDigits? c with
      | none => .error .badEscape
      | some count =>
        let digits := rest.take count
        match hexNumber? digits with
        | some n =>
          if digits.length = count ∧ n.isValidChar then
            .ok (Char.ofNat n, cur.advance (count + 1))
          else .error .badEscape
        | none => .error .badEscape

/-- Reads characters between quotes up to white space, the closing quote or an escaped line break,
`run` (last first) being read already. An escaped break starts a gap. -/
def quotedRun (quote : Char) :
    Nat → List Char → Cursor → Except YamlError (List Char × Gap × Cursor)
  | 0, _, _ => .error .tooLong
  | fuel + 1, run, cur =>
    match cur.rest with
    | [] => .ok (run.reverse, .empty, cur)
    | c :: rest =>
      if isBlank c || isBreak c then .ok (run.reverse, .empty, cur)
      else if c == quote then
        if quote == '\'' && rest.head? = some '\'' then
          quotedRun quote fuel ('\'' :: run) (cur.advance 2)
        else .ok (run.reverse, .empty, cur)
      else if quote == '"' && c == '\\' then
        match (cur.advance 1).takeBreak with
        | some (_, cur) => .ok (run.reverse, .breaks none [], cur)
        | none => do
          let (d, cur) ← scanEscape (cur.advance 1)
          quotedRun quote fuel (d :: run) cur
      else quotedRun quote fuel (c :: run) (cur.advance 1)

/-- Reads a scalar behind its opening quote, `text` of it being read already. -/
def scanQuoted (quote : Char) :
    Nat → List Char → Cursor → Except YamlError (List Char × Cursor)
  | 0, _, _ => .error .tooLong
  | fuel + 1, text, cur => do
    if cur.atDocumentMark then throw .documentMarkInQuotes
    if cur.rest.isEmpty then throw .unfinishedQuotes
    let (run, gap, cur) ← quotedRun quote (cur.rest.length + 1) [] cur
    if cur.head? = some quote then return (text ++ run, cur.advance 1)
    let (gap, cur) ← Gap.scan 0 (cur.rest.length + 1) gap cur
    scanQuoted quote fuel (text ++ run ++ gap.fold) cur

/-- What becomes of the line breaks at the end of a block scalar. -/
inductive Chomping where
  | strip
  | clip
  | keep

/-- The chomping that an indicator asks for. -/
def Chomping.ofChar? : Char → Option Chomping
  | '+' => some .keep
  | '-' => some .strip
  | _ => none

/-- Reads the indicators behind the first one of a block scalar: its chomping, and its indentation
if that is given. -/
def scanBlockHeader (cur : Cursor) : Except YamlError (Chomping × Option Nat × Cursor) := do
  let (before, cur) := chomping cur
  let (indentation, cur) ← match cur.rest with
    | c :: _ =>
      if c == '0' then throw .badBlockHeader
      else if c.isDigit then pure (some (c.toNat - '0'.toNat), cur.advance 1)
      else pure (none, cur)
    | [] => pure (none, cur)
  let (after, cur) :=
    if before.isNone && indentation.isSome then chomping cur else (none, cur)
  let cur ← cur.endLine .badBlockHeader
  return ((before.or after).getD .clip, indentation, cur)
where
  /-- A chomping indicator, if there is one. -/
  chomping (cur : Cursor) : Option Chomping × Cursor :=
    match cur.head?.bind Chomping.ofChar? with
    | some k => (some k, cur.advance 1)
    | none => (none, cur)

/-- Reads the empty lines before a line of a block scalar, and that line's indentation, which is
at most `indentation` if that is known; `breaks` are read already. The widest indentation met is
kept in `widest`. -/
def scanBlockBreaks (indentation : Option Nat) :
    Nat → List Char → Nat → Cursor → Except YamlError (List Char × Nat × Cursor)
  | 0, _, _, _ => .error .tooLong
  | fuel + 1, breaks, widest, cur =>
    let room := match indentation with
      | some n => n - cur.column
      | none => cur.rest.length
    let cur := cur.advance ((cur.rest.take room).takeWhile (· == ' ')).length
    let widest := max widest cur.column
    if indentation.all (cur.column < ·) && cur.head? = some '\t' then .error .tabInIndentation
    else
      match cur.takeBreak with
      | some (c, cur) => scanBlockBreaks indentation fuel (breaks ++ [c]) widest cur
      | none => .ok (breaks, widest, cur)

/-- The parts of a block scalar that are read already. -/
structure BlockText where
  text : List Char
  /-- The break that ended the last line. -/
  lastBreak : Option Char
  /-- The breaks of the empty lines behind it. -/
  breaks : List Char
  /-- Whether the last line started with a blank. -/
  indented : Bool

namespace BlockText

/-- Adds a line, folding the breaks before it if asked to. -/
def addLine (style : ScalarStyle) (b : BlockText) (line : List Char) : List Char :=
  let blank := line.head?.any isBlank
  if style = .folded && b.lastBreak = some '\n' && !b.indented && !blank then
    b.text ++ (if b.breaks.isEmpty then [' '] else b.breaks) ++ line
  else b.text ++ b.lastBreak.toList ++ b.breaks ++ line

/-- The text with the breaks at its end treated as asked. -/
def finish (b : BlockText) : Chomping → List Char
  | .strip => b.text
  | .clip => b.text ++ b.lastBreak.toList
  | .keep => b.text ++ b.lastBreak.toList ++ b.breaks

end BlockText

/-- Reads the lines of a block scalar that are indented by `indentation`. -/
def scanBlockLines (style : ScalarStyle) (indentation : Nat) :
    Nat → BlockText → Cursor → Except YamlError (BlockText × Cursor)
  | 0, _, _ => .error .tooLong
  | fuel + 1, b, cur =>
    if cur.column == indentation && !cur.rest.isEmpty then do
      let (line, cur) := cur.takeWhile (!isBreak ·)
      let (lastBreak, cur) := match cur.takeBreak with
        | some (c, cur) => (some c, cur)
        | none => (none, cur)
      let (breaks, _, cur) ← scanBlockBreaks (some indentation) (cur.rest.length + 1) [] 0 cur
      scanBlockLines style indentation fuel
        ⟨b.addLine style line, lastBreak, breaks, line.head?.any isBlank⟩ cur
    else .ok (b, cur)

/-- Reads a block scalar behind its first indicator, inside of a block indented by `indent`. -/
def scanBlock (style : ScalarStyle) (indent : Int) (cur : Cursor) :
    Except YamlError (List Char × Cursor) := do
  let (chomping, given, cur) ← scanBlockHeader cur
  let given := given.map fun n => indent.toNat + n
  let (breaks, widest, cur) ← scanBlockBreaks given (cur.rest.length + 1) [] 0 cur
  let indentation := given.getD (max (max widest (indent + 1).toNat) 1)
  let (b, cur) ←
    scanBlockLines style indentation (cur.rest.length + 1) ⟨[], none, breaks, false⟩ cur
  return (b.finish chomping, cur)

end Highlighter.Yaml
