import Highlighter.Yaml.Scalar

/-!
# Tokens

A stream is cut into tokens. Indentation becomes explicit: a block collection is opened by a token
of its own and closed by `blockEnd`. A key may be written without an indicator, so that it is
known as a key only when the colon behind it is met; its place among the tokens is remembered, and
the `key` token is inserted there.
-/

namespace Highlighter.Yaml

/-- A tag as it is written: a handle, which is empty for a tag given in full, and a suffix. -/
structure TagName where
  handle : List Char
  suffix : List Char

/-- A token of a stream. -/
inductive Token where
  | version (major minor : Nat)
  | handle (handle expansion : List Char)
  | documentStart
  | documentEnd
  | blockSequenceStart
  | blockMappingStart
  | blockEnd
  | flowSequenceStart
  | flowSequenceEnd
  | flowMappingStart
  | flowMappingEnd
  | blockEntry
  | flowEntry
  | key
  | value
  | reference (name : List Char)
  | anchor (name : List Char)
  | tag (name : TagName)
  | scalar (style : ScalarStyle) (text : List Char)

/-- A place where a key without an indicator may have started. -/
structure PossibleKey where
  /-- Whether the block mapping around it needs a key here. -/
  required : Bool
  /-- How many tokens stand before it. -/
  tokens : Nat
  index : Nat
  line : Nat
  column : Nat

/-- The state of the reading of tokens. -/
structure Scanner where
  cursor : Cursor
  /-- The tokens read, last first. -/
  tokens : List Token
  /-- The column of the innermost block collection, or -1. -/
  indent : Int
  /-- The columns of the block collections around it. -/
  indents : List Int
  /-- Whether a key may start here. -/
  keyAllowed : Bool
  /-- The possible key of the innermost collection. -/
  possibleKey : Option PossibleKey
  /-- The possible keys around each open flow collection. -/
  outerKeys : List (Option PossibleKey)

/-- Reading that may fail. -/
abbrev Scan := Except YamlError Scanner

namespace Scanner

/-- The state before the first token of a text. -/
def start (t : List Char) : Scanner := ⟨.start t, [], -1, [], true, none, []⟩

/-- Whether a flow collection is open. -/
def inFlow (s : Scanner) : Bool := !s.outerKeys.isEmpty

/-- Adds a token. -/
def emit (s : Scanner) (t : Token) : Scanner := { s with tokens := t :: s.tokens }

/-- Inserts a token before all but the first `n`. -/
def insert (s : Scanner) (n : Nat) (t : Token) : Scanner :=
  { s with tokens := s.tokens.insertIdx (s.tokens.length - n) t }

/-- Passes over `n` characters. -/
def advance (s : Scanner) (n : Nat) : Scanner := { s with cursor := s.cursor.advance n }

/-- Says whether a key may start next. -/
def allowKey (s : Scanner) (allowed : Bool) : Scanner := { s with keyAllowed := allowed }

/--
Passes over white space and comments. A byte order mark may start a line. A tab may not stand where
a key could start in a block, and a new line lets one start there.
-/
def skipGap : Nat → Scanner → Scanner
  | 0, s => s
  | fuel + 1, s =>
    let cur := s.cursor
    let cur := if cur.column = 0 ∧ cur.head? = some byteOrderMark then cur.advance 1 else cur
    let tabs := s.inFlow || !s.keyAllowed
    let cur := (cur.skipWhile fun c => c == ' ' || (tabs && c == '\t')).skipComment
    match cur.takeBreak with
    | some (_, cur) =>
      skipGap fuel { s with cursor := cur, keyAllowed := s.keyAllowed || !s.inFlow }
    | none => { s with cursor := cur }

/-- Whether a possible key is out of reach: a key stands on one line and has at most 1024
characters. -/
def isStale (s : Scanner) (k : PossibleKey) : Bool :=
  k.line < s.cursor.line || k.index + 1024 < s.cursor.index

/-- Forgets a possible key that is out of reach. -/
def dropStale (s : Scanner) : Option PossibleKey → Except YamlError (Option PossibleKey)
  | none => .ok none
  | some k =>
    if s.isStale k then if k.required then .error .unfinishedKey else .ok none else .ok (some k)

/-- Forgets all possible keys that are out of reach. -/
def dropStaleKeys (s : Scanner) : Scan := do
  return { s with
    possibleKey := ← s.dropStale s.possibleKey
    outerKeys := ← s.outerKeys.mapM s.dropStale }

/-- Forgets the possible key of the innermost collection. -/
def dropKey (s : Scanner) : Scan :=
  if s.possibleKey.any (·.required) then .error .unfinishedKey
  else .ok { s with possibleKey := none }

/-- Remembers that a key may start here. -/
def saveKey (s : Scanner) : Scan :=
  if s.keyAllowed then do
    let s ← s.dropKey
    let cur := s.cursor
    let required := !s.inFlow && s.indent == cur.column
    return { s with
      possibleKey := some ⟨required, s.tokens.length, cur.index, cur.line, cur.column⟩ }
  else .ok s

/-- Opens a block collection at a column to the right of the innermost one, its first token being
at place `n`. -/
def openBlock (s : Scanner) (column : Nat) (n : Nat) (t : Token) : Scanner :=
  if !s.inFlow && s.indent < column then
    { s.insert n t with indent := column, indents := s.indent :: s.indents }
  else s

/-- Opens a block collection here. -/
def openBlockHere (s : Scanner) (t : Token) : Scanner :=
  s.openBlock s.cursor.column s.tokens.length t

/-- Closes the block collections to the right of a column: the columns in `indents` are those
around the innermost one. -/
def closeBlocks (column : Int) : List Int → Scanner → Scanner
  | [], s => s
  | outer :: indents, s =>
    if s.indent > column then
      closeBlocks column indents { s.emit .blockEnd with indent := outer, indents := indents }
    else s

/-- Closes the block collections to the right of a column, unless in a flow collection. -/
def unindent (s : Scanner) (column : Int) : Scanner :=
  if s.inFlow then s else closeBlocks column s.indents s

/-- Ends all open block collections in front of a token at the start of a line. -/
def atTopLevel (s : Scanner) : Scan := do
  return ((← (s.unindent (-1)).dropKey).allowKey false)

/-- Reads the digits of a version number. -/
def versionNumber (cur : Cursor) : Except YamlError (Nat × Cursor) :=
  let (digits, cur) := cur.takeWhile Char.isDigit
  if digits.isEmpty || digits.length > 9 then .error .badDirective
  else .ok (Json.decimalValue digits, cur)

/-- A character of a tag. Inside of angle brackets some more are allowed. -/
def isUriChar (verbatim : Bool) (c : Char) : Bool :=
  isWordChar c || ";/?:@&=+$.!~*'()%".contains c || (verbatim && (c == ',' || c == '[' || c == ']'))

/-- The bytes written as percent signs with two digits each, as many as a character takes. -/
def percentBytes : Nat → List Char → Option (List UInt8 × List Char)
  | 0, t => some ([], t)
  | n + 1, '%' :: a :: b :: rest => do
    let byte := (← Json.hexValue? a) * 16 + (← Json.hexValue? b)
    let (bytes, rest) ← percentBytes n rest
    return (byte.toUInt8 :: bytes, rest)
  | _ + 1, _ => none

/-- How many bytes a character takes whose first byte is given. -/
def byteCount? (b : UInt8) : Option Nat :=
  if b < 0x80 then some 1
  else if b &&& 0xE0 == 0xC0 then some 2
  else if b &&& 0xF0 == 0xE0 then some 3
  else if b &&& 0xF8 == 0xF0 then some 4
  else none

/-- A character of a tag written with percent signs. -/
def percentChar (t : List Char) : Option (List Char × List Char) := do
  let (first, _) ← percentBytes 1 t
  let (bytes, rest) ← percentBytes (← byteCount? (← first.head?)) t
  if bytes.tail.all (fun b => b &&& 0xC0 == 0x80) then
    let text := (String.fromUTF8? ⟨bytes.toArray⟩).map String.toList
    return (text.getD ['\ufffd'], rest)
  else none

/-- The characters of a tag at the start of a text, and how much of the text they take. -/
def uriChars (verbatim : Bool) : Nat → List Char → Except YamlError (List Char × Nat)
  | 0, _ => .error .tooLong
  | _ + 1, [] => .ok ([], 0)
  | fuel + 1, c :: rest =>
    if c == '%' then
      match percentChar (c :: rest) with
      | some (cs, rest') => do
        let (more, n) ← uriChars verbatim fuel rest'
        return (cs ++ more, n + (rest.length + 1 - rest'.length))
      | none => .error .badTag
    else if isUriChar verbatim c then do
      let (more, n) ← uriChars verbatim fuel rest
      return (c :: more, n + 1)
    else .ok ([], 0)

/-- Reads the characters of a tag, at least one. -/
def tagUri (verbatim : Bool) (cur : Cursor) : Except YamlError (List Char × Cursor) := do
  let (cs, n) ← uriChars verbatim (cur.rest.length + 1) cur.rest
  if n = 0 then throw .badTag
  return (cs, cur.advance n)

/-- Reads a handle: an exclamation mark, a word and, if there is one, a second mark. -/
def tagHandle (cur : Cursor) : Except YamlError (List Char × Bool × Cursor) :=
  if cur.head? = some '!' then
    let (word, cur) := (cur.advance 1).takeWhile isWordChar
    if cur.head? = some '!' then .ok ('!' :: word ++ ['!'], true, cur.advance 1)
    else .ok ('!' :: word, false, cur)
  else .error .badTag

/-- Reads a directive up to the end of its line. -/
def directive (s : Scanner) : Scan := do
  let s ← s.atTopLevel
  let (name, cur) := (s.cursor.advance 1).takeWhile isWordChar
  if name.isEmpty || !atGap cur.rest then throw .badDirective
  let cur := cur.skipWhile isBlank
  let (token, cur) ←
    if name = "YAML".toList then do
      let (major, cur) ← versionNumber cur
      if cur.head? ≠ some '.' then throw .badDirective
      let (minor, cur) ← versionNumber (cur.advance 1)
      pure (Token.version major minor, cur)
    else if name = "TAG".toList then do
      let (handle, closed, cur) ← tagHandle cur
      if !closed && handle ≠ ['!'] then throw .badDirective
      if !cur.head?.any isBlank then throw .badDirective
      let (expansion, cur) ← tagUri true (cur.skipWhile isBlank)
      if !atGap cur.rest then throw .badDirective
      pure (Token.handle handle expansion, cur)
    else throw .badDirective
  let cur ← cur.endLine .badDirective
  return { s with cursor := cur }.emit token

/-- Reads the mark that starts or ends a document. -/
def documentMark (s : Scanner) (t : Token) : Scan := do
  return ((← s.atTopLevel).advance 3).emit t

/-- Opens a flow collection. -/
def flowStart (s : Scanner) (t : Token) : Scan := do
  let s ← s.saveKey
  return { s with
    possibleKey := none, outerKeys := s.possibleKey :: s.outerKeys, keyAllowed := true }
    |>.advance 1 |>.emit t

/-- Closes a flow collection. -/
def flowEnd (s : Scanner) (t : Token) : Scan := do
  let s ← s.dropKey
  let s := match s.outerKeys with
    | k :: ks => { s with possibleKey := k, outerKeys := ks }
    | [] => s
  return ((s.allowKey false).advance 1).emit t

/-- Reads the comma between the entries of a flow collection. -/
def flowEntry (s : Scanner) : Scan := do
  return (((← s.dropKey).allowKey true).advance 1).emit .flowEntry

/-- Reads the dash of an entry of a block sequence. -/
def blockEntry (s : Scanner) : Scan := do
  if !s.inFlow && !s.keyAllowed then throw .misplacedEntry
  let s ← (s.openBlockHere .blockSequenceStart).dropKey
  return ((s.allowKey true).advance 1).emit .blockEntry

/-- Reads the question mark in front of a key. -/
def keyIndicator (s : Scanner) : Scan := do
  if !s.inFlow && !s.keyAllowed then throw .misplacedKey
  let s ← (s.openBlockHere .blockMappingStart).dropKey
  return ((s.allowKey !s.inFlow).advance 1).emit .key

/-- Reads the colon in front of a value. A possible key before it becomes a key. -/
def valueIndicator (s : Scanner) : Scan :=
  match s.possibleKey with
  | some k =>
    let s := (s.insert k.tokens .key).openBlock k.column k.tokens .blockMappingStart
    .ok ((({ s with possibleKey := none }.allowKey false).advance 1).emit .value)
  | none => do
    if !s.inFlow && !s.keyAllowed then throw .misplacedValue
    let s := s.openBlockHere .blockMappingStart
    return ((s.allowKey !s.inFlow).advance 1).emit .value

/-- Reads the name of an anchor or a reference behind its indicator. -/
def anchorName (cur : Cursor) : Except YamlError (List Char × Cursor) :=
  let (name, cur) := cur.takeWhile isWordChar
  let ended := atGap cur.rest || cur.head?.any ("?:,]\x7d%@`".contains ·)
  if name.isEmpty || !ended then .error .badAnchor else .ok (name, cur)

/-- Reads an anchor or a reference. -/
def anchor (s : Scanner) (token : List Char → Token) : Scan := do
  let s := (← s.saveKey).allowKey false
  let (name, cur) ← anchorName (s.cursor.advance 1)
  return { s with cursor := cur }.emit (token name)

/-- Reads a tag. Without a suffix, a single mark stands for itself. -/
def tagName (cur : Cursor) : Except YamlError (TagName × Cursor) :=
  if (cur.advance 1).head? = some '<' then do
    let (uri, cur) ← tagUri true (cur.advance 2)
    if cur.head? = some '>' then return (⟨[], uri⟩, cur.advance 1) else throw .badTag
  else do
    let (handle, closed, cur) ← tagHandle cur
    if closed then
      let (suffix, cur) ← tagUri false cur
      return (⟨handle, suffix⟩, cur)
    else
      let (more, n) ← uriChars false (cur.rest.length + 1) cur.rest
      let suffix := handle.tail ++ more
      return (if suffix.isEmpty then ⟨[], ['!']⟩ else ⟨['!'], suffix⟩, cur.advance n)

/-- Reads a tag up to the white space behind it. -/
def tag (s : Scanner) : Scan := do
  let s := (← s.saveKey).allowKey false
  let (name, cur) ← tagName s.cursor
  if !(atGap cur.rest || (s.inFlow && cur.head? = some ',')) then throw .badTag
  return { s with cursor := cur }.emit (.tag name)

/-- Reads a block scalar. -/
def blockScalar (s : Scanner) (style : ScalarStyle) : Scan := do
  let s := (← s.dropKey).allowKey true
  let (text, cur) ← scanBlock style s.indent (s.cursor.advance 1)
  return { s with cursor := cur }.emit (.scalar style text)

/-- Reads a scalar in quotes. -/
def quotedScalar (s : Scanner) (quote : Char) : Scan := do
  let s := (← s.saveKey).allowKey false
  let (text, cur) ← scanQuoted quote (s.cursor.rest.length + 1) [] (s.cursor.advance 1)
  return { s with cursor := cur }.emit (.scalar .quoted text)

/-- Reads a plain scalar. -/
def plainScalar (s : Scanner) : Scan := do
  let s := (← s.saveKey).allowKey false
  let (text, newLine, cur) ←
    scanPlain s.inFlow (s.indent + 1).toNat (s.cursor.rest.length + 1) [] .empty s.cursor
  return { s with cursor := cur, keyAllowed := newLine }.emit (.scalar .plain text)

/-- Whether a plain scalar starts with `c`, with `rest` behind it. -/
def startsPlain (flow : Bool) (c : Char) (rest : List Char) : Bool :=
  !(isBlank c || isBreak c || "-?:,[]\x7b\x7d#&*!|>'\"%@`".contains c)
    || (c == '-' && !rest.head?.any isBlank)
    || (!flow && (c == '?' || c == ':') && !atGap rest)

/-- Reads the token that starts with `c`, with `rest` behind it. -/
def token (s : Scanner) (c : Char) (rest : List Char) : Scan :=
  if s.cursor.column = 0 ∧ c = '%' then s.directive
  else if s.cursor.atMark '-' then s.documentMark .documentStart
  else if s.cursor.atMark '.' then s.documentMark .documentEnd
  else if c = '[' then s.flowStart .flowSequenceStart
  else if c = '\x7b' then s.flowStart .flowMappingStart
  else if c = ']' then s.flowEnd .flowSequenceEnd
  else if c = '\x7d' then s.flowEnd .flowMappingEnd
  else if c = ',' then s.flowEntry
  else if c = '-' ∧ atGap rest then s.blockEntry
  else if c = '?' ∧ (s.inFlow || atGap rest) then s.keyIndicator
  else if c = ':' ∧ (s.inFlow || atGap rest) then s.valueIndicator
  else if c = '*' then s.anchor .reference
  else if c = '&' then s.anchor .anchor
  else if c = '!' then s.tag
  else if c = '|' ∧ !s.inFlow then s.blockScalar .literal
  else if c = '>' ∧ !s.inFlow then s.blockScalar .folded
  else if c = '\'' ∨ c = '"' then s.quotedScalar c
  else if startsPlain s.inFlow c rest then s.plainScalar
  else .error (.unexpectedCharacter c)

/-- Reads tokens up to the end of the stream. -/
def run : Nat → Scanner → Except YamlError (List Token)
  | 0, _ => .error .tooLong
  | fuel + 1, s => do
    let s ← (s.skipGap (s.cursor.rest.length + 1)).dropStaleKeys
    let s := s.unindent s.cursor.column
    match s.cursor.rest with
    | [] => return (← s.atTopLevel).tokens.reverse
    | c :: rest => run fuel (← s.token c rest)

end Scanner

/-- The tokens of a text. -/
def tokens (t : List Char) : Except YamlError (List Token) :=
  match t.find? (!isAllowed ·) with
  | some c => .error (.controlCharacter c)
  | none => Scanner.run (t.length + 1) (.start t)

end Highlighter.Yaml
