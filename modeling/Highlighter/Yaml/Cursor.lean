/-!
# Places in a YAML stream

A cursor is the rest of a stream with its place: how many characters, and how many lines, stand
before it, and how many characters stand before it on its line. The character classes of the
notation are defined here, and so are the ways to move a cursor.
-/

namespace Highlighter.Yaml

/-- Why a text is no readable YAML document. -/
inductive YamlError where
  | controlCharacter (c : Char)
  | tabInIndentation
  | unfinishedKey
  | misplacedEntry
  | misplacedKey
  | misplacedValue
  | unexpectedCharacter (c : Char)
  | unexpectedColon
  | badDirective
  | badAnchor
  | badTag
  | badBlockHeader
  | documentMarkInQuotes
  | unfinishedQuotes
  | badEscape
  | undefinedHandle (handle : String)
  | undefinedAnchor (name : String)
  | unexpectedToken
  | moreThanOneDocument
  | tooLong
  | mismatch
  deriving DecidableEq, Repr

/-- The wording of an error. -/
def YamlError.message : YamlError → String
  | controlCharacter _ => "control characters are not allowed"
  | tabInIndentation => "a tab stands where a line is indented"
  | unfinishedKey => "a key has no colon behind it"
  | misplacedEntry => "a sequence entry may not start here"
  | misplacedKey => "a mapping key may not start here"
  | misplacedValue => "a mapping value may not start here"
  | unexpectedCharacter _ => "no token starts with this character"
  | unexpectedColon => "unexpected colon"
  | badDirective => "invalid directive"
  | badAnchor => "invalid anchor"
  | badTag => "invalid tag"
  | badBlockHeader => "invalid block scalar header"
  | documentMarkInQuotes => "a document mark stands inside of quotes"
  | unfinishedQuotes => "the closing quote is missing"
  | badEscape => "unknown escape"
  | undefinedHandle _ => "undefined tag handle"
  | undefinedAnchor _ => "undefined anchor"
  | unexpectedToken => "unexpected token"
  | moreThanOneDocument => "there is more than one document"
  | tooLong => "the document is too long"
  | mismatch => "a value has the wrong type"

/-- Whether a stream may contain a character. -/
def isAllowed (c : Char) : Bool :=
  let n := c.toNat
  n == 0x09 || n == 0x0A || n == 0x0D || n == 0x85
    || (0x20 ≤ n && n ≤ 0x7E) || (0xA0 ≤ n && n ≤ 0xD7FF)
    || (0xE000 ≤ n && n ≤ 0xFFFD) || 0x10000 ≤ n

/-- The byte order mark. -/
def byteOrderMark : Char := '\ufeff'

/-- A space or a tab. -/
def isBlank (c : Char) : Bool := c == ' ' || c == '\t'

/-- A character that ends a line. -/
def isBreak (c : Char) : Bool :=
  c == '\n' || c == '\r' || c == '\u0085' || c == '\u2028' || c == '\u2029'

/-- A character of an anchor, a handle or a directive's name. -/
def isWordChar (c : Char) : Bool := c.isAlphanum || c == '_' || c == '-'

/-- Whether a text is empty or starts with a blank or a line break. -/
def atGap : List Char → Bool
  | [] => true
  | c :: _ => isBlank c || isBreak c

/-- Whether a text is empty or starts with a line break. -/
def atLineEnd : List Char → Bool
  | [] => true
  | c :: _ => isBreak c

/-- The rest of a stream and its place. -/
structure Cursor where
  rest : List Char
  index : Nat
  line : Nat
  column : Nat

namespace Cursor

/-- The start of a stream. A byte order mark in front takes no place. -/
def start (t : List Char) : Cursor :=
  ⟨if t.head? = some byteOrderMark then t.tail else t, 0, 0, 0⟩

/-- The next character. -/
def head? (cur : Cursor) : Option Char := cur.rest.head?

/-- Passes over `n` characters of a line. -/
def advance (cur : Cursor) (n : Nat) : Cursor :=
  { cur with rest := cur.rest.drop n, index := cur.index + n, column := cur.column + n }

/-- Reads the characters of a line that satisfy a test. -/
def takeWhile (cur : Cursor) (p : Char → Bool) : List Char × Cursor :=
  let cs := cur.rest.takeWhile p
  (cs, cur.advance cs.length)

/-- Passes over the characters of a line that satisfy a test. -/
def skipWhile (cur : Cursor) (p : Char → Bool) : Cursor := (cur.takeWhile p).2

/-- Passes over a comment. -/
def skipComment (cur : Cursor) : Cursor :=
  if cur.head? = some '#' then cur.skipWhile (!isBreak ·) else cur

/-- Reads a line break. All of them mean a line feed, but for the two separators. -/
def takeBreak (cur : Cursor) : Option (Char × Cursor) :=
  match cur.rest with
  | '\r' :: '\n' :: rest => some ('\n', ⟨rest, cur.index + 2, cur.line + 1, 0⟩)
  | c :: rest =>
    if isBreak c then
      some (if c == '\u2028' || c == '\u2029' then c else '\n',
        ⟨rest, cur.index + 1, cur.line + 1, 0⟩)
    else none
  | [] => none

/-- Passes over a line break, if there is one. -/
def skipBreak (cur : Cursor) : Cursor :=
  match cur.takeBreak with
  | some (_, cur) => cur
  | none => cur

/-- Passes over the blanks, the comment and the break that end a line; nothing else may stand
there. -/
def endLine (cur : Cursor) (error : YamlError) : Except YamlError Cursor :=
  let cur := (cur.skipWhile isBlank).skipComment
  if atLineEnd cur.rest then .ok cur.skipBreak else .error error

/-- Whether three times `c`, alone at the start of a line, comes next. -/
def atMark (c : Char) (cur : Cursor) : Bool :=
  match cur.rest with
  | a :: b :: d :: rest => cur.column == 0 && a == c && b == c && d == c && atGap rest
  | _ => false

/-- Whether a document starts or ends here. -/
def atDocumentMark (cur : Cursor) : Bool := cur.atMark '-' || cur.atMark '.'

end Cursor

end Highlighter.Yaml
