import Highlighter.Pattern.Error
import Highlighter.Pattern.Property
import Highlighter.Pattern.Regex

/-!
# Escapes in patterns

What follows a backslash in a pattern: character codes in several spellings, and names of character
properties. Codes written as bytes stand for the UTF-8 encoding of characters.
-/

namespace Highlighter

namespace PatternReader

/-- The options in force. -/
structure Flags where
  ignoreCase : Bool := false
  /-- A dot matches a line feed too. -/
  dotAll : Bool := false
  /-- White space and comments in the pattern are ignored. -/
  extended : Bool := false
  /-- Word characters are those of ASCII. -/
  narrowWord : Bool := false
  /-- Digits are those of ASCII. -/
  narrowDigit : Bool := false
  /-- White space is that of ASCII. -/
  narrowSpace : Bool := false
  /-- All properties of bracket expressions are those of ASCII. -/
  narrowAll : Bool := false

/-- Whether a property is one of ASCII characters only. -/
def Flags.isNarrow (flags : Flags) (p : CharProperty) : Bool :=
  flags.narrowAll || (flags.narrowWord && p == .word) || (flags.narrowDigit && p == .digit) ||
    (flags.narrowSpace && p == .space)

/-- The characters with a property under the options, or those without it. -/
def Flags.property (flags : Flags) (p : CharProperty) (negated : Bool) : CharSet :=
  .negatedIf negated (.ofProperty p (flags.isNarrow p))

/-- The value of a hexadecimal digit. -/
def hexValue? (c : Char) : Option Nat :=
  let n := c.toNat
  if 0x30 ≤ n ∧ n ≤ 0x39 then some (n - 0x30)
  else if 0x41 ≤ n ∧ n ≤ 0x46 then some (n - 0x37)
  else if 0x61 ≤ n ∧ n ≤ 0x66 then some (n - 0x57)
  else none

/-- The value of a digit in a base up to sixteen. -/
def digitValue? (base : Nat) (c : Char) : Option Nat :=
  match hexValue? c with
  | some n => if n < base then some n else none
  | none => none

/-- A number that was read: its value, how many digits it has, and what follows. -/
structure Number where
  value : Nat
  digits : Nat
  rest : List Char

/-- Reads at most `limit` digits behind a number that was begun. -/
def readDigits (base : Nat) : Nat → Number → Number
  | 0, n => n
  | limit + 1, n =>
    match n.rest with
    | [] => n
    | c :: rest =>
      match digitValue? base c with
      | some d => readDigits base limit ⟨n.value * base + d, n.digits + 1, rest⟩
      | none => n

/-- Reads a number of at most `limit` digits. -/
def readNumber (base limit : Nat) (rest : List Char) : Number := readDigits base limit ⟨0, 0, rest⟩

/-- A character code: as a code point, or as one byte of an encoding. -/
inductive Code where
  | point (n : Nat)
  | byte (n : Nat)
  deriving DecidableEq, Repr

/-- The character of a code point, if there is one. -/
def charOf (n : Nat) : Except PatternError Char :=
  if n.isValidChar then .ok (Char.ofNat n) else .error .invalidCode

/-- Whether a character divides the codes of a list. -/
def dividesCodes (c : Char) : Bool := c == ' ' || c == '\n'

/--
Further codes of a list between braces, up to the closing one. In a class two codes may be joined by
a hyphen; `joined` if the last one is waiting for the other end of its range.
-/
def readCodes (base limit : Nat) (inClass : Bool) : Nat → List Char →
    Except PatternError (List (Bool × Nat) × List Char)
  | 0, _ => .error .tooDeep
  | fuel + 1, rest =>
    match rest with
    | '\x7d' :: rest => .ok ([], rest)
    | '-' :: rest => if inClass then readOne true fuel rest else .error .invalidCode
    | c :: rest =>
      if dividesCodes c then
        match rest.dropWhile dividesCodes with
        | '\x7d' :: rest => .ok ([], rest)
        | '-' :: rest => if inClass then readOne true fuel rest else .error .invalidCode
        | rest => readOne false fuel rest
      else .error .invalidCode
    | [] => .error .invalidCode
where
  /-- One code, and whether it ends a range. -/
  readOne (joined : Bool) (fuel : Nat) (rest : List Char) :
      Except PatternError (List (Bool × Nat) × List Char) := do
    let n := readNumber base limit rest
    if n.digits = 0 then throw .invalidCode
    let (codes, rest) ← readCodes base limit inClass fuel n.rest
    return ((joined, n.value) :: codes, rest)

/--
Codes between braces, behind the opening one: the first and the further ones, of which some end a
range. `none` if no digit stands there.
-/
def readBraced (base limit : Nat) (inClass : Bool) (rest : List Char) :
    Except PatternError (Option (Nat × List (Bool × Nat) × List Char)) := do
  let n := readNumber base limit rest
  if n.digits = 0 then return none
  match n.rest with
  | '\x7d' :: rest => return some (n.value, [], rest)
  | _ =>
    let (codes, rest) ← readCodes base limit inClass (rest.length + 1) n.rest
    if codes.isEmpty then throw .invalidCode
    return some (n.value, codes, rest)

/-- The value behind a backslash that names a control or another character by letters. -/
def readControl : Nat → List Char → Except PatternError (Nat × List Char)
  | 0, _ => .error .tooDeep
  | _ + 1, [] => .error .endAtEscape
  | fuel + 1, 'M' :: '-' :: '\\' :: rest => do
    let (n, rest) ← readControl fuel rest
    return (n % 128 + 128, rest)
  | _ + 1, 'M' :: '-' :: c :: rest => .ok (c.toNat % 128 + 128, rest)
  | _ + 1, 'M' :: _ => .error .endAtEscape
  | fuel + 1, 'C' :: '-' :: rest => control fuel rest
  | _ + 1, 'C' :: _ => .error .endAtEscape
  | fuel + 1, 'c' :: rest => control fuel rest
  | _ + 1, c :: rest =>
    match c with
    | 'n' => .ok (10, rest)
    | 't' => .ok (9, rest)
    | 'r' => .ok (13, rest)
    | 'f' => .ok (12, rest)
    | 'a' => .ok (7, rest)
    | 'b' => .ok (8, rest)
    | 'e' => .ok (27, rest)
    | 'v' => .ok (11, rest)
    | c => .ok (c.toNat, rest)
where
  /-- A control character, named by another one. -/
  control (fuel : Nat) : List Char → Except PatternError (Nat × List Char)
    | [] => .error .endAtEscape
    | '?' :: rest => .ok (0x7F, rest)
    | '\\' :: rest => do
      let (n, rest) ← readControl fuel rest
      return (lowBits n, rest)
    | c :: rest => .ok (lowBits c.toNat, rest)
  /-- The lowest five bits and the eighth. -/
  lowBits (n : Nat) : Nat := n % 32 + n / 128 % 2 * 128

/--
The character codes behind a backslash, if codes are written there: the first, and the further ones
of a list between braces.
-/
def readCode? (inClass : Bool) (rest : List Char) :
    Except PatternError (Option (Code × List (Bool × Nat) × List Char)) := do
  match rest with
  | ['x'] => return none
  | ['u'] => return none
  | 'x' :: '\x7b' :: rest => return (← readBraced 16 8 inClass rest).map point
  | 'x' :: rest =>
    let n := readNumber 16 2 rest
    return some (.byte n.value, [], n.rest)
  | 'u' :: rest =>
    let n := readNumber 16 4 rest
    if n.digits = 4 then return some (.point n.value, [], n.rest) else throw .tooShortEscape
  | 'o' :: '\x7b' :: rest => return (← readBraced 8 11 inClass rest).map point
  | '0' :: rest =>
    let n := readNumber 8 2 rest
    return some (.byte n.value, [], n.rest)
  | c :: rest =>
    if c = 'M' ∨ c = 'C' ∨ c = 'c' ∨ c = 'n' ∨ c = 't' ∨ c = 'r' ∨ c = 'f' ∨ c = 'a' ∨ c = 'b' ∨
        c = 'e' ∨ c = 'v' then
      let (n, after) ← readControl (rest.length + 2) (c :: rest)
      return some (.point n, [], after)
    else return none
  | [] => return none
where
  /-- Codes as code points. -/
  point : Nat × List (Bool × Nat) × List Char → Code × List (Bool × Nat) × List Char
    | (n, codes, rest) => (.point n, codes, rest)

/-- How many bytes an encoding has, by its first byte. -/
def encodingSize (first : Nat) : Nat :=
  if first < 0xC2 then 1 else if first < 0xE0 then 2 else if first < 0xF0 then 3
  else if first < 0xF5 then 4 else 1

/-- Reads bytes written as escapes until there are `n` more of them. -/
def readBytes : Nat → List Char → Except PatternError (List Nat × List Char)
  | 0, rest => .ok ([], rest)
  | n + 1, '\\' :: 'x' :: rest =>
    let b := readNumber 16 2 rest
    do
      let (bytes, rest) ← readBytes n b.rest
      return (b.value :: bytes, rest)
  | n + 1, '\\' :: rest => do
    let b := readNumber 8 3 rest
    if b.digits = 0 then throw .tooShortEscape
    let (bytes, rest) ← readBytes n b.rest
    return (b.value :: bytes, rest)
  | _ + 1, _ => .error .tooShortEscape

/-- The character that bytes encode. -/
def decodeBytes : List Nat → Except PatternError Char
  | [a] => if a < 0x80 then .ok (Char.ofNat a) else .error .invalidCode
  | [a, b] => if isTail b then charOf ((a - 0xC0) * 64 + (b - 0x80)) else .error .invalidCode
  | [a, b, c] =>
    let n := ((a - 0xE0) * 64 + (b - 0x80)) * 64 + (c - 0x80)
    if isTail b && isTail c && 0x800 ≤ n then charOf n else .error .invalidCode
  | [a, b, c, d] =>
    let n := (((a - 0xF0) * 64 + (b - 0x80)) * 64 + (c - 0x80)) * 64 + (d - 0x80)
    if isTail b && isTail c && isTail d && 0x10000 ≤ n then charOf n else .error .invalidCode
  | _ => .error .invalidCode
where
  /-- The bytes that continue an encoding. -/
  isTail (b : Nat) : Bool := 0x80 ≤ b && b < 0xC0

/-- The character whose encoding starts with a byte, the others written behind it. -/
def readEncoded (first : Nat) (rest : List Char) : Except PatternError (Char × List Char) := do
  let (bytes, rest) ← readBytes (encodingSize first - 1) rest
  return (← decodeBytes (first :: bytes), rest)

/-- The property behind a backslash that one letter names, and whether it is negated. -/
def letterProperty? : Char → Option (CharProperty × Bool)
  | 'w' => some (.word, false)
  | 'W' => some (.word, true)
  | 'd' => some (.digit, false)
  | 'D' => some (.digit, true)
  | 's' => some (.space, false)
  | 'S' => some (.space, true)
  | 'h' => some (.xdigit, false)
  | 'H' => some (.xdigit, true)
  | _ => none

/-- A property between braces, behind the opening one; `negated` by the letter before it. -/
def readProperty (flags : Flags) (negated : Bool) (rest : List Char) :
    Except PatternError (CharSet × List Char) :=
  let (caret, rest) := match rest with
    | '^' :: rest => (true, rest)
    | rest => (false, rest)
  let name := rest.takeWhile (· != '\x7d')
  match rest.drop name.length, CharSet.named? flags.isNarrow name with
  | _ :: rest, some s => .ok (.negatedIf (negated != caret) s, rest)
  | _, _ => .error .unknownProperty

end PatternReader

end Highlighter
