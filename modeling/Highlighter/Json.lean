import Highlighter.Document.Datum

/-!
# JSON

A reader of JSON texts. Numbers are kept as far as `Datum` can tell them apart. A string whose
escapes are no characters is read as `none`: it is well formed, but it has no value.
-/

namespace Highlighter

/-- A JSON value. -/
inductive Json where
  | null
  | bool (b : Bool)
  | number (d : Datum)
  | string (s : Option String)
  | array (items : List Json)
  | object (members : List (Option String × Json))
  deriving Inhabited

/-- Why a text is not JSON. -/
inductive JsonError where
  | unexpectedEnd
  | unexpectedCharacter (c : Char)
  | badEscape
  | trailingCharacters
  | mismatch
  deriving DecidableEq, Repr

/-- The wording of an error. -/
def JsonError.message : JsonError → String
  | unexpectedEnd => "unexpected end of text"
  | unexpectedCharacter c => "unexpected character " ++ c.quote
  | badEscape => "invalid escape"
  | trailingCharacters => "trailing characters"
  | mismatch => "a value has the wrong type"

namespace Json

/-- Passes over white space. -/
def skipBlanks (t : List Char) : List Char :=
  t.dropWhile fun c => c == ' ' || c == '\t' || c == '\n' || c == '\r'

/-- The value of a hexadecimal digit. -/
def hexValue? (c : Char) : Option Nat :=
  let n := c.toNat
  if 0x30 ≤ n ∧ n ≤ 0x39 then some (n - 0x30)
  else if 0x41 ≤ n ∧ n ≤ 0x46 then some (n - 0x37)
  else if 0x61 ≤ n ∧ n ≤ 0x66 then some (n - 0x57)
  else none

/-- Four hexadecimal digits. -/
def readUnit : List Char → Except JsonError (Nat × List Char)
  | a :: b :: c :: d :: rest =>
    match hexValue? a, hexValue? b, hexValue? c, hexValue? d with
    | some a, some b, some c, some d => .ok (((a * 16 + b) * 16 + c) * 16 + d, rest)
    | _, _, _, _ => .error .badEscape
  | _ => .error .unexpectedEnd

/-- A part of a string: a character, or a half of a surrogate pair. -/
inductive StringPart where
  | char (c : Char)
  | high (n : Nat)
  | low (n : Nat)

/-- The part that one unit of an escape stands for. -/
def StringPart.ofUnit (n : Nat) : StringPart :=
  if 0xD800 ≤ n ∧ n < 0xDC00 then .high n
  else if 0xDC00 ≤ n ∧ n < 0xE000 then .low n
  else .char (Char.ofNat n)

/-- The characters of the parts of a string, if no surrogate stands alone. -/
def StringPart.join : List StringPart → Option (List Char)
  | [] => some []
  | .char c :: rest => (c :: ·) <$> join rest
  | .high a :: .low b :: rest =>
    (Char.ofNat (0x10000 + (a - 0xD800) * 1024 + (b - 0xDC00)) :: ·) <$> join rest
  | _ => none

/-- The parts of a string behind its opening quote, `parts` (last first) being read already. -/
def readParts : Nat → List StringPart → List Char → Except JsonError (List StringPart × List Char)
  | 0, _, _ => .error .unexpectedEnd
  | _ + 1, _, [] => .error .unexpectedEnd
  | _ + 1, parts, '"' :: rest => .ok (parts.reverse, rest)
  | fuel + 1, parts, '\\' :: rest =>
    match rest with
    | 'u' :: rest => do
      let (n, rest) ← readUnit rest
      readParts fuel (.ofUnit n :: parts) rest
    | '"' :: rest => readParts fuel (.char '"' :: parts) rest
    | '\\' :: rest => readParts fuel (.char '\\' :: parts) rest
    | '/' :: rest => readParts fuel (.char '/' :: parts) rest
    | 'b' :: rest => readParts fuel (.char '\x08' :: parts) rest
    | 'f' :: rest => readParts fuel (.char '\x0c' :: parts) rest
    | 'n' :: rest => readParts fuel (.char '\n' :: parts) rest
    | 'r' :: rest => readParts fuel (.char '\r' :: parts) rest
    | 't' :: rest => readParts fuel (.char '\t' :: parts) rest
    | [] => .error .unexpectedEnd
    | _ => .error .badEscape
  | fuel + 1, parts, c :: rest =>
    if c.toNat < 0x20 then .error (.unexpectedCharacter c)
    else readParts fuel (.char c :: parts) rest

/-- A string behind its opening quote. -/
def readString (rest : List Char) : Except JsonError (Option String × List Char) := do
  let (parts, rest) ← readParts (rest.length + 1) [] rest
  return ((StringPart.join parts).map String.ofList, rest)

/-- The value of decimal digits. -/
def decimalValue (digits : List Char) : Nat :=
  digits.foldl (fun n c => n * 10 + (c.toNat - '0'.toNat)) 0

/-- Digits, at least one. -/
def readDigits (t : List Char) : Except JsonError (List Char × List Char) :=
  match t.takeWhile Char.isDigit with
  | [] => .error (match t with | [] => .unexpectedEnd | c :: _ => .unexpectedCharacter c)
  | digits => .ok (digits, t.dropWhile Char.isDigit)

/-- Passes over a fraction and an exponent; the flag tells whether there was one. -/
def skipFraction (t : List Char) : Except JsonError (Bool × List Char) := do
  let (fraction, t) ← match t with
    | '.' :: t => do
      let (_, t) ← readDigits t
      pure (true, t)
    | t => pure (false, t)
  match t with
  | 'e' :: t => exponent t
  | 'E' :: t => exponent t
  | t => return (fraction, t)
where
  /-- The digits of an exponent. -/
  exponent (t : List Char) : Except JsonError (Bool × List Char) := do
    let t := match t with
      | '+' :: t => t
      | '-' :: t => t
      | t => t
    let (_, t) ← readDigits t
    return (true, t)

/-- A number, with what follows. A zero with a minus sign is no integer. -/
def readNumber (t : List Char) : Except JsonError (Datum × List Char) := do
  let (minus, t) := match t with
    | '-' :: t => (true, t)
    | t => (false, t)
  let (digits, t) ← match t with
    | '0' :: t =>
      match t with
      | c :: _ => if c.isDigit then throw (.unexpectedCharacter c) else pure (['0'], t)
      | [] => pure (['0'], t)
    | t => readDigits t
  let (fraction, t) ← skipFraction t
  let n := decimalValue digits
  return (if fraction || (minus && n == 0) then .real else .ofInteger minus n, t)

mutual
/-- A value, with what follows. -/
def readValue : Nat → List Char → Except JsonError (Json × List Char)
  | 0, _ => .error .unexpectedEnd
  | fuel + 1, t =>
    match skipBlanks t with
    | [] => .error .unexpectedEnd
    | 'n' :: 'u' :: 'l' :: 'l' :: t => .ok (null, t)
    | 't' :: 'r' :: 'u' :: 'e' :: t => .ok (bool true, t)
    | 'f' :: 'a' :: 'l' :: 's' :: 'e' :: t => .ok (bool false, t)
    | '"' :: t => do
      let (s, t) ← readString t
      return (string s, t)
    | '[' :: t =>
      match skipBlanks t with
      | ']' :: t => .ok (array [], t)
      | t => do
        let (items, t) ← readItems fuel t
        return (array items, t)
    | '\x7b' :: t =>
      match skipBlanks t with
      | '\x7d' :: t => .ok (object [], t)
      | t => do
        let (members, t) ← readMembers fuel t
        return (object members, t)
    | c :: t =>
      if c == '-' || c.isDigit then do
        let (d, t) ← readNumber (c :: t)
        return (number d, t)
      else .error (.unexpectedCharacter c)

/-- The items of an array up to its closing bracket. -/
def readItems : Nat → List Char → Except JsonError (List Json × List Char)
  | 0, _ => .error .unexpectedEnd
  | fuel + 1, t => do
    let (item, t) ← readValue fuel t
    match skipBlanks t with
    | ',' :: t =>
      let (items, t) ← readItems fuel t
      return (item :: items, t)
    | ']' :: t => return ([item], t)
    | [] => throw .unexpectedEnd
    | c :: _ => throw (.unexpectedCharacter c)

/-- The members of an object up to its closing brace. -/
def readMembers : Nat → List Char → Except JsonError (List (Option String × Json) × List Char)
  | 0, _ => .error .unexpectedEnd
  | fuel + 1, t => do
    match skipBlanks t with
    | '"' :: t =>
      let (key, t) ← readString t
      match skipBlanks t with
      | ':' :: t =>
        let (value, t) ← readValue fuel t
        match skipBlanks t with
        | ',' :: t =>
          let (members, t) ← readMembers fuel t
          return ((key, value) :: members, t)
        | '\x7d' :: t => return ([(key, value)], t)
        | [] => throw .unexpectedEnd
        | c :: _ => throw (.unexpectedCharacter c)
      | [] => throw .unexpectedEnd
      | c :: _ => throw (.unexpectedCharacter c)
    | [] => throw .unexpectedEnd
    | c :: _ => throw (.unexpectedCharacter c)
end

/-- Reads a text that is one JSON value. -/
def read (t : List Char) : Except JsonError Json := do
  let (v, rest) ← readValue (t.length + 1) t
  if (skipBlanks rest).isEmpty then return v else throw .trailingCharacters

mutual
/-- The plain data of a value, if all of its strings have a value. -/
def toDatum? : Json → Option Datum
  | null => some .null
  | bool b => some (.bool b)
  | number d => some d
  | string s => Datum.string <$> s
  | array items => Datum.sequence <$> itemsToData? items
  | object members => Datum.mapping <$> membersToData? members

/-- The plain data of the items of an array. -/
def itemsToData? : List Json → Option (List Datum)
  | [] => some []
  | v :: vs => do return (← v.toDatum?) :: (← itemsToData? vs)

/-- The plain data of the members of an object. -/
def membersToData? : List (Option String × Json) → Option (List (Datum × Datum))
  | [] => some []
  | (key, v) :: rest => do
    return (.string (← key), ← v.toDatum?) :: (← membersToData? rest)
end

end Json

end Highlighter
