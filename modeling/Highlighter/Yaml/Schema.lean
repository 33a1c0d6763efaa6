import Highlighter.Document.Datum
import Highlighter.Yaml.Tree

/-!
# What YAML nodes mean

A scalar is a text, and what else it may be is decided by the reader. A reader that expects a text
takes it as it is written; a reader that expects anything at all (`Tree.toDatum?`) resolves plain
scalars to nulls, truth values and numbers.
-/

namespace Highlighter.Yaml

/-- The prefix of the tags of the standard types. -/
def standardTag (name : String) : String := "tag:yaml.org,2002:" ++ name

/-- Whether a plain scalar is written as a null. -/
def isNull (s : String) : Bool := s == "null" || s == "Null" || s == "NULL" || s == "~"

/-- The truth value that a plain scalar is. -/
def bool? (s : String) : Option Bool :=
  if s == "true" || s == "True" || s == "TRUE" then some true
  else if s == "false" || s == "False" || s == "FALSE" then some false
  else none

/-- The value of a digit in a base up to 16. -/
def digit? (base : Nat) (c : Char) : Option Nat :=
  match Json.hexValue? c with
  | some n => if n < base then some n else none
  | none => none

/-- The value of digits in a base up to 16, at least one. -/
def digits? (base : Nat) (t : List Char) : Option Nat :=
  if t.isEmpty then none else t.foldlM (fun n c => (n * base + ·) <$> digit? base c) 0

/-- Whether decimal digits, with or without a sign, start with a zero that is not the only one.
They are no number. -/
def hasLeadingZero (t : List Char) : Bool :=
  let t := match t with
    | '-' :: t => t
    | '+' :: t => t
    | t => t
  match t with
  | '0' :: c :: rest => (c :: rest).all Char.isDigit
  | _ => false

/-- The value of digits with the mark of a base in front, if there is one. -/
def magnitude? : List Char → Option Nat
  | '0' :: 'x' :: t => digits? 16 t
  | '0' :: 'o' :: t => digits? 8 t
  | '0' :: 'b' :: t => digits? 2 t
  | t => if hasLeadingZero t then none else digits? 10 t

/-- The integer that a plain scalar is. One that does not fit into 64 bits is kept as a real
number, and one that does not fit into 128 bits is none. -/
def integer? : List Char → Option Datum
  | '-' :: t => do
    let n ← magnitude? t
    if n ≤ Nat.pow 2 127 then return .ofInteger true n else none
  | '+' :: t => unsigned t
  | t => unsigned t
where
  /-- An integer without a minus sign. -/
  unsigned (t : List Char) : Option Datum := do
    let n ← magnitude? t
    if n < Nat.pow 2 128 then return .ofInteger false n else none

/-- The smallest number that is too large for a floating-point number of 64 bits. -/
def floatLimit : Nat := (Nat.pow 2 54 - 1) * Nat.pow 2 970

/-- Whether `m * 10 ^ e` is a floating-point number of 64 bits, after rounding. -/
def isFinite (m : Nat) (e : Int) : Bool :=
  let magnitude : Int := (Nat.toDigits 10 m).length + e
  if m = 0 then true
  else if magnitude > 310 then false
  else if magnitude < 300 then true
  else if e ≥ 0 then m * Nat.pow 10 e.toNat < floatLimit
  else m < floatLimit * Nat.pow 10 (-e).toNat

/-- The exponent of a decimal number, which is 0 if there is none. -/
def exponent? : List Char → Option Int
  | [] => some 0
  | c :: t =>
    if c == 'e' || c == 'E' then
      match t with
      | '-' :: t => (fun n => -(n : Int)) <$> digits? 10 t
      | '+' :: t => (fun n => (n : Int)) <$> digits? 10 t
      | t => (fun n => (n : Int)) <$> digits? 10 t
    else none

/-- Whether a text without a sign is a decimal number, with a fraction and an exponent or not, that
is not too large. -/
def isUnsignedDecimal (t : List Char) : Bool :=
  let whole := t.takeWhile Char.isDigit
  let rest := t.dropWhile Char.isDigit
  let (fraction, rest) := match rest with
    | '.' :: rest => (rest.takeWhile Char.isDigit, rest.dropWhile Char.isDigit)
    | rest => ([], rest)
  match exponent? rest with
  | some e =>
    !(whole.isEmpty && fraction.isEmpty)
      && isFinite (Json.decimalValue (whole ++ fraction)) (e - fraction.length)
  | none => false

/-- Whether a plain scalar is a floating-point number. -/
def isFloat (t : List Char) : Bool :=
  let infinity := [".inf", ".Inf", ".INF"].map String.toList
  let notNumber := [".nan", ".NaN", ".NAN"].map String.toList
  notNumber.contains t ||
    match t with
    | '-' :: t => infinity.contains t || isUnsignedDecimal t
    | '+' :: t => infinity.contains t || isUnsignedDecimal t
    | t => infinity.contains t || isUnsignedDecimal t

/-- What a plain scalar without a tag is. -/
def resolve (s : String) : Datum :=
  if s.isEmpty || isNull s then .null
  else
    match bool? s with
    | some b => .bool b
    | none =>
      match integer? s.toList with
      | some d => d
      | none => if !hasLeadingZero s.toList && isFloat s.toList then .real else .string s

/-- What a scalar is. A standard tag says what it has to be. -/
def resolveTagged (tag : Option String) (style : ScalarStyle) (s : String) : Option Datum :=
  match tag with
  | none => some (if style = .plain then resolve s else .string s)
  | some tag =>
    if tag = standardTag "bool" then .bool <$> bool? s
    else if tag = standardTag "int" then integer? s.toList
    else if tag = standardTag "float" then if isFloat s.toList then some .real else none
    else if tag = standardTag "null" then if isNull s then some .null else none
    else some (.string s)

/-- Whether a tag is one of the document's own. -/
def isLocalTag (tag : Option String) : Bool := tag.any (·.startsWith "!")

namespace Tree

mutual
/-- The plain data of a node. There are none if a reference leads back to it, if a tag of the
document's own is used, or if a scalar is not what its tag says. -/
def toDatum? : Tree → Option Datum
  | scalar tag style s => if isLocalTag tag then none else resolveTagged tag style s
  | sequence tag items => if isLocalTag tag then none else Datum.sequence <$> itemsToData? items
  | mapping tag entries => if isLocalTag tag then none else Datum.mapping <$> entriesToData? entries
  | unfinished => none

/-- The plain data of the items of a sequence. -/
def itemsToData? : List Tree → Option (List Datum)
  | [] => some []
  | t :: ts => do return (← t.toDatum?) :: (← itemsToData? ts)

/-- The plain data of the entries of a mapping. -/
def entriesToData? : List (Tree × Tree) → Option (List (Datum × Datum))
  | [] => some []
  | (k, v) :: rest => do return (← k.toDatum?, ← v.toDatum?) :: (← entriesToData? rest)
end

/-- The text of a scalar, however it is written. -/
def text? : Tree → Option String
  | scalar _ _ s => some s
  | _ => none

/-- Whether a node is a plain scalar without text. It stands for a collection without items. -/
def isBare : Tree → Bool
  | scalar _ .plain s => s.isEmpty
  | _ => false

/-- The text of a scalar, unless it is a null. -/
def optionalText? : Tree → Option (Option String)
  | scalar tag style s =>
    if style ≠ .plain then some (some s)
    else if tag = some (standardTag "null") then if isNull s then some none else none
    else if tag.isSome then some (some s)
    else some (if s.isEmpty || isNull s then none else some s)
  | _ => none

/-- A truth value. -/
def bool? : Tree → Option Bool
  | scalar tag style s =>
    if style = .plain || (style = .literal && tag = some (standardTag "bool")) then Yaml.bool? s
    else none
  | _ => none

/-- The items of a sequence. -/
def items? : Tree → Option (List Tree)
  | sequence _ items => some items
  | t => if t.isBare then some [] else none

/-- The fields of a record, named by scalars. -/
def fields? : Tree → Option (List (String × Tree))
  | mapping _ entries => entries.mapM fun (k, v) => (·, v) <$> k.text?
  | t => if t.isBare then some [] else none

end Tree

/-- The fields of a document that is a record. A stream without a document has none. -/
def readFields (t : List Char) : Except YamlError (List (String × Tree)) := do
  match ← read t with
  | none => return []
  | some tree =>
    match tree.fields? with
    | some fields => return fields
    | none => throw .mismatch

end Highlighter.Yaml
