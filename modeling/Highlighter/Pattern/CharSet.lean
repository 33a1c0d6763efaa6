import Highlighter.Text.Blank
import Highlighter.Unicode.Category
import Highlighter.Unicode.Folding

/-!
# Sets of characters

The sets that a pattern can name: single characters and ranges, properties, tables of code points,
and what unions, intersections, complements and the disregard of case make of them.
-/

namespace Highlighter

/-- The character properties that a bracket expression can name. -/
inductive CharProperty where
  | alnum
  | alpha
  | ascii
  | blank
  | cntrl
  | digit
  | graph
  | lower
  | print
  | punct
  | space
  | upper
  | word
  | xdigit
  deriving DecidableEq, Repr

namespace CharProperty

open Unicode

/-- The names of the properties. -/
def names : List (String × CharProperty) :=
  [("alnum", alnum), ("alpha", alpha), ("ascii", ascii), ("blank", blank), ("cntrl", cntrl),
    ("digit", digit), ("graph", graph), ("lower", lower), ("print", print), ("punct", punct),
    ("space", space), ("upper", upper), ("word", word), ("xdigit", xdigit)]

/-- Whether a code point is a control code. -/
def isControl (n : Nat) : Bool := n < 0x20 || (0x7F ≤ n && n < 0xA0)

/-- Whether a character is assigned, no control code and not blank. -/
def isGraphic (c : Char) : Bool :=
  !Text.isBlank c && !isControl c.toNat && (c.toNat < 0x80 || listedIn assigned c.toNat)

/-- Whether a character has a property. -/
def holds (p : CharProperty) (c : Char) : Bool :=
  let n := c.toNat
  match p with
  | alnum => decimalNumber.mem n || listedIn alphabetic n
  | alpha => listedIn alphabetic n
  | ascii => n < 0x80
  | blank => n == 9 || spaceSeparator.mem n
  | cntrl => isControl n
  | digit => decimalNumber.mem n
  | graph => isGraphic c
  | lower => listedIn lowerCase n
  | print => spaceSeparator.mem n || isGraphic c
  | punct => listedIn punctuation n || listedIn symbols n
  | space => Text.isBlank c
  | upper => listedIn upperCase n
  | word =>
    decimalNumber.mem n || connectorPunctuation.mem n || listedIn alphabetic n || listedIn marks n
  | xdigit => (0x30 ≤ n && n ≤ 0x39) || (0x41 ≤ n && n ≤ 0x46) || (0x61 ≤ n && n ≤ 0x66)

end CharProperty

/-- A set of characters. -/
inductive CharSet where
  | none
  /-- The characters between two code points, both included. -/
  | range (first last : Nat)
  | property (p : CharProperty)
  /-- The characters that one of the tables lists. -/
  | listed (tables : List Unicode.Ranges)
  | union (a b : CharSet)
  | inter (a b : CharSet)
  | compl (a : CharSet)
  /-- The characters that are equal up to case to one in the set. -/
  | folded (a : CharSet)
  deriving DecidableEq, Repr

namespace CharSet

/-- Whether a set contains a character. -/
def mem : CharSet → Char → Bool
  | none, _ => false
  | range first last, c => first ≤ c.toNat && c.toNat ≤ last
  | property p, c => p.holds c
  | listed tables, c => Unicode.listedIn tables c.toNat
  | union a b, c => a.mem c || b.mem c
  | inter a b, c => a.mem c && b.mem c
  | compl a, c => !a.mem c
  | folded a, c => (Unicode.variants c).any a.mem

/-- One character. -/
def single (c : Char) : CharSet := range c.toNat c.toNat

/-- All characters. -/
def all : CharSet := compl none

/-- Everything but a line feed. -/
def notLineFeed : CharSet := compl (single '\n')

/-- The characters of a list. -/
def ofList (cs : List Char) : CharSet := cs.foldr (fun c s => union (single c) s) none

/-- The character of a set that is written as a single one. -/
def onlyChar? : CharSet → Option Char
  | range first last =>
    if first = last ∧ first.isValidChar then some (Char.ofNat first) else Option.none
  | union none b => b.onlyChar?
  | union a b => if a.onlyChar? = b.onlyChar? then a.onlyChar? else Option.none
  | _ => Option.none

/-- A set, or its complement. -/
def negatedIf (negated : Bool) (s : CharSet) : CharSet := if negated then compl s else s

/-- A property, of ASCII characters only if `narrow`. -/
def ofProperty (p : CharProperty) (narrow : Bool) : CharSet :=
  if narrow then inter (property .ascii) (property p) else property p

end CharSet

end Highlighter
