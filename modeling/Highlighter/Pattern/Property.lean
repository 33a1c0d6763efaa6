import Highlighter.Pattern.CharSet
import Highlighter.Unicode.Block
import Highlighter.Unicode.Property
import Highlighter.Unicode.Script

/-!
# Named properties

The names that a pattern can write in `\p`: the properties of bracket expressions, the general
categories, the scripts, the blocks and further properties of Unicode.
-/

namespace Highlighter.CharSet

open Unicode

/-- What may start an identifier. -/
def identifierStart : CharSet :=
  union (inter (listed (letters ++ [letterNumber])) (compl (range 0x2E2F 0x2E2F)))
    (listed [[(0x1885, 0x1886, 1), (0x2118, 0x2118, 1), (0x212E, 0x212E, 1), (0x309B, 0x309C, 1)]])

/-- What may continue an identifier. -/
def identifierPart : CharSet :=
  union identifierStart (listed [nonspacingMark, spacingMark, decimalNumber, connectorPunctuation,
    [(0xB7, 0xB7, 1), (0x387, 0x387, 1), (0x1369, 0x1371, 1), (0x19DA, 0x19DA, 1),
      (0x200C, 0x200D, 1), (0x30FB, 0x30FB, 1), (0xFF65, 0xFF65, 1)]])

/-- What no normal form may leave in an identifier. -/
def unstable : CharSet :=
  listed [[(0x37A, 0x37A, 1), (0x309B, 0x309C, 1), (0xFC5E, 0xFC63, 1), (0xFDFA, 0xFDFB, 1),
    (0xFE70, 0xFE7E, 2)]]

/-- What no normal form may leave at the start of an identifier. -/
def unstableStart : CharSet :=
  union unstable (listed [[(0xE33, 0xE33, 1), (0xEB3, 0xEB3, 1), (0xFF9E, 0xFF9F, 1)]])

/-- The properties that are made from others, by name. -/
def composed : List (String × CharSet) :=
  [("any", all), ("assigned", listed assigned), ("c", compl (listed (letters ++ marks ++ numbers ++
      punctuation ++ symbols ++ separators))),
    ("other", compl (listed (letters ++ marks ++ numbers ++ punctuation ++ symbols ++ separators))),
    ("cn", compl (listed assigned)), ("unassigned", compl (listed assigned)),
    ("alphabetic", property .alpha), ("lowercase", property .lower),
    ("uppercase", property .upper), ("whitespace", property .space), ("wspace", property .space),
    ("cased", listed (titlecaseLetter :: upperCase ++ lowerCase)),
    ("idstart", identifierStart), ("ids", identifierStart), ("idcontinue", identifierPart),
    ("idc", identifierPart), ("xidstart", inter identifierStart (compl unstableStart)),
    ("xids", inter identifierStart (compl unstableStart)),
    ("xidcontinue", inter identifierPart (compl unstable)),
    ("xidc", inter identifierPart (compl unstable))]

/--
The set with a name, blanks, hyphens and low lines and the case of letters disregarded. The
properties of bracket expressions are of ASCII characters only where `narrow` says so.
-/
def named? (narrow : CharProperty → Bool) (name : List Char) : Option CharSet :=
  let letters := name.filter fun c => c != ' ' && c != '-' && c != '_'
  let key := String.ofList (letters.map Char.toLower)
  ((CharProperty.names.lookup key).map fun p => ofProperty p (narrow p))
    <|> composed.lookup key
    <|> (categories.lookup key).map listed
    <|> (Script.named.lookup key).map (fun table => listed [table])
    <|> (Property.named.lookup key).map (fun table => listed [table])
    <|> (Block.named.lookup key).map (fun (first, last) => range first last)

end Highlighter.CharSet
