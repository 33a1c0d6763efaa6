import Highlighter.Unicode.Alphabetic
import Highlighter.Unicode.Letter
import Highlighter.Unicode.Mark
import Highlighter.Unicode.Number
import Highlighter.Unicode.Punctuation
import Highlighter.Unicode.Separator
import Highlighter.Unicode.Symbol

/-!
# General categories

Every code point has one general category. A family of categories, such as the letters, is the union
of its members, and the code points that no table lists are unassigned.
-/

namespace Highlighter.Unicode

/-- The tables of the letters. -/
def letters : List Ranges :=
  [uppercaseLetter, lowercaseLetter, titlecaseLetter, modifierLetter, otherLetter]

/-- The tables of the letters that have a case. -/
def casedLetters : List Ranges := [uppercaseLetter, lowercaseLetter, titlecaseLetter]

/-- The tables of the marks. -/
def marks : List Ranges := [nonspacingMark, spacingMark, enclosingMark]

/-- The tables of the numbers. -/
def numbers : List Ranges := [decimalNumber, letterNumber, otherNumber]

/-- The tables of the punctuation. -/
def punctuation : List Ranges :=
  [connectorPunctuation, dashPunctuation, openPunctuation, closePunctuation, initialPunctuation,
    finalPunctuation, otherPunctuation]

/-- The tables of the symbols. -/
def symbols : List Ranges := [mathSymbol, currencySymbol, modifierSymbol, otherSymbol]

/-- The tables of the separators. -/
def separators : List Ranges := [spaceSeparator, lineSeparator, paragraphSeparator]

/-- The tables of the code points without a shape, the unassigned ones left out. -/
def shapeless : List Ranges := [control, format, surrogate, privateUse]

/-- The tables of all assigned code points. -/
def assigned : List Ranges :=
  letters ++ marks ++ numbers ++ punctuation ++ symbols ++ separators ++ shapeless

/-- The tables of what counts as a letter. -/
def alphabetic : List Ranges := letters ++ [letterNumber, otherAlphabetic]

/-- The tables of what counts as upper case. -/
def upperCase : List Ranges := [uppercaseLetter, otherUppercase]

/-- The tables of what counts as lower case. -/
def lowerCase : List Ranges := [lowercaseLetter, otherLowercase]

/-- The names of the categories and of their families, each with its tables. -/
def categories : List (String × List Ranges) :=
  [("l", letters), ("letter", letters), ("lc", casedLetters), ("casedletter", casedLetters),
    ("lu", [uppercaseLetter]), ("uppercaseletter", [uppercaseLetter]), ("ll", [lowercaseLetter]),
    ("lowercaseletter", [lowercaseLetter]), ("lt", [titlecaseLetter]),
    ("titlecaseletter", [titlecaseLetter]), ("lm", [modifierLetter]),
    ("modifierletter", [modifierLetter]), ("lo", [otherLetter]), ("otherletter", [otherLetter]),
    ("m", marks), ("mark", marks), ("combiningmark", marks), ("mn", [nonspacingMark]),
    ("nonspacingmark", [nonspacingMark]), ("mc", [spacingMark]), ("spacingmark", [spacingMark]),
    ("me", [enclosingMark]), ("enclosingmark", [enclosingMark]), ("n", numbers),
    ("number", numbers), ("nd", [decimalNumber]), ("decimalnumber", [decimalNumber]),
    ("nl", [letterNumber]), ("letternumber", [letterNumber]), ("no", [otherNumber]),
    ("othernumber", [otherNumber]), ("p", punctuation), ("punctuation", punctuation),
    ("pc", [connectorPunctuation]), ("connectorpunctuation", [connectorPunctuation]),
    ("pd", [dashPunctuation]), ("dashpunctuation", [dashPunctuation]), ("ps", [openPunctuation]),
    ("openpunctuation", [openPunctuation]), ("pe", [closePunctuation]),
    ("closepunctuation", [closePunctuation]), ("pi", [initialPunctuation]),
    ("initialpunctuation", [initialPunctuation]), ("pf", [finalPunctuation]),
    ("finalpunctuation", [finalPunctuation]), ("po", [otherPunctuation]),
    ("otherpunctuation", [otherPunctuation]), ("s", symbols), ("symbol", symbols),
    ("sm", [mathSymbol]), ("mathsymbol", [mathSymbol]), ("sc", [currencySymbol]),
    ("currencysymbol", [currencySymbol]), ("sk", [modifierSymbol]),
    ("modifiersymbol", [modifierSymbol]), ("so", [otherSymbol]), ("othersymbol", [otherSymbol]),
    ("z", separators), ("separator", separators), ("zs", [spaceSeparator]),
    ("spaceseparator", [spaceSeparator]), ("zl", [lineSeparator]),
    ("lineseparator", [lineSeparator]), ("zp", [paragraphSeparator]),
    ("paragraphseparator", [paragraphSeparator]), ("cc", [control]), ("control", [control]),
    ("cf", [format]), ("format", [format]), ("cs", [surrogate]), ("surrogate", [surrogate]),
    ("co", [privateUse]), ("privateuse", [privateUse])]

end Highlighter.Unicode
