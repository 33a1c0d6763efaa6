/-!
# Errors in patterns
-/

namespace Highlighter

/-- Why a pattern cannot be read. -/
inductive PatternError where
  | endAtEscape
  | tooShortEscape
  | tooBigNumber
  | invalidCode
  | unknownProperty
  | emptyClass
  | unclosedClass
  | emptyRange
  | propertyInRange
  | nothingToRepeat
  | unrepeatable
  | repeatTooBig
  | unclosedGroup
  | unmatchedClose
  | unknownOption
  | invalidName
  | undefinedName
  | undefinedGroup
  | numberedReference
  | ambiguousCall
  | endlessRecursion
  | invalidLookBehind
  | invalidCondition
  | unknownCallout
  | tooDeep
  deriving DecidableEq, Repr

/-- The wording of an error. -/
def PatternError.message : PatternError → String
  | endAtEscape => "end pattern at escape"
  | tooShortEscape => "too short escape sequence"
  | tooBigNumber => "too big number"
  | invalidCode => "invalid code point value"
  | unknownProperty => "invalid character property name"
  | emptyClass => "empty char-class"
  | unclosedClass => "premature end of char-class"
  | emptyRange => "empty range in char class"
  | propertyInRange => "char-class value at end of range"
  | nothingToRepeat => "target of repeat operator is not specified"
  | unrepeatable => "target of repeat operator is invalid"
  | repeatTooBig => "too big number for repeat range"
  | unclosedGroup => "end pattern with unmatched parenthesis"
  | unmatchedClose => "unmatched close parenthesis"
  | unknownOption => "undefined group option"
  | invalidName => "invalid group name"
  | undefinedName => "undefined name reference"
  | undefinedGroup => "invalid backref number/name"
  | numberedReference => "numbered backref/call is not allowed. (use name)"
  | ambiguousCall => "multiplex definition name call"
  | endlessRecursion => "never ending recursion"
  | invalidLookBehind => "invalid pattern in look-behind"
  | invalidCondition => "invalid if-else syntax"
  | unknownCallout => "undefined callout name"
  | tooDeep => "too deep nest level"

end Highlighter
