import Highlighter.Unicode.Grapheme.Tables
import Highlighter.Unicode.Property

/-!
# Grapheme breaks

What a reader takes for one character may be several: a letter with its marks, a line break of two
characters, a syllable of Hangul, a flag, a joined picture. `breaksBetween` says whether such a unit
ends between two characters.
-/

namespace Highlighter.Unicode.Grapheme

/-- How a character joins its neighbours. -/
inductive Kind where
  | other
  | carriageReturn
  | lineFeed
  | breaking
  | extending
  | joiner
  | prepending
  | spacing
  | regional
  /-- A leading consonant of Hangul. -/
  | leading
  /-- A vowel of Hangul. -/
  | vowel
  /-- A trailing consonant of Hangul. -/
  | trailing
  /-- A syllable of Hangul without a trailing consonant. -/
  | openSyllable
  /-- A syllable of Hangul with a trailing consonant. -/
  | closedSyllable
  deriving DecidableEq, Repr

/-- The kind of a code point. -/
def kindOf (n : Nat) : Kind :=
  if n == 0x0D then .carriageReturn
  else if n == 0x0A then .lineFeed
  else if breaking.mem n then .breaking
  else if n < 0x300 then .other
  else if n == 0x200D then .joiner
  else if extending.mem n then .extending
  else if Property.regionalIndicator.mem n then .regional
  else if prepending.mem n then .prepending
  else if spacing.mem n then .spacing
  else if (0x1100 ≤ n && n ≤ 0x115F) || (0xA960 ≤ n && n ≤ 0xA97C) then .leading
  else if (0x1160 ≤ n && n ≤ 0x11A7) || (0xD7B0 ≤ n && n ≤ 0xD7C6) then .vowel
  else if (0x11A8 ≤ n && n ≤ 0x11FF) || (0xD7CB ≤ n && n ≤ 0xD7FB) then .trailing
  else if 0xAC00 ≤ n && n ≤ 0xD7A3 then
    if (n - 0xAC00) % 28 == 0 then .openSyllable else .closedSyllable
  else .other

/-- Whether the text before a joiner ends in a picture with its marks; nearest character first. -/
def endsInPicture : List Char → Bool
  | [] => false
  | c :: before =>
    if kindOf c.toNat == .extending then endsInPicture before
    else Property.pictographic.mem c.toNat

/-- How many regional indicators the text ends in; the nearest character first. -/
def regionalRun : List Char → Nat
  | [] => 0
  | c :: before => if kindOf c.toNat == .regional then regionalRun before + 1 else 0

/--
Whether a unit ends between the characters before a place, the nearest first, and the character
behind it. Both ends of a text end a unit.
-/
def breaksBetween (before after : List Char) : Bool :=
  match before, after with
  | [], _ => true
  | _, [] => true
  | a :: rest, b :: _ =>
    match kindOf a.toNat, kindOf b.toNat with
    | .carriageReturn, .lineFeed => false
    | .carriageReturn, _ | .lineFeed, _ | .breaking, _ => true
    | _, .carriageReturn | _, .lineFeed | _, .breaking => true
    | .leading, .leading | .leading, .vowel | .leading, .openSyllable
    | .leading, .closedSyllable => false
    | .openSyllable, .vowel | .openSyllable, .trailing | .vowel, .vowel | .vowel, .trailing => false
    | .closedSyllable, .trailing | .trailing, .trailing => false
    | _, .extending | _, .joiner | _, .spacing => false
    | .prepending, _ => false
    | .joiner, _ => !(Property.pictographic.mem b.toNat && endsInPicture rest)
    | .regional, .regional => regionalRun (a :: rest) % 2 == 0
    | _, _ => true

end Highlighter.Unicode.Grapheme
