import Highlighter.Text.Basic

/-!
# White space and words

`isBlank` is the white-space property of Unicode. The words of a text are its maximal runs of
characters that are not white space.
-/

namespace Highlighter.Text

/-- The characters with the white-space property. -/
def isBlank (c : Char) : Bool :=
  let n := c.toNat
  (9 ≤ n && n ≤ 13) || n == 0x20 || n == 0x85 || n == 0xA0 || n == 0x1680
    || (0x2000 ≤ n && n ≤ 0x200A) || n == 0x2028 || n == 0x2029 || n == 0x202F || n == 0x205F
    || n == 0x3000

/-- The words of a text, given the characters `word` (last first) read since the last blank. -/
def wordsFrom (word : List Char) : List Char → List Text
  | [] => if word.isEmpty then [] else [word.reverse]
  | c :: t =>
    if isBlank c then
      if word.isEmpty then wordsFrom [] t else word.reverse :: wordsFrom [] t
    else wordsFrom (c :: word) t

/-- The words of a text, in order. -/
def words (t : Text) : List Text := wordsFrom [] t

/-- Whether two texts agree when the case of ASCII letters is ignored. -/
def eqIgnoreCase (s t : Text) : Bool := s.map Char.toLower == t.map Char.toLower

end Highlighter.Text
