import Highlighter.Pattern.Regex
import Highlighter.Unicode.Grapheme.Break

/-!
# Places in a line

A place knows what is before it and what follows, so that conditions on both sides can be checked,
and its byte offset.
-/

namespace Highlighter

/-- A place in a line: what is behind it (nearest first), what follows, and its byte offset. -/
structure Cursor where
  before : List Char
  after : List Char
  offset : Nat
  deriving DecidableEq, Repr

namespace Cursor

/-- The next character and the place behind it, if that is not beyond an offset. -/
def next? (limit : Nat) (c : Cursor) : Option (Char × Cursor) :=
  match c.after with
  | [] => none
  | x :: after =>
    let offset := c.offset + x.utf8Size
    if offset ≤ limit then some (x, ⟨x :: c.before, after, offset⟩) else none

/-- The place behind a text, if that text follows. -/
def skip? (limit : Nat) : List Char → Cursor → Option Cursor
  | [], c => some c
  | x :: xs, c =>
    match c.next? limit with
    | some (y, d) => if x = y then skip? limit xs d else none
    | none => none

/-- The place behind characters that are folded to the given ones, if such follow. -/
def skipVariants? (limit : Nat) : List Char → Cursor → Option Cursor
  | [], c => some c
  | x :: xs, c =>
    match c.next? limit with
    | some (y, d) => if Unicode.fold y = [x] then skipVariants? limit xs d else none
    | none => none

/--
The place behind a text that is equal up to case to a word, given by the foldings of its characters.
A character matches those with its folding. Unless only single characters are compared, a character
with a longer folding also matches that folding spelled out, and several characters of the word
match one that is folded to them.
-/
def skipFolded? (limit : Nat) (single : Bool) : List (List Char) → Cursor → Option Cursor
  | [], c => some c
  | key :: keys, c =>
    match c.next? limit with
    | none => none
    | some (x, d) =>
      let folding := Unicode.fold x
      if folding = key then skipFolded? limit single keys d
      else if single then none
      else if 1 < key.length then
        match skipVariants? limit key c with
        | some d => skipFolded? limit single keys d
        | none => none
      else
        match keys with
        | second :: rest =>
          if folding.map ([·]) = [key, second] then skipFolded? limit single rest d
          else
            match rest with
            | third :: rest =>
              if folding.map ([·]) = [key, second, third] then skipFolded? limit single rest d
              else none
            | [] => none
        | [] => none

/-- The place a number of characters to the left. -/
def back? : Nat → Cursor → Option Cursor
  | 0, c => some c
  | n + 1, c =>
    match c.before with
    | [] => none
    | x :: before => back? n ⟨before, x :: c.after, c.offset - x.utf8Size⟩

/-- The place at a byte offset further right. -/
def seek? (before : List Char) (offset target : Nat) : List Char → Option Cursor
  | [] => if offset = target then some ⟨before, [], offset⟩ else none
  | x :: after =>
    if offset = target then some ⟨before, x :: after, offset⟩
    else if offset < target then seek? (x :: before) (offset + x.utf8Size) target after
    else none

/-- Whether a character belongs to words; of ASCII only if `narrow`. -/
def isWord (narrow : Bool) (c : Char) : Bool :=
  if narrow then c.toNat < 0x80 && CharProperty.word.holds c else CharProperty.word.holds c

/-- Whether a word character follows. -/
def wordFollows (narrow : Bool) (c : Cursor) : Bool := c.after.head?.any (isWord narrow)

/-- Whether a word character stands before. -/
def wordPrecedes (narrow : Bool) (c : Cursor) : Bool := c.before.head?.any (isWord narrow)

end Cursor

/-- Whether a condition holds at a place of a search that began at an offset. -/
def Anchor.holds (a : Anchor) (searchStart : Nat) (c : Cursor) : Bool :=
  match a with
  | lineStart =>
    match c.before, c.after with
    | [], _ => true
    | x :: _, _ :: _ => x == '\n'
    | _ :: _, [] => false
  | lineEnd =>
    match c.after with
    | [] => true
    | x :: _ => x == '\n'
  | textStart => c.before.isEmpty
  | textEnd => c.after.isEmpty
  | lastLineEnd => c.after.isEmpty || c.after == ['\n']
  | .searchStart => c.offset == searchStart
  | wordBoundary narrow => c.wordFollows narrow != c.wordPrecedes narrow
  | noWordBoundary narrow => c.wordFollows narrow == c.wordPrecedes narrow
  | unitBoundary => Unicode.Grapheme.breaksBetween c.before c.after
  | noUnitBoundary => !Unicode.Grapheme.breaksBetween c.before c.after

end Highlighter
