import Highlighter.Markup.Element

/-!
# Tags and nesting

A tag opens an element or closes the innermost open one, at a byte offset of some text. A list of
tags is properly nested if the offsets never decrease, every end has a start and every start an end;
`checkNesting` reports the first defect.
-/

namespace Highlighter

/-- The start of an element, or the end of the innermost open one. -/
inductive Tag where
  | start (offset : Nat) (element : Element)
  | stop (offset : Nat)
  deriving DecidableEq, Inhabited

/-- Where a tag stands. -/
def Tag.offset : Tag → Nat
  | .start n _ => n
  | .stop n => n

/-- What can be wrong with the nesting of tags. -/
inductive NestingDefect where
  | outOfOrder (offset previous : Nat)
  | danglingEnd (offset : Nat)
  | unclosed (count : Nat)
  deriving DecidableEq, Repr

/-- The wording of a defect. -/
def NestingDefect.message : NestingDefect → String
  | .outOfOrder offset previous =>
    s!"tag at offset {offset} goes backwards (previous offset {previous})"
  | .danglingEnd offset => s!"end tag at offset {offset} has no open start tag"
  | .unclosed count => s!"{count} start tag(s) never closed"

/-- Checks the nesting of tags that follow an offset, with a number of elements open. -/
def checkNestingFrom (previous depth : Nat) : List Tag → Except NestingDefect Unit
  | [] => if depth = 0 then .ok () else .error (.unclosed depth)
  | tag :: tags =>
    if tag.offset < previous then .error (.outOfOrder tag.offset previous)
    else
      match tag with
      | .start n _ => checkNestingFrom n (depth + 1) tags
      | .stop n =>
        match depth with
        | 0 => .error (.danglingEnd n)
        | depth + 1 => checkNestingFrom n depth tags

/-- Reports the first defect in the nesting of a list of tags. -/
def checkNesting (tags : List Tag) : Except NestingDefect Unit := checkNestingFrom 0 0 tags

end Highlighter
