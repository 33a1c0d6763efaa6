import Highlighter.Pattern.Regex

/-!
# How much an expression reads

Whether an expression can match the empty text, and between how many characters its matches have. A
back-reference and a call read what their group reads, so the groups are followed, up to a depth
that keeps recursive groups from being followed forever.
-/

namespace Highlighter

namespace Regex

/-- Whether an expression can match the empty text, if the groups are known. -/
def isNullableWith (group : Nat → Bool) : Regex → Bool
  | empty => true
  | word text _ => text.isEmpty
  | set _ => false
  | seq a b => a.isNullableWith group && b.isNullableWith group
  | alt a b => a.isNullableWith group || b.isNullableWith group
  | loop body least most _ => least == 0 || most == some 0 || body.isNullableWith group
  | atomic body => body.isNullableWith group
  | optioned body => body.isNullableWith group
  | capture _ body => body.isNullableWith group
  | backref groups _ => groups.isEmpty || groups.any group
  | choice c yes no =>
    (c.isNullableWith group && yes.isNullableWith group) || no.isNullableWith group
  | call (.number n) => group n
  | _ => true

/-- Whether a group can match the empty text. -/
def groupIsNullable (groups : List (Nat × Regex)) : Nat → Nat → Bool
  | 0, _ => true
  | depth + 1, n =>
    match groups.lookup n with
    | some body => body.isNullableWith (groupIsNullable groups depth)
    | none => true

/-- How deep groups are followed. -/
def followDepth : Nat := 6

/-- Whether an expression can match the empty text. -/
def isNullable (groups : List (Nat × Regex)) (r : Regex) : Bool :=
  r.isNullableWith (groupIsNullable groups followDepth)

end Regex

/-- The least and the greatest number of characters of a match; `sure` if the least is reached. -/
structure Extent where
  least : Nat
  /-- The greatest number; `none` if there is none. -/
  most : Option Nat
  sure : Bool := true
  deriving DecidableEq, Repr

namespace Extent

/-- A fixed number of characters. -/
def exactly (n : Nat) : Extent := ⟨n, some n, true⟩

/-- No characters, under a condition. -/
def conditional : Extent := ⟨0, some 0, false⟩

/-- Whether all matches have one length. -/
def isFixed (e : Extent) : Bool := e.most == some e.least

/-- One after the other. -/
def plus (a b : Extent) : Extent :=
  ⟨a.least + b.least, do return (← a.most) + (← b.most), a.sure && b.sure⟩

/-- One or the other. -/
def either (a b : Extent) : Extent :=
  ⟨min a.least b.least, do return max (← a.most) (← b.most),
    if a.least < b.least then a.sure else if b.least < a.least then b.sure else a.sure || b.sure⟩

/-- Several turns. -/
def repeated (e : Extent) (least : Nat) (most : Option Nat) : Extent :=
  if most = some 0 then exactly 0
  else ⟨e.least * least, do return (← e.most) * (← most), e.sure⟩

end Extent

namespace Regex

open Extent in
/-- The extent of an expression, if those of the groups are known. -/
def extentWith (group : Nat → Extent) : Regex → Extent
  | empty => exactly 0
  | word text _ => exactly text.length
  | set _ => exactly 1
  | seq a b => (a.extentWith group).plus (b.extentWith group)
  | alt a b => (a.extentWith group).either (b.extentWith group)
  | loop body least most _ => (body.extentWith group).repeated least most
  | atomic body => body.extentWith group
  | optioned body => body.extentWith group
  | capture _ body => body.extentWith group
  | backref groups _ =>
    match groups with
    | [] => conditional
    | n :: rest =>
      let e := rest.foldl (fun e n => e.either (group n)) (group n)
      if e.isFixed then e else { e with sure := false }
  | choice c yes no =>
    ((c.extentWith group).plus (yes.extentWith group)).either (no.extentWith group)
  | call (.number n) => group n
  | absent _ expr => { expr.extentWith group with least := 0, sure := false }
  | keep => exactly 0
  | _ => conditional

/-- The extent of a group. -/
def groupExtent (groups : List (Nat × Regex)) : Nat → Nat → Extent
  | 0, _ => ⟨0, none, false⟩
  | depth + 1, n =>
    match groups.lookup n with
    | some body => body.extentWith (groupExtent groups depth)
    | none => .conditional

/-- The extent of an expression. -/
def extent (groups : List (Nat × Regex)) (r : Regex) : Extent :=
  r.extentWith (groupExtent groups followDepth)

end Regex

end Highlighter
