import Highlighter.Pattern.Reader.Escape

/-!
# Quantifiers

A quantifier repeats what stands before it; a suffix makes it lazy or possessive. Quantifiers that
follow each other are combined where one does the work of both.
-/

namespace Highlighter

namespace Regex

/-- The loops with a sign of their own: `?`, `*`, `+` and their lazy forms. -/
inductive Sign where
  | maybe
  | many
  | some
  | lazyMaybe
  | lazyMany
  | lazySome
  deriving DecidableEq, Repr

/-- The sign of a loop, if it has one. -/
def Sign.of? (least : Nat) (most : Option Nat) (greedy : Bool) : Option Sign :=
  match least, most, greedy with
  | 0, .some 1, true => .some .maybe
  | 0, none, true => .some .many
  | 1, none, true => .some .some
  | 0, .some 1, false => .some .lazyMaybe
  | 0, none, false => .some .lazyMany
  | 1, none, false => .some .lazySome
  | _, _, _ => none

/-- A loop over a loop with a sign of its own, as one loop if one does the work of both. -/
def combined (body : Regex) (inner outer : Sign) : Option Regex :=
  match inner, outer with
  | .maybe, .maybe => .some (loop body 0 (.some 1) true)
  | .maybe, .many => .some (loop body 0 none true)
  | .maybe, .some => .some (loop body 0 none true)
  | .maybe, .lazyMaybe => .some (loop body 0 (.some 1) false)
  | .maybe, .lazyMany => .some (loop body 0 none false)
  | .maybe, .lazySome => none
  | .many, .lazyMaybe => .some (loop (loop body 1 none true) 0 (.some 1) false)
  | .many, .lazyMany => .some (loop (loop body 1 none true) 0 (.some 1) false)
  | .many, _ => .some (loop body 0 none true)
  | .some, .maybe => .some (loop body 0 none true)
  | .some, .many => .some (loop body 0 none true)
  | .some, .some => .some (loop body 1 none true)
  | .some, .lazyMaybe => none
  | .some, .lazyMany => .some (loop (loop body 1 none true) 0 (.some 1) false)
  | .some, .lazySome => .some (loop body 1 none true)
  | .lazyMaybe, .maybe => .some (loop body 0 (.some 1) false)
  | .lazyMaybe, .many => .some (loop body 0 none false)
  | .lazyMaybe, .some => .some (loop body 0 none false)
  | .lazyMaybe, .lazyMaybe => .some (loop body 0 (.some 1) false)
  | .lazyMaybe, .lazyMany => .some (loop body 0 none false)
  | .lazyMaybe, .lazySome => .some (loop body 0 none false)
  | .lazyMany, _ => .some (loop body 0 none false)
  | .lazySome, .lazyMaybe => .some (loop body 0 none false)
  | .lazySome, .lazyMany => .some (loop body 0 none false)
  | .lazySome, .lazySome => .some (loop body 1 none false)
  | .lazySome, _ => none

/-- The bound on the number of turns of a loop that stands for two. -/
def maxTurns : Nat := 2147483647

/-- A loop over an expression. -/
def repeated (r : Regex) (least : Nat) (most : Option Nat) (greedy : Bool) :
    Except PatternError Regex :=
  if least = 1 ∧ most = .some 1 then .ok r
  else
    match r with
    | loop body low high lively =>
      let outer := Sign.of? least most greedy
      match Sign.of? low high lively, outer with
      | .some a, .some b =>
        match combined body a b with
        | .some r => .ok r
        | none => .ok (loop r least most greedy)
      | inner, outer =>
        if most = .some least ∧ high = .some low then
          if least * low ≠ 0 ∧ maxTurns / low ≤ least then .error .repeatTooBig
          else .ok (loop body (least * low) (.some (least * low)) greedy)
        else if outer.isNone ∧ greedy ∧ (inner = .some .many ∨ inner = .some .some) ∧
            most.any (1 < ·) then
          .ok (loop r least (.some (if least = 0 then 1 else least)) greedy)
        else .ok (loop r least most greedy)
    | r => .ok (loop r least most greedy)

end Regex

namespace PatternReader

/-- The longest repetition that can be asked for. -/
def maxRepeat : Nat := 100000

/-- A quantifier and what follows it. -/
structure Quantifier where
  least : Nat
  most : Option Nat
  greedy : Bool := true
  possessive : Bool := false
  rest : List Char

/-- Reads a decimal number of any length. -/
def readDecimal (rest : List Char) : Number := readNumber 10 rest.length rest

/-- An interval behind its opening brace; `none` if the brace stands for itself. -/
def readInterval (rest : List Char) : Except PatternError (Option Quantifier) := do
  let low := readDecimal rest
  if maxRepeat < low.value then throw .repeatTooBig
  match low.rest with
  | ',' :: rest =>
    let high := readDecimal rest
    if maxRepeat < high.value then throw .repeatTooBig
    match high.rest with
    | '\x7d' :: rest =>
      if high.digits = 0 then
        if low.digits = 0 then return none
        else return some (lazySuffix ⟨low.value, none, true, false, rest⟩)
      else if high.value < low.value then
        return some ⟨high.value, some low.value, true, true, rest⟩
      else return some (lazySuffix ⟨low.value, some high.value, true, false, rest⟩)
    | _ => return none
  | '\x7d' :: rest =>
    if low.digits = 0 then return none
    else return some ⟨low.value, some low.value, true, false, rest⟩
  | _ => return none
where
  /-- A question mark makes a quantifier lazy. -/
  lazySuffix (q : Quantifier) : Quantifier :=
    match q.rest with
    | '?' :: rest => { q with greedy := false, rest }
    | _ => q

/-- The suffix that makes a quantifier lazy or possessive. -/
def readSuffix (q : Quantifier) : Quantifier :=
  match q.rest with
  | '?' :: rest => { q with greedy := false, rest }
  | '+' :: rest => { q with possessive := true, rest }
  | _ => q

/-- The quantifier at the start of a text, if there is one. -/
def readQuantifier? : List Char → Except PatternError (Option Quantifier)
  | '*' :: rest => .ok (some (readSuffix ⟨0, none, true, false, rest⟩))
  | '+' :: rest => .ok (some (readSuffix ⟨1, none, true, false, rest⟩))
  | '?' :: rest => .ok (some (readSuffix ⟨0, some 1, true, false, rest⟩))
  | '\x7b' :: rest => readInterval rest
  | _ => .ok none

/-- What a quantifier makes of an expression. -/
def Quantifier.apply (q : Quantifier) (r : Regex) : Except PatternError Regex := do
  if r.isUnrepeatable then throw .unrepeatable
  let looped ← r.repeated q.least q.most q.greedy
  return if q.possessive then .atomic looped else looped

end PatternReader

end Highlighter
