/-!
# Plain data

What a document says once its notation is forgotten. Numbers keep what their readers need: whether
they were written without a sign, with a minus, or as something that is no integer of 64 bits.
-/

namespace Highlighter

/-- A value of a document. -/
inductive Datum where
  | null
  | bool (b : Bool)
  /-- An integer without a minus sign, below `2 ^ 64`. -/
  | natural (n : Nat)
  /-- The integer `-n`, written with a minus sign, at least `-2 ^ 63`. -/
  | negative (n : Nat)
  /-- Any other number. -/
  | real
  | string (s : String)
  | sequence (items : List Datum)
  | mapping (entries : List (Datum × Datum))
  deriving Inhabited

namespace Datum

/-- One more than the largest unsigned integer of 64 bits. -/
def unsignedLimit : Nat := Nat.pow 2 64

/-- One more than the largest signed integer of 64 bits, and minus the smallest. -/
def signedLimit : Nat := Nat.pow 2 63

/-- The integer of 64 bits that digits with or without a minus sign stand for. -/
def ofInteger (minus : Bool) (n : Nat) : Datum :=
  if minus then if n ≤ signedLimit then negative n else real
  else if n < unsignedLimit then natural n else real

/-- A text. -/
def string? : Datum → Option String
  | string s => some s
  | _ => none

/-- A truth value. -/
def bool? : Datum → Option Bool
  | bool b => some b
  | _ => none

/-- A signed integer of 64 bits. -/
def signed? : Datum → Option Int
  | natural n => if n < signedLimit then some n else none
  | negative n => some (-n)
  | _ => none

/-- An unsigned integer of 64 bits. -/
def unsigned? : Datum → Option Nat
  | natural n => some n
  | negative 0 => some 0
  | _ => none

/-- A value that may be left open by a null. -/
def optional? {α : Type} (read : Datum → Option α) : Datum → Option (Option α)
  | null => some none
  | d => some <$> read d

/-- A list of values. -/
def list? {α : Type} (read : Datum → Option α) : Datum → Option (List α)
  | sequence items => items.mapM read
  | _ => none

end Datum

end Highlighter
