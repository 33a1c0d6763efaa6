import Highlighter.Text.Basic

/-!
# Link destinations

The text under a link style is itself the destination, up to one pair of angle brackets around it
and a missing `mailto:` before an address.
-/

namespace Highlighter.Link

/-- The style whose runs become links. -/
def style : String := "sh_url"

/-- The scheme of mail addresses. -/
def mailto : Text := "mailto:".toList

/-- Takes off one pair of angle brackets around the whole text. -/
def unbracket (t : Text) : Text :=
  match t with
  | '<' :: rest => if rest.getLast? = some '>' then rest.dropLast else t
  | _ => t

/-- An address has an at sign and does not name the mail scheme yet. -/
def isAddress (t : Text) : Bool := t.contains '@' && !mailto.isPrefixOf t

/-- The destination that a text under the link style names. -/
def destination (t : Text) : Text :=
  let url := unbracket t
  if isAddress url then mailto ++ url else url

end Highlighter.Link
