import Highlighter.Markup.Node

/-!
# HTML output

Text and attribute values are escaped, except for text directly inside an element whose content HTML
does not parse. Void elements have no end tag; below one, tags are dropped and text is kept.
-/

namespace Highlighter.Html

/-- Elements without an end tag. -/
def voidNames : List String :=
  ["area", "base", "basefont", "bgsound", "br", "col", "embed", "frame", "hr", "img", "input",
    "keygen", "link", "meta", "param", "source", "track", "wbr"]

/-- Elements whose text is written as it is. -/
def rawNames : List String :=
  ["script", "style", "xmp", "iframe", "noembed", "noframes", "plaintext", "noscript"]

/-- A character of a text, escaped. -/
def escapeChar (c : Char) : List Char :=
  if c = '&' then "&amp;".toList
  else if c = '<' then "&lt;".toList
  else if c = '>' then "&gt;".toList
  else if c = Char.ofNat 0xA0 then "&nbsp;".toList
  else [c]

/-- A character of an attribute value, escaped. -/
def escapeAttributeChar (c : Char) : List Char :=
  if c = '&' then "&amp;".toList
  else if c = '"' then "&quot;".toList
  else if c = Char.ofNat 0xA0 then "&nbsp;".toList
  else [c]

/-- A text as HTML. -/
def escape (t : Text) : List Char := t.flatMap escapeChar

/-- An attribute value as HTML. -/
def escapeAttribute (t : Text) : List Char := t.flatMap escapeAttributeChar

/-- The name under which an element is written: ASCII letters in lower case. -/
def tagName (e : Element) : Text := e.name.toList.map Char.toLower

/-- One attribute with the space before it. -/
def attributeText (p : String × String) : List Char :=
  ' ' :: p.1.toList ++ "=\"".toList ++ escapeAttribute p.2.toList ++ ['"']

/-- The start tag of an element. -/
def startTag (e : Element) : List Char :=
  '<' :: tagName e ++ e.attributes.entries.flatMap attributeText ++ ['>']

/-- The end tag of an element. -/
def endTag (e : Element) : List Char := "</".toList ++ tagName e ++ ['>']

/-- Whether an element is written without an end tag. -/
def isVoid (e : Element) : Bool := voidNames.any fun n => n.toList == tagName e

/-- Whether the text directly inside an element is written as it is. -/
def isRaw (e : Element) : Bool := rawNames.any fun n => n.toList == tagName e

/-- Where a node is written: directly inside a raw element or not, below a void element or not. -/
structure Place where
  raw : Bool := false
  void : Bool := false
  deriving DecidableEq

/-- The place of the children of an element. -/
def Place.below (p : Place) (e : Element) : Place := ⟨isRaw e, p.void || isVoid e⟩

mutual
/-- A node as HTML. -/
def node (p : Place) : Node → List Char
  | .text t => if p.raw then t else escape t
  | .element e children =>
    let inner := nodes (p.below e) children
    if p.void then inner
    else if isVoid e then startTag e ++ inner
    else startTag e ++ inner ++ endTag e

/-- A list of siblings as HTML. -/
def nodes (p : Place) : List Node → List Char
  | [] => []
  | n :: ns => node p n ++ nodes p ns
end

/-- A list of nodes without a parent, as HTML. -/
def fragment (ns : List Node) : List Char := nodes {} ns

/-- An element with its own tags, as HTML. -/
def outer (e : ElementNode) : List Char := node {} e.toNode

/-- The children of an element without its own tags, as HTML. -/
def inner (e : ElementNode) : List Char := fragment e.children

end Highlighter.Html
