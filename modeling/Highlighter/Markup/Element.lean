import Highlighter.Text.Blank
import Highlighter.Markup.Attributes

/-!
# Elements

An element is a name with attributes and no children of its own. Its classes are the words of its
`class` attribute, and `addClass` extends them by one that is not there yet.
-/

namespace Highlighter

/-- Joins words by single spaces. -/
def Text.unwords (ws : List Text) : Text := [' '].intercalate ws

/-- A markup element: its name and its attributes. -/
structure Element where
  name : String
  attributes : Attributes := .empty
  deriving DecidableEq, Inhabited

namespace Element

/-- Sets an attribute, over any earlier value. -/
def set (e : Element) (name value : String) : Element :=
  { e with attributes := e.attributes.set name value }

/-- The value of an attribute. -/
def get? (e : Element) (name : String) : Option String := e.attributes.get? name

/-- A `span` with one class attribute. -/
def span (style : String) : Element := (Element.mk "span" .empty).set "class" style

/-- An `a` with one class attribute. -/
def anchor (style : String) : Element := (Element.mk "a" .empty).set "class" style

/-- The element that stands for a line break. -/
def lineBreak : Element := ⟨"br", .empty⟩

/-- The words of the `class` attribute. -/
def classes (e : Element) : List Text := Text.words ((e.get? "class").getD "").toList

/-- Whether one of the classes equals `c`, the case of ASCII letters ignored. -/
def hasClass (e : Element) (c : String) : Bool :=
  e.classes.any fun w => Text.eqIgnoreCase w c.toList

/-- Appends a class, unless it is empty or already there in some case. -/
def addClass (e : Element) (c : String) : Element :=
  if c.isEmpty || e.hasClass c then e
  else e.set "class" (String.ofList (Text.unwords (e.classes ++ [c.toList])))

/-- Line breaks are the elements named `br` in any case. -/
def isLineBreak (e : Element) : Bool := Text.eqIgnoreCase e.name.toList "br".toList

end Element

end Highlighter
