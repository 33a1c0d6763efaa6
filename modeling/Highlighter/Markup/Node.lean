import Highlighter.Text.Line
import Highlighter.Markup.Tag

/-!
# Node trees

A node is a text or an element with children. `Flat` is the other view of a list of nodes: its
whole text, and the tags of its elements at their offsets. `flatten` goes from the first view to the
second; a line-break element becomes a newline there and leaves no tag.
-/

namespace Highlighter

/-- A node of a markup tree. -/
inductive Node where
  | text (content : Text)
  | element (element : Element) (children : List Node)
  deriving Inhabited

/-- An element with its children. -/
structure ElementNode where
  element : Element
  children : List Node := []
  deriving Inhabited

/-- An element with children as a node. -/
def ElementNode.toNode (e : ElementNode) : Node := .element e.element e.children

mutual
/-- The text of a node and all below it. -/
def Node.textContent : Node → Text
  | .text t => t
  | .element _ children => textContents children

/-- The text of a list of nodes and all below them. -/
def Node.textContents : List Node → Text
  | [] => []
  | n :: ns => n.textContent ++ textContents ns
end

/-- A text with tags at its offsets. -/
structure Flat where
  text : Text
  tags : List Tag
  deriving DecidableEq

mutual
/-- Text and tags of a node whose text starts at an offset. -/
def Node.flattenAt (br : LineBreak) (offset : Nat) : Node → Flat
  | .text t => ⟨t, []⟩
  | .element e children =>
    if e.isLineBreak then ⟨br.toText, []⟩
    else
      let inner := flattenListAt br offset children
      ⟨inner.text, .start offset e :: inner.tags ++ [.stop (offset + Text.size inner.text)]⟩

/-- Text and tags of nodes whose text starts at an offset. -/
def Node.flattenListAt (br : LineBreak) (offset : Nat) : List Node → Flat
  | [] => ⟨[], []⟩
  | n :: ns =>
    let first := n.flattenAt br offset
    let rest := flattenListAt br (offset + Text.size first.text) ns
    ⟨first.text ++ rest.text, first.tags ++ rest.tags⟩
end

/-- The whole text of a list of nodes and the tags of its elements. -/
def Node.flatten (br : LineBreak) (nodes : List Node) : Flat := flattenListAt br 0 nodes

end Highlighter
