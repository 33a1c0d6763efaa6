import Highlighter.Yaml.Token

/-!
# Trees

The nodes of a document. References are resolved while the tokens are read: a reference becomes
the node that it names. The name is known from the start of its node on, so that a node may refer
to itself; such a reference is kept as `unfinished`, and has no value.
-/

namespace Highlighter.Yaml

/-- A node of a document. -/
inductive Tree where
  | scalar (tag : Option String) (style : ScalarStyle) (text : String)
  | sequence (tag : Option String) (items : List Tree)
  | mapping (tag : Option String) (entries : List (Tree × Tree))
  /-- A reference to a node from inside of it. -/
  | unfinished
  deriving Inhabited

/-- The scalar that is not written at all. -/
def Tree.absent : Tree := .scalar none .plain ""

/-- The state of the reading of nodes. -/
structure Builder where
  /-- The tokens to come. -/
  tokens : List Token
  /-- What the handles of tags stand for. -/
  handles : List (List Char × List Char)
  /-- The names given to nodes, last first, with the number of the node. -/
  anchors : List (List Char × Nat)
  /-- The named nodes that are read to their end. -/
  finished : List (Nat × Tree)

/-- A step of the reading of nodes. -/
abbrev Build := StateT Builder (Except YamlError)

namespace Builder

/-- The next token. -/
def peek : Build (Option Token) := do return (← get).tokens.head?

/-- Passes over a token. -/
def skip : Build Unit := modify fun b => { b with tokens := b.tokens.tail }

/-- Whether the next token satisfies a test. -/
def next (p : Token → Bool) : Build Bool := do return (← peek).any p

/-- Passes over the next token if it satisfies a test. -/
def accept (p : Token → Bool) : Build Bool := do
  if ← next p then
    skip
    return true
  else return false

/-- A name for the node that starts here, with its number. -/
def name (anchor : List Char) : Build Nat := do
  let b ← get
  let n := b.anchors.length
  set { b with anchors := (anchor, n) :: b.anchors }
  return n

/-- Ends a node that has a number. -/
def finish (n : Option Nat) (t : Tree) : Build Tree := do
  match n with
  | some n => modify fun b => { b with finished := (n, t) :: b.finished }
  | none => pure ()
  return t

/-- The node that a reference names. -/
def lookUp (anchor : List Char) : Build Tree := do
  let b ← get
  match b.anchors.lookup anchor with
  | some n => return (b.finished.lookup n).getD .unfinished
  | none => throw (.undefinedAnchor (String.ofList anchor))

/-- The full text of a tag. -/
def expand (t : TagName) : Build String := do
  if t.handle.isEmpty then return String.ofList t.suffix
  match (← get).handles.lookup t.handle with
  | some expansion => return String.ofList (expansion ++ t.suffix)
  | none => throw (.undefinedHandle (String.ofList t.handle))

/-- The name and the tag in front of a node, in either order. -/
def properties : Build (Option Nat × Option String) := do
  match ← peek with
  | some (.anchor a) =>
    skip
    match ← peek with
    | some (.tag t) =>
      skip
      let tag ← expand t
      return (some (← name a), some tag)
    | _ => return (some (← name a), none)
  | some (.tag t) =>
    skip
    let tag ← expand t
    match ← peek with
    | some (.anchor a) =>
      skip
      return (some (← name a), some tag)
    | _ => return (none, some tag)
  | _ => return (none, none)

/-- Where a node may stand. -/
inductive Setting where
  /-- In a flow collection. -/
  | flow
  /-- In a block. -/
  | block
  /-- In a block mapping, where a sequence may stand without indentation. -/
  | indentless
  deriving DecidableEq

/-- Whether a token follows an entry of a block mapping that is not written. -/
def endsBlockEntry : Token → Bool
  | .key | .value | .blockEnd => true
  | _ => false

/-- Whether a token follows an entry of a block sequence that is not written. -/
def endsBlockItem : Token → Bool
  | .blockEntry | .blockEnd => true
  | _ => false

/-- Whether a token follows an item that is not written, of a sequence without indentation. -/
def endsIndentlessItem : Token → Bool
  | .blockEntry | .key | .value | .blockEnd => true
  | _ => false

/-- Whether a token is a comma or closes a flow sequence. -/
def endsFlowItem : Token → Bool
  | .flowEntry | .flowSequenceEnd => true
  | _ => false

/-- Whether a token is a comma or closes a flow mapping. -/
def endsFlowEntry : Token → Bool
  | .flowEntry | .flowMappingEnd => true
  | _ => false

/-- Whether a token is the one in front of a value. -/
def isValue : Token → Bool
  | .value => true
  | _ => false

/-- Whether a token is the one in front of a key. -/
def isKey : Token → Bool
  | .key => true
  | _ => false

/-- Whether a token is the dash of an item. -/
def isBlockEntry : Token → Bool
  | .blockEntry => true
  | _ => false

/-- Whether a token closes a block. -/
def isBlockEnd : Token → Bool
  | .blockEnd => true
  | _ => false

/-- Whether a token is a comma. -/
def isFlowEntry : Token → Bool
  | .flowEntry => true
  | _ => false

/-- Whether a token closes a flow sequence. -/
def isFlowSequenceEnd : Token → Bool
  | .flowSequenceEnd => true
  | _ => false

/-- Whether a token closes a flow mapping. -/
def isFlowMappingEnd : Token → Bool
  | .flowMappingEnd => true
  | _ => false

mutual
/-- Reads a node. -/
def node : Nat → Setting → Build Tree
  | 0, _ => throw .tooLong
  | fuel + 1, setting => do
    if let some (.reference a) ← peek then
      skip
      return ← lookUp a
    let (n, tag) ← properties
    match ← peek with
    | some .blockEntry =>
      if setting = .indentless then finish n (.sequence tag (← indentlessItems fuel))
      else missing n tag
    | some (.scalar style text) =>
      skip
      finish n (.scalar tag style (String.ofList text))
    | some .flowSequenceStart =>
      skip
      finish n (.sequence tag (← flowItems fuel true))
    | some .flowMappingStart =>
      skip
      finish n (.mapping tag (← flowEntries fuel true))
    | some .blockSequenceStart =>
      if setting = .flow then missing n tag
      else
        skip
        finish n (.sequence tag (← blockItems fuel))
    | some .blockMappingStart =>
      if setting = .flow then missing n tag
      else
        skip
        finish n (.mapping tag (← blockEntries fuel))
    | _ => missing n tag
where
  /-- A node that has properties and nothing else. -/
  missing (n : Option Nat) (tag : Option String) : Build Tree :=
    if n.isSome || tag.isSome then finish n (.scalar tag .plain "") else throw .unexpectedToken

/-- Reads a node, unless the next token shows that it is not written. -/
def nodeUnless : Nat → Setting → (Token → Bool) → Build Tree
  | 0, _, _ => throw .tooLong
  | fuel + 1, setting, absent => do
    if ← next absent then return .absent else node fuel setting

/-- Reads the items of a block sequence. -/
def blockItems : Nat → Build (List Tree)
  | 0 => throw .tooLong
  | fuel + 1 => do
    if ← accept isBlockEntry then
      let item ← nodeUnless fuel .block endsBlockItem
      return item :: (← blockItems fuel)
    else if ← accept isBlockEnd then return []
    else throw .unexpectedToken

/-- Reads the items of a block sequence without indentation. -/
def indentlessItems : Nat → Build (List Tree)
  | 0 => throw .tooLong
  | fuel + 1 => do
    if ← accept isBlockEntry then
      let item ← nodeUnless fuel .block endsIndentlessItem
      return item :: (← indentlessItems fuel)
    else return []

/-- Reads the entries of a block mapping. -/
def blockEntries : Nat → Build (List (Tree × Tree))
  | 0 => throw .tooLong
  | fuel + 1 => do
    if ← accept isKey then
      let key ← nodeUnless fuel .indentless endsBlockEntry
      let value ← if ← accept isValue then nodeUnless fuel .indentless endsBlockEntry
        else pure .absent
      return (key, value) :: (← blockEntries fuel)
    else if ← accept isBlockEnd then return []
    else throw .unexpectedToken

/-- Reads the items of a flow sequence. An item with a key is a mapping of one entry; where that
key is not written, the token that shows it is passed over. -/
def flowItems : Nat → Bool → Build (List Tree)
  | 0, _ => throw .tooLong
  | fuel + 1, first => do
    if ← accept isFlowSequenceEnd then return []
    unless first do
      unless ← accept isFlowEntry do throw .unexpectedToken
    if ← accept isKey then
      let key ← if ← accept (fun t => isValue t || endsFlowItem t) then pure .absent
        else node fuel .flow
      let value ← if ← accept isValue then nodeUnless fuel .flow endsFlowItem else pure .absent
      return .mapping none [(key, value)] :: (← flowItems fuel false)
    else if ← accept isFlowSequenceEnd then return []
    else
      let item ← node fuel .flow
      return item :: (← flowItems fuel false)

/-- Reads the entries of a flow mapping. -/
def flowEntries : Nat → Bool → Build (List (Tree × Tree))
  | 0, _ => throw .tooLong
  | fuel + 1, first => do
    if ← accept isFlowMappingEnd then return []
    unless first do
      unless ← accept isFlowEntry do throw .unexpectedToken
    if ← accept isKey then
      let key ← nodeUnless fuel .flow fun t => isValue t || endsFlowEntry t
      let value ← if ← accept isValue then nodeUnless fuel .flow endsFlowEntry else pure .absent
      return (key, value) :: (← flowEntries fuel false)
    else if ← accept isFlowMappingEnd then return []
    else
      let key ← node fuel .flow
      return (key, .absent) :: (← flowEntries fuel false)
end

/-- Reads the directives in front of a document: at most one version, which is 1.1 or 1.2, and the
handles, each at most once. -/
def directives : Nat → Bool → Build Unit
  | 0, _ => throw .tooLong
  | fuel + 1, versioned => do
    match ← peek with
    | some (.version major minor) =>
      if versioned || major ≠ 1 || (minor ≠ 1 && minor ≠ 2) then throw .badDirective
      skip
      directives fuel true
    | some (.handle handle expansion) =>
      let b ← get
      if (b.handles.lookup handle).isSome then throw .badDirective
      set { b with handles := (handle, expansion) :: b.handles }
      skip
      directives fuel versioned
    | _ => return

/-- What the handles of tags stand for unless a directive says otherwise. -/
def standardHandles : List (List Char × List Char) :=
  [(['!'], ['!']), (['!', '!'], "tag:yaml.org,2002:".toList)]

/-- Whether a token may come in front of a document or behind it, but not inside of it. -/
def isOutside : Token → Bool
  | .version _ _ | .handle _ _ | .documentStart | .documentEnd => true
  | _ => false

/-- Reads the only document of a stream. There is none if there are no tokens. -/
def document (fuel : Nat) : Build (Option Tree) := do
  let outside := match ← peek with
    | some .documentEnd => false
    | some t => isOutside t
    | none => false
  if (← peek).isNone then return none
  if outside then directives fuel false
  modify fun b => { b with handles := b.handles ++ standardHandles }
  if outside then
    match ← peek with
    | some .documentStart => skip
    | _ => throw .badDirective
  let tree ← match ← peek with
    | some t => if outside && isOutside t then pure .absent else node fuel .block
    | none => pure .absent
  let rest := (← get).tokens.dropWhile fun
    | .documentEnd => true
    | _ => false
  if rest.isEmpty then return some tree else throw .moreThanOneDocument

end Builder

/-- Reads a text of one document, or none. -/
def read (t : List Char) : Except YamlError (Option Tree) := do
  let ts ← tokens t
  (Builder.document (2 * ts.length + 4)).run' ⟨ts, [], [], []⟩

end Highlighter.Yaml
