/-!
# Events

What the stages of highlighting report about themselves while they work, in the order in which it
happens. Events never influence a result.
-/

namespace Highlighter

/-- Something worth reporting. -/
inductive Event where
  /-- A state was entered; `depth` is the height of the context stack afterwards. -/
  | push (state depth : Nat)
  /-- The innermost context was left, if there was one. -/
  | pop (depth : Nat)
  /-- The context stack was cleared. -/
  | popAll
  /-- A text was highlighted. -/
  | complete (tags searches : Nat)
  /-- Two lists of tags were woven together. -/
  | merged (cuts tags : Nat)
  /-- A built-in grammar was compiled. -/
  | builtIn (name : String)
  /-- A grammar file was compiled. -/
  | file (name path : String)
  /-- A directory could not be listed. -/
  | unreadable (directory : String)
  deriving DecidableEq, Repr

end Highlighter
