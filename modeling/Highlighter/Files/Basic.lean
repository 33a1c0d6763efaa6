import Highlighter.Files.Path
import Highlighter.Text.Basic

/-!
# Files

All that the library needs to know about files is what is found at a path. A `FileSystem` answers
that question; reading and listing are defined by it.
-/

namespace Highlighter

/-- Why a file could not be read. -/
inductive FileError where
  | notFound
  | permissionDenied
  | notADirectory
  | isADirectory
  | nameTooLong
  | notText
  | other (message : String)
  deriving DecidableEq, Repr

/-- The wording of an error. -/
def FileError.message : FileError → String
  | notFound => "No such file or directory (os error 2)"
  | permissionDenied => "Permission denied (os error 13)"
  | notADirectory => "Not a directory (os error 20)"
  | isADirectory => "Is a directory (os error 21)"
  | nameTooLong => "File name too long (os error 36)"
  | notText => "stream did not contain valid UTF-8"
  | other message => message

/-- What is found at a path. -/
inductive Entry where
  | file (bytes : ByteArray)
  /-- A file that cannot be read. -/
  | locked (cause : FileError)
  | directory (names : List String)

/-- What is found at each path. -/
abbrev FileSystem := String → Except FileError Entry

/-- The text that bytes encode. -/
def decodeText (bytes : ByteArray) : Except FileError Text :=
  match String.fromUTF8? bytes with
  | some s => .ok s.toList
  | none => .error .notText

namespace FileSystem

/-- The text of a file. -/
def readText (files : FileSystem) (path : String) : Except FileError Text :=
  match files path with
  | .ok (.file bytes) => decodeText bytes
  | .ok (.locked cause) => .error cause
  | .ok (.directory _) => .error .isADirectory
  | .error e => .error e

/-- Whether there is a file at a path. -/
def isFile (files : FileSystem) (path : String) : Bool :=
  match files path with
  | .ok (.file _) => true
  | .ok (.locked _) => true
  | _ => false

/-- The names in a directory. -/
def list? (files : FileSystem) (path : String) : Option (List String) :=
  match files path with
  | .ok (.directory names) => some names
  | _ => none

end FileSystem

end Highlighter
