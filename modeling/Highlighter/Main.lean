import Highlighter.CommandLine.Command

/-!
# The program

Reads the files that the arguments name, answers the request and prints the answer.
-/

namespace Highlighter

/-- What went wrong with a file. -/
def FileError.ofIo : IO.Error → FileError
  | .noFileOrDirectory _ _ _ => .notFound
  | .permissionDenied _ _ _ => .permissionDenied
  | e => .other (toString e)

/-- Whether there is a file at a path, which perhaps cannot be read. -/
def isThere (path : String) : IO Bool := do
  try return (← ((← IO.currentDir) / path).metadata).type == .file
  catch _ => return false

/-- What is found at a path. -/
def observe (path : String) : IO (Except FileError Entry) := do
  try
    let entries ← ((← IO.currentDir) / path).readDir
    return .ok (.directory (entries.toList.map (·.fileName)))
  catch _ =>
    try return .ok (.file (← IO.FS.readBinFile path))
    catch e => return if ← isThere path then .ok (.locked (.ofIo e)) else .error (.ofIo e)

/-- What is found at some paths. -/
def observeAll (paths : List String) : IO FileSystem := do
  let seen ← paths.mapM fun path => do return (path, ← observe path)
  return fun path => (seen.lookup path).getD (.error .notFound)

/-- All that is left on a stream, `bytes` being read already. -/
partial def readAll (stream : IO.FS.Stream) (bytes : ByteArray) : IO ByteArray := do
  let chunk ← stream.read 65536
  if chunk.isEmpty then return bytes else readAll stream (bytes ++ chunk)

/-- Prints an output, and gives its code back. -/
def Output.print (o : Output) : IO UInt32 := do
  (← IO.getStdout).putStr o.stdout
  (← IO.getStderr).putStr o.stderr
  return o.code.toUInt32

end Highlighter

open Highlighter in
/-- The program. -/
def main (args : List String) : IO UInt32 := do
  match Arguments.parse args with
  | .error e => e.answer.print
  | .ok request =>
    let files ← observeAll request.paths
    let stdin ←
      if request.needsInput files then readAll (← IO.getStdin) ByteArray.empty
      else pure ByteArray.empty
    (request.answer files stdin).print
