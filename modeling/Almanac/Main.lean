import Almanac.CommandLine

/-!
# The program

Reads the files and prints the outcome; what is read and printed is decided by the
command.
-/

namespace Almanac

/-- The content of a file. -/
def readContent (path : String) : IO (Except PathError (List UInt8)) := do
  try
    return .ok (← IO.FS.readBinFile path).toList
  catch e =>
    match e with
    | .noFileOrDirectory .. => return .error .missing
    | .inappropriateType .. => return .error .notDirectory
    | _ => return .error .isDirectory

/-- All that can be read from a stream. -/
partial def readAll (stream : IO.FS.Stream) (content : ByteArray) : IO ByteArray := do
  let chunk ← stream.read 65536
  if chunk.isEmpty then return content else readAll stream (content ++ chunk)

/-- Prints an outcome and returns its status. -/
def Outcome.print (o : Outcome) : IO UInt32 := do
  IO.eprint o.messages
  IO.print o.output
  return o.status.toUInt32

end Almanac

/-- Carries out the command that the arguments give. -/
def main (arguments : List String) : IO UInt32 := do
  match Almanac.Command.ofArguments? arguments with
  | none => Almanac.Outcome.usage.print
  | some command =>
    let content ← Almanac.readContent command.path
    let page ← Almanac.readAll (← IO.getStdin) .empty
    (command.run content page.toList).print
