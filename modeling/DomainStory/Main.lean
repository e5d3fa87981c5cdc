import DomainStory.Command.Run

/-!
# The program
-/

namespace DomainStory.Command

partial def readAll (stream : IO.FS.Stream) (bytes : ByteArray) : IO ByteArray := do
  let chunk ← stream.read 65536
  if chunk.isEmpty then return bytes else readAll stream (bytes ++ chunk)

def failureOf : IO.Error → ReadFailure
  | .noFileOrDirectory .. => .notFound
  | .inappropriateType .. => .isDirectory
  | error => .other (toString error)

def readSource (source : Source) : IO (Except ReadFailure String) := do
  try
    let bytes ← match source with
      | .standardInput => readAll (← IO.getStdin) ByteArray.empty
      | .file path => IO.FS.readBinFile path
    return decodeText bytes
  catch error => return .error (failureOf error)

end DomainStory.Command

/-- Runs the program on its words and leaves what it answers. -/
def main (words : List String) : IO UInt32 := do
  let outcome ← DomainStory.Command.run DomainStory.Command.readSource words
  IO.print outcome.stdout
  IO.eprint outcome.stderr
  return outcome.status.toUInt32
