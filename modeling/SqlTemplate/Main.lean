import SqlTemplate.Listing

/-!
# The command line

Reads a document from the standard input and lists the query in it.
-/

namespace SqlTemplate

partial def readAll (input : IO.FS.Stream) (sofar : ByteArray) : IO ByteArray := do
  let bytes ← input.read 65536
  if bytes.isEmpty then return sofar
  readAll input (sofar ++ bytes)

end SqlTemplate

def main : IO UInt32 := do
  let bytes ← SqlTemplate.readAll (← IO.getStdin) ByteArray.empty
  let listing := SqlTemplate.Listing.ofBytes SqlTemplate.Settings.decode? bytes
  if let some warnings := listing.stderr then
    (← IO.getStderr).putStr warnings
  (← IO.getStdout).putStr listing.stdout
  return listing.exitCode
