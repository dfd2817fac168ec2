import SatFrontend.CommandLine.Program
import SatFrontend.Shell.Host

open SatFrontend SatFrontend.CommandLine

-- Everything that is left of a stream.
partial def readStream (stream : IO.FS.Stream) (before : ByteArray) : IO ByteArray := do
  let bytes ← stream.read 65536
  if bytes.isEmpty then return before else readStream stream (before ++ bytes)

-- Add what is at a path, if something is there. What cannot be read as a file is a directory.
def addEntry (files : Files) (path : String) : IO Files := do
  try
    let bytes ← IO.FS.readBinFile path
    return files.put path (.regular bytes.toList)
  catch
    | .noFileOrDirectory .. => return files
    | _ => return files.put path .directory

-- The files that are named, and standard input if the formula comes from there.
def readWorld (invocation : Invocation) : IO World := do
  let paths := invocation.input.toList ++ invocation.config.toList
  let files ← paths.foldlM addEntry Files.standard
  let input ←
    if invocation.input.isSome then pure ByteArray.empty
    else readStream (← IO.getStdin) .empty
  let input := input.toList
  return { host := Shell.host { files with input }, input }

def main (args : List String) : IO UInt32 := do
  let world ← match Invocation.ofArguments args with
    | .ok invocation => readWorld invocation
    | .error _ => pure { host := Shell.host .standard, input := [] }
  let report := program args world
  IO.print report.text
  return report.code.toUInt32
