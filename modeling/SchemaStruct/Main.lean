import SchemaStruct.CommandLine.Run

/-!
# The Program

The command line against the real file system: what stands at the places that the words name is
read beforehand, and the run itself is `CommandLine.run`. Nothing is fetched from the web.
-/

namespace SchemaStruct.CommandLine

/-- What stands at a path of the file system, if it can be read. -/
def probe (path : String) : IO (List (Path × FileEntry)) := do
  try
    let place ← IO.FS.realPath path
    if ← place.isDir then return [(Path.ofString path, .directory)]
    let content ← IO.FS.readBinFile path
    return [(Path.ofString path, .bytes content)]
  catch _ => return []

/-- What stands at the places that some words name. -/
def worldOf (words : List String) : IO World := do
  match Arguments.ofWords words with
  | .error _ => return {}
  | .ok a =>
    let found ← (a.schema.toList ++ a.configFile.toList).mapM probe
    return { files := { landmarks := found.flatten } }

end SchemaStruct.CommandLine

open SchemaStruct.CommandLine in
/-- Runs the command line. -/
def main (words : List String) : IO UInt32 := do
  let ending := run (← worldOf words) words
  IO.print ending.printed
  IO.eprint ending.remark
  return ending.exitCode.toUInt32
