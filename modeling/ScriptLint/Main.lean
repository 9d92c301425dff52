import ScriptLint.Command.Footprint

/-!
# The program

The program reads the files that a call looks at into a workspace, runs the call on it, and prints
and writes what comes out.
-/

namespace ScriptLint

/-- What is at a path on disk.  Links to directories are not followed. -/
partial def snapshot (path : String) : IO Node := do
  let place := (← IO.currentDir) / path
  let isLink := (← place.symlinkMetadata).type == .symlink
  if ← place.isDir then
    if isLink then
      return .directory []
    let mut entries := []
    for entry in ← place.readDir do
      let node ← snapshot (Path.join path entry.fileName)
      entries := Node.putEntry entry.fileName node entries
    return .directory entries
  else
    return .file (String.fromUTF8? (← IO.FS.readBinFile place))

/-- The workspace that paths are read into. -/
def readWorkspace (paths : List String) : IO Workspace := do
  let directory := (← IO.currentDir).toString
  let mut workspace := Workspace.put { directory } "." (.directory [])
  for path in paths do
    if ← ((← IO.currentDir) / path).pathExists then
      workspace := workspace.put path (← snapshot path)
  return workspace

/-- The environment of the program. -/
def readEnvironment : IO Command.Environment := do
  return {
    settingsPath := ← IO.getEnv "PAPYRUS_LINT_CONFIG"
    settingsDirectory := ← IO.getEnv "PAPYRUS_LINT_CONFIG_DIR"
    home := ← IO.getEnv "HOME"
    logFilter := ← IO.getEnv "RUST_LOG" }

end ScriptLint

open ScriptLint in
/-- Run the program. -/
def main (arguments : List String) : IO UInt32 := do
  let environment ← readEnvironment
  let paths :=
    match Command.readArguments environment.settingsPath arguments with
    | .ok invocation => Command.footprint environment invocation
    | .error _ => []
  let workspace ← readWorkspace paths
  let (result, log) := Command.run environment workspace arguments
  for (path, text) in result.writes do
    IO.FS.writeFile path text
  for line in log do
    IO.eprintln line
  IO.print result.output
  IO.eprint result.errors
  return result.exitCode.toUInt32
