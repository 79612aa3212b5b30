/-
BlockTransfer.Main — the program on the command line.

The files on the way to the three paths are taken from the disk into a tree,
the program is called with it, and the image goes back to the disk if the call
has changed it. Everything that is decided is decided by `Program.invoke`.
-/
import BlockTransfer.Program.Invocation

namespace BlockTransfer.Main

/-- The number by which the system reports that a file is a directory. -/
def directoryCode : UInt32 := 21

/-- What is on the disk at a path. -/
def entryAt? (path : String) : IO (Option Entry) := do
  try
    return some (.file (← IO.FS.readBinFile path))
  catch error =>
    match error with
    | .inappropriateType _ code _ => return if code = directoryCode then some .directory else none
    | _ => return none

/-- The paths that lead up to a path, itself the last of them. -/
def stages (path : String) : List String :=
  let names := FileTree.names path
  (List.range names.length).map fun index => "/".intercalate (names.take (index + 1))

/-- Takes what is on the way to a path into a tree. -/
def load (tree : FileTree) (path : String) : IO FileTree := do
  let mut tree := tree
  for stage in stages path do
    if let some entry ← entryAt? stage then
      tree := tree.put (FileTree.destination stage) entry
  return tree

/-- The paths that a command line names. -/
def pathsOf (arguments : List String) : List String :=
  match Options.ofArguments arguments with
  | .ok options => [options.transferList, options.data, options.image]
  | .error _ => []

/-- Brings the image back to the disk if a call has changed it. -/
def store (path : String) (before after : FileTree) : IO Unit := do
  if let .ok content := after.read path then
    let unchanged := match before.read path with
      | .ok old => old == content
      | .error _ => false
    unless unchanged do
      IO.FS.writeBinFile path content

/-- Calls the program with the files on the disk. -/
def runWith (arguments : List String) : IO UInt32 := do
  let before ← (pathsOf arguments).foldlM load FileTree.empty
  let filter? ← IO.getEnv "RUST_LOG"
  let outcome := Program.invoke programName arguments filter? before
  if let some image := (pathsOf arguments).getLast? then
    store image before outcome.tree
  (← IO.getStdout).putStr outcome.stdout
  (← IO.getStderr).putStr outcome.stderr
  return UInt32.ofNat outcome.exitCode

end BlockTransfer.Main

/-- The program. -/
def main (arguments : List String) : IO UInt32 :=
  BlockTransfer.Main.runWith arguments
