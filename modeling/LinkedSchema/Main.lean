import LinkedSchema.Command.Validate

/-!
# The program

The program reads from disk the files and directories that its arguments name, does what they
ask for, and prints the report.
-/

namespace LinkedSchema.Main

/-- Reads a file, or a directory with all that is in it. -/
partial def readNode (path : String) : IO (Option FileNode) := do
  try
    let canonical ← IO.FS.realPath path
    if ← canonical.isDir then
      let mut entries := []
      for entry in ← canonical.readDir do
        if let some node ← readNode entry.path.toString then
          entries := entries ++ [(entry.fileName, node)]
      return some (.directory entries)
    else
      return some (.file (← IO.FS.readBinFile canonical).toList)
  catch _ => return none

/-- The prefixes of a list, the shortest first. -/
def prefixes (names : List String) : List (List String) :=
  (List.range names.length).map fun n => names.take (n + 1)

/-- Adds to a tree what stands on disk at a path, and the directories on the way to it. -/
def addPath (home : List String) (tree : FileNode) (path : String) : IO FileNode := do
  let names := path.splitOn "/"
  let absolute := names.head? = some ""
  let mut tree := tree
  for part in prefixes names do
    try
      let canonical ← IO.FS.realPath (Workspace.pathText part)
      if ← canonical.isDir then
        tree := tree.put (canonical.toString.splitOn "/") (.directory [])
    catch _ => pure ()
  match ← readNode path with
  | some node =>
    let lexical := if absolute then names else home ++ names
    let target ←
      try pure ((← IO.FS.realPath path).toString.splitOn "/") catch _ => pure lexical
    return tree.put target node
  | none => return tree

/-- The workspace of the paths that a request names. -/
def workspace (paths : List String) : IO Workspace := do
  let home := (← IO.currentDir).toString.splitOn "/"
  let mut tree := FileNode.directory []
  tree := tree.put home (.directory [])
  for path in paths do
    tree ← addPath home tree path
  return ⟨tree.entries, home⟩

/-- The paths that arguments name. -/
def namedPaths (arguments : List String) : List String :=
  match Command.Request.parse? arguments with
  | some (.validate settings) => settings.paths ++ settings.documents
  | _ => []

end LinkedSchema.Main

/-- Runs the program. -/
def main (arguments : List String) : IO UInt32 := do
  let workspace ← LinkedSchema.Main.workspace (LinkedSchema.Main.namedPaths arguments)
  let report := LinkedSchema.Command.run workspace arguments
  if report.output ≠ "" then IO.println report.output
  if report.errors ≠ "" then IO.eprintln report.errors
  return UInt32.ofNat report.code
