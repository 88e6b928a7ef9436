import LinkedSchema.Cache.Documents
import LinkedSchema.Command.Outline
import LinkedSchema.FileTree

/-!
# Finding files

`find` lists the files at and under some paths of a workspace that have one of the extensions looked
for.  A `CommandFault` is a fault that is not one of the schema, and `CommandFault.lines` shows it.
-/

namespace LinkedSchema.Command

/-! ### Finding files -/

/-- A file that was found: the path from its root, and its bytes. -/
structure FoundFile where
  path : String
  bytes : List UInt8
deriving DecidableEq, Inhabited

/-- A path that leads nowhere. -/
structure FindFault where
  path : String
  fault : PathFault
deriving DecidableEq, Inhabited

/-- What was found at and under some paths: files, the number of files passed over, and the
paths that lead nowhere. -/
structure Found where
  files : List FoundFile
  skipped : Nat
  faults : List FindFault
deriving DecidableEq, Inhabited

/-- What follows the last dot of a name, unless the name begins with that dot. -/
def extension? (name : String) : Option String :=
  match Document.Literal.splitLast? (· = '.') name.toList with
  | none => none
  | some (before, after) => if before.isEmpty then none else some (String.ofList after)

/-- Whether a file is one of those looked for, by the extension of its name; dots before an
extension that is looked for do not count. -/
def isWanted (extensions : List String) (names : List String) : Bool :=
  match names.getLast?.bind extension? with
  | none => false
  | some extension =>
    (extensions.map fun wanted => wanted.toList.dropWhile (· = '.')).contains extension.toList

/-- A file that was found, by the names that lead to it. -/
def FoundFile.ofNames (file : List String × List UInt8) : FoundFile :=
  ⟨Workspace.pathText file.1, file.2⟩

/-- What is found at and under a path. -/
def findAt (w : Workspace) (extensions : List String) (path : String) : Found :=
  match w.resolve path with
  | .error fault => ⟨[], 0, [⟨path, fault⟩]⟩
  | .ok [] => ⟨[], 0, [⟨path, .missing⟩]⟩
  | .ok ((name, node) :: above) =>
    let files := node.files (Trail.names ((name, node) :: above))
    let wanted := files.filter fun file => isWanted extensions file.1
    ⟨wanted.map .ofNames, files.length - wanted.length, []⟩

/-- What is found at and under one path after another. -/
def findAll (w : Workspace) (extensions : List String) (paths : List String) : Found :=
  let found := paths.map (findAt w extensions)
  { files := found.flatMap Found.files
    skipped := found.foldr (fun part count => part.skipped + count) 0
    faults := found.flatMap Found.faults }

/-- The file at a path. -/
def fileAt? (w : Workspace) (path : String) : Option FoundFile :=
  match w.resolve path with
  | .ok ((name, .file bytes) :: above) =>
    some (.ofNames (Trail.names ((name, .file bytes) :: above), bytes))
  | _ => none

/-- What is found at and under paths; a single path of a file is taken whatever its extension
is. -/
def find (w : Workspace) (extensions : List String) (paths : List String) : Found :=
  let found := findAll w extensions paths
  match found.files, paths with
  | [], [path] =>
    match fileAt? w path with
    | some file => { found with files := [file], skipped := found.skipped - 1 }
    | none => found
  | _, _ => found

/-! ### Faults -/

/-- A fault that is not one of the schema. -/
inductive CommandFault where
  | find (fault : FindFault)
  | cache (fault : CacheFault)
  /-- A document cannot be read. -/
  | unreadable (path reason : String)
  | document (path : String) (fault : DocumentFault)
deriving DecidableEq, Inhabited

/-- The lines that describe why a path leads nowhere. -/
def PathFault.lines (fault : PathFault) : Outline.Lines :=
  let (code, kind, message) :=
    match fault with
    | .missing => ("2", "NotFound", "No such file or directory")
    | .notDirectory => ("20", "NotADirectory", "Not a directory")
    | .tooLong => ("36", "InvalidFilename", "File name too long")
  Outline.record "Os" [
    ("code", [code]), ("kind", [kind]), ("message", [Text.quote message])]

/-- The lines that describe a fault. -/
def CommandFault.lines : CommandFault → Outline.Lines
  | find fault =>
    let path := Outline.nest "Some(" [[Text.quote fault.path]] ")"
    let inner := Outline.record "Io" [("path", path), ("err", PathFault.lines fault.fault)]
    Outline.record "Error" [("depth", ["0"]), ("inner", inner)]
  | cache .zeroCapacity => ["ZeroCapacity"]
  | unreadable path reason => [Text.quote ("Failed to read " ++ path ++ ": " ++ reason)]
  | document path fault => [Text.quote (path ++ ": " ++ fault.message)]

end LinkedSchema.Command
