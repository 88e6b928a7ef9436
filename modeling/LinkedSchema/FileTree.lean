import LinkedSchema.OrderedMap
import LinkedSchema.Text.Utf8
import LinkedSchema.Schema.Loader

/-!
# File trees

A `Workspace` is a tree of files with a working directory in it.  A path is resolved from the
working directory, or from a root if it begins with a slash, and names the file by the names
from a root down to it.
-/

namespace LinkedSchema

/-- A file with its bytes, or a directory with its entries. -/
inductive FileNode where
  | file (bytes : List UInt8)
  | directory (entries : List (String × FileNode))
deriving Inhabited

namespace FileNode

/-- The entries of a directory. -/
def entries : FileNode → List (String × FileNode)
  | file _ => []
  | directory entries => entries

/-- The tree with `content` at the end of a path of names; directories on the way are made if
they are missing, and a directory that is there already is kept for an empty one. -/
def put (node : FileNode) (path : List String) (content : FileNode) : FileNode :=
  match path with
  | [] =>
    match content, node with
    | directory [], directory entries => directory entries
    | _, _ => content
  | name :: rest =>
    let inner := (OrderedMap.lookup name node.entries).getD (directory [])
    directory (OrderedMap.put name (inner.put rest content) node.entries)

mutual

/-- The files at and under a node, each with the names that lead to it. -/
def files (path : List String) : FileNode → List (List String × List UInt8)
  | file bytes => [(path, bytes)]
  | directory entries => entryFiles path entries

/-- The files under the entries of a directory. -/
def entryFiles (path : List String) : List (String × FileNode) →
    List (List String × List UInt8)
  | [] => []
  | (name, node) :: rest => node.files (path ++ [name]) ++ entryFiles path rest

end

end FileNode

/-- Trees of files by the names of their roots, of which the empty name stands before the first
slash of an absolute path, and the names that lead to the working directory. -/
structure Workspace where
  roots : List (String × FileNode)
  home : List String
deriving Inhabited

/-- Why a path leads nowhere. -/
inductive PathFault where
  /-- A name on the path does not exist. -/
  | missing
  /-- A file stands where the path goes on as through a directory. -/
  | notDirectory
  /-- The path, or a name on it that is looked for in a directory, has too many bytes. -/
  | tooLong
deriving DecidableEq, Inhabited

/-- The largest number of bytes of a name in a directory. -/
def longestName : Nat := 255

/-- The largest number of bytes of a path. -/
def longestPath : Nat := 4095

/-- The nodes from the end of a path up to its root, with their names. -/
abbrev Trail := List (String × FileNode)

namespace Trail

/-- The names that lead to the end of a trail. -/
def names (t : Trail) : List String := (t.map Prod.fst).reverse

/-- The trail that a step by one name leads to: a dot or nothing stays, and two dots go up,
though not above the root. -/
def step (t : Trail) (name : String) : Except PathFault Trail :=
  match t with
  | [] => .error .missing
  | (_, .file _) :: _ => .error .notDirectory
  | (_, .directory entries) :: above =>
    if name = "" ∨ name = "." then .ok t
    else if name = ".." then .ok (if above.isEmpty then t else above)
    else if longestName < name.utf8ByteSize then .error .tooLong
    else
      match OrderedMap.lookup name entries with
      | some node => .ok ((name, node) :: t)
      | none => .error .missing

/-- The trail that steps by several names lead to. -/
def walk (t : Trail) (names : List String) : Except PathFault Trail := names.foldlM step t

end Trail

namespace Workspace

/-- The trail that consists of a root. -/
def rootTrail (w : Workspace) (name : String) : Except PathFault Trail :=
  match OrderedMap.lookup name w.roots with
  | some node => .ok [(name, node)]
  | none => .error .missing

/-- The trail down names of which the first is that of a root. -/
def descend (w : Workspace) : List String → Except PathFault Trail
  | [] => .error .missing
  | root :: rest => do (← w.rootTrail root).walk rest

/-- The trail that a path leads to. -/
def resolve (w : Workspace) (path : String) : Except PathFault Trail :=
  if path = "" then .error .missing
  else if longestPath < path.utf8ByteSize then .error .tooLong
  else
    let names := path.splitOn "/"
    if names.head? = some "" then w.descend names
    else do (← w.descend w.home).walk names

/-- The text of the names that lead from a root to a file. -/
def pathText (names : List String) : String := "/".intercalate names

/-- The text of the file at a path. -/
def read (w : Workspace) (path : String) : Except ReadFault String :=
  match w.resolve path with
  | .ok ((_, .file bytes) :: _) => (Text.Utf8.decode bytes).mapError (.notText path)
  | _ => .error (.notAFile path)

end Workspace

end LinkedSchema
