import LinkedSchema.Definition.BuiltIn
import LinkedSchema.Document.SchemaDocument
import LinkedSchema.Schema.Options
import LinkedSchema.Text.Utf8

/-!
# Loading

A `Loader` takes up the definitions of schema documents one after another.  Types and
directives are built as they come; of two with the same name the first one counts.  Extensions
are built too but held back.  Faults are collected; only a document that cannot be read at all
stops the loading.
-/

namespace LinkedSchema

open Document (Definition SchemaNode TypeNode DirectiveNode Operation)

/-- The definitions taken up so far. -/
structure Loader where
  options : Options
  registry : Registry
  /-- The faults found so far, in the order in which they were found. -/
  faults : List Fault
  types : OrderedMap String TypeDefinition
  directives : OrderedMap String DirectiveDefinition
  /-- The extensions held back, in the order in which they came. -/
  extensions : List TypeDefinition
  /-- The names of types with a definition that has faults. -/
  failed : List String
  /-- The types that schema blocks name for operations. -/
  roots : OrderedMap Operation Root
  /-- The number of documents without a file name that were taken up, in sixteen bits: it starts
  anew after 65535. -/
  unnamed : UInt16
deriving DecidableEq

namespace Loader

/-- The loader that knows nothing but the built-in definitions. -/
def start (options : Options) : Loader where
  options := options
  registry := BuiltIn.directives.2
  faults := []
  types := BuiltIn.scalars
  directives := BuiltIn.directives.1
  extensions := []
  failed := []
  roots := .empty
  unnamed := 0

/-- The loader with more faults. -/
def report (l : Loader) (faults : List Fault) : Loader := { l with faults := l.faults ++ faults }

/-! ### Definitions -/

/-- Takes up a type.  A type that has faults is remembered by its name; one whose name is
taken is reported. -/
def visitType (file : String) (l : Loader) (node : TypeNode) : Loader :=
  let (result, registry) := node.build (some file) l.registry
  let l := { l with registry := registry }
  match result with
  | .error faults => { l.report faults with failed := l.failed ++ [node.name] }
  | .ok type =>
    match l.types.get? type.name with
    | some existing => l.report [.duplicateType type.name existing.location type.location]
    | none => { l with types := l.types.insert type.name type }

/-- Takes up an extension, which is held back unless it has faults. -/
def visitExtension (file : String) (l : Loader) (node : TypeNode) : Loader :=
  let (result, registry) := node.build (some file) l.registry
  let l := { l with registry := registry }
  match result with
  | .error faults => l.report faults
  | .ok extension => { l with extensions := l.extensions ++ [extension] }

/-- Takes up a directive; one whose name is taken is reported and not built. -/
def visitDirective (file : String) (l : Loader) (node : DirectiveNode) : Loader :=
  let location : Location := .source (some file) node.position
  match l.directives.get? node.name with
  | some existing =>
    if existing.isBuiltIn then l.report [.redefinedBuiltIn node.name location]
    else l.report [.duplicateDirective node.name existing.location location]
  | none =>
    let (result, registry) := node.build (some file) l.registry
    let l := { l with registry := registry }
    match result with
    | .error faults => l.report faults
    | .ok directive => { l with directives := l.directives.insert node.name directive }

/-- Takes up the type that a schema block names for an operation, unless one is named
already. -/
def visitRoot (l : Loader) (operation : Operation) (root : Root) : Loader :=
  match l.roots.get? operation with
  | some existing => l.report [.duplicateRoot operation existing root]
  | none => { l with roots := l.roots.insert operation root }

/-- Takes up a schema block: its operations in their own order, whatever the order in the
block.  Directives on the block are not looked at. -/
def visitSchema (file : String) (l : Loader) (node : SchemaNode) : Loader :=
  Operation.all.foldl (fun l operation =>
    match OrderedMap.lookup operation node.roots with
    | none => l
    | some type => l.visitRoot operation ⟨type, .source (some file) node.position⟩) l

/-- Takes up a definition of a file. -/
def visit (file : String) (l : Loader) : Definition → Loader
  | .schema node => l.visitSchema file node
  | .type node => l.visitType file node
  | .extension node => l.visitExtension file node
  | .directive node => l.visitDirective file node

/-- Takes up the definitions of a file. -/
def visitAll (file : String) (l : Loader) (definitions : List Definition) : Loader :=
  definitions.foldl (visit file) l

end Loader

/-! ### Documents -/

/-- Why a file cannot be read. -/
inductive ReadFault where
  /-- There is no file of that name. -/
  | notAFile (path : String)
  /-- The bytes of the file are not text. -/
  | notText (path : String) (fault : Text.Utf8.Fault)
deriving DecidableEq, Inhabited

/-- The text of a reason why a file cannot be read. -/
def ReadFault.message : ReadFault → String
  | notAFile path => Fault.tick path ++ " is not a file"
  | notText path fault => Fault.tick path ++ " is not valid utf-8: " ++ fault.message

/-- Why a document stops the loading. -/
inductive LoadFault where
  /-- The document of a file breaks the grammar at a position. -/
  | ungrammatical (file : String) (position : Position)
  /-- The file cannot be read. -/
  | unreadable (file : String) (reason : ReadFault)
deriving DecidableEq, Inhabited

/-- The text of a fault of the grammar at a position. -/
def Document.faultMessage (position : Position) : String := "Parse error at " ++ position.text

/-- The text of a reason why loading stops. -/
def LoadFault.message : LoadFault → String
  | ungrammatical file position =>
    "Error parsing schema " ++ file ++ ": schema parse error: "
      ++ Document.faultMessage position
  | unreadable file reason =>
    "Failure while trying to read schema file " ++ Fault.tick file ++ ": " ++ reason.message

namespace Loader

/-- Takes up a document of a file. -/
def loadNamed (l : Loader) (file text : String) : Except LoadFault Loader :=
  match Document.parseSchema text with
  | .error position => .error (.ungrammatical file position)
  | .ok definitions => .ok (l.visitAll file definitions)

/-- Takes up a document without a file, which is named after the number of such documents
before it. -/
def loadUnnamed (l : Loader) (text : String) : Except LoadFault Loader :=
  { l with unnamed := l.unnamed + 1 }.loadNamed ("str://" ++ toString l.unnamed) text

/-- Takes up a document, under the name of its file if it has one. -/
def load (l : Loader) (file : Option String) (text : String) : Except LoadFault Loader :=
  match file with
  | some file => l.loadNamed file text
  | none => l.loadUnnamed text

/-- Takes up files one after another; `read` gives the text of a file. -/
def loadFiles (read : String → Except ReadFault String) (l : Loader) :
    List String → Except LoadFault Loader
  | [] => .ok l
  | file :: rest =>
    match read file with
    | .error reason => .error (.unreadable file reason)
    | .ok text =>
      match l.loadNamed file text with
      | .error fault => .error fault
      | .ok l => l.loadFiles read rest

end Loader

end LinkedSchema
