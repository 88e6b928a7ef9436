import LinkedSchema.Command.Line
import LinkedSchema.Command.Tasks
import LinkedSchema.Schema.Link

/-!
# Validating files

`Command.run` does what the program is asked for in a workspace: it finds the files of a schema,
links them, parses executable documents, and reports all that it found.
-/

namespace LinkedSchema.Command

/-! ### Documents -/

/-- Finds and parses the documents that the settings name. -/
def parseDocuments (w : Workspace) (s : Settings) : Summary × List CommandFault :=
  if s.documents.isEmpty then ({}, [])
  else
    let found := find w s.documentExtensions s.documents
    let (summary, faults) := parseFiles s.capacity (found.files.map FoundFile.document)
    (summary, found.faults.map .find ++ faults)

/-! ### Reports -/

/-- The end of the program: its exit code, and what it prints. -/
structure Report where
  code : Nat
  output : String := ""
  errors : String := ""
deriving DecidableEq, Inhabited

/-- The report of faults that are not those of the schema. -/
def faultReport (faults : List CommandFault) : Report where
  code := 1
  errors := "❌ GraphQL validation errors: "
    ++ Outline.text (Outline.nest "[" (faults.map CommandFault.lines) "]")

/-- The report of an error of the schema. -/
def schemaReport (error : SchemaError) : Report where
  code := 1
  errors := "❌ Errors validating schema:\n" ++ error.message

/-- The report of files without faults. -/
def successReport (found : Found) (schema : Schema) (summary : Summary) : Report where
  code := 0
  output :=
    "✅ All GraphQL validated successfully:\n"
      ++ "  * Analyzed " ++ toString found.files.length ++ " schema files.\n"
      ++ "  * Skipped " ++ toString found.skipped ++ " non-graphql files.\n"
      ++ "  * Validated " ++ toString schema.definedTypes.length ++ " type definitions.\n"
      ++ "  * Validated " ++ toString schema.definedDirectives.length
      ++ " directive definitions.\n"
      ++ "  * Parsed " ++ toString summary.documents ++ " documents ("
      ++ toString summary.distinct ++ " distinct).\n"
      ++ "  * Found " ++ toString summary.operations ++ " operations."

/-- The text of a file that was found, by its path. -/
def readFound (files : List FoundFile) (path : String) : Except ReadFault String :=
  match files.find? (fun file => file.path == path) with
  | some file => (Text.Utf8.decode file.bytes).mapError (.notText path)
  | none => .error (.notAFile path)

/-- The schema of files that were found. -/
def linkFiles (s : Settings) (files : List FoundFile) : Except SchemaError Schema :=
  let options : Options := { misplacedDirective := if s.lenient then .warn else .error }
  Schema.ofLoader
    ((Loader.start options).loadFiles (readFound files) (files.map FoundFile.path))

/-- Validates what the settings name. -/
def validate (w : Workspace) (s : Settings) : Report :=
  let found := find w s.extensions s.paths
  if !found.faults.isEmpty then faultReport (found.faults.map .find)
  else
    match linkFiles s found.files with
    | .error error => schemaReport error
    | .ok schema =>
      match parseDocuments w s with
      | (summary, []) => successReport found schema summary
      | (_, faults) => faultReport faults

/-- How the program is used. -/
def usage : String := "Usage: typegraph [-v] validate <FILE_OR_DIR_PATHS>..."

/-- Does what the arguments of the program ask for. -/
def run (w : Workspace) (arguments : List String) : Report :=
  match Request.parse? arguments with
  | none => { code := 2, errors := usage }
  | some .help => { code := 0, output := usage }
  | some .version => { code := 0, output := "typegraph 0.0.1" }
  | some (.validate settings) => validate w settings

end LinkedSchema.Command
