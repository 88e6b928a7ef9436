import LinkedSchema.Definition.Merge
import LinkedSchema.Schema.AnnotationCheck
import LinkedSchema.Schema.Basic
import LinkedSchema.Schema.KindCheck
import LinkedSchema.Schema.Loader

/-!
# Linking

`Loader.link` makes a schema of what a loader has taken up, in phases: extensions are merged
into the types they extend, references are bound, annotations and kinds are checked, and the
types of root operations are chosen.  A phase that finds faults ends the linking, but the checks
and the choice of the root types are one phase.
-/

namespace LinkedSchema

open Document (Operation)

namespace Loader

/-! ### Extensions -/

/-- Merges an extension into the type of its name in a table, in place; `failed` holds the names of
types with a definition that has faults, whose extensions are passed over. -/
def mergeExtension (directives : DirectiveTable) (failed : List String)
    (merged : TypeTable × List Fault) (extension : TypeDefinition) : TypeTable × List Fault :=
  let (types, faults) := merged
  match types.get? extension.name with
  | some base =>
    let (type, result) := base.absorb directives extension
    let types := types.insert extension.name type
    match result with
    | .ok () => (types, faults)
    | .error conflicts => (types, faults ++ conflicts)
  | none =>
    if failed.contains extension.name then (types, faults)
    else (types, faults ++ [.undefinedBase extension.name extension.location])

/-- The types with all extensions merged into them, and the faults of merging. -/
def merged (l : Loader) : TypeTable × List Fault :=
  l.extensions.foldl (mergeExtension l.directives l.failed) (l.types, [])

/-! ### Root operations -/

/-- The name of the type of an operation: the one that a schema block names, or else the name
of the operation. -/
def rootName (roots : OrderedMap Operation Root) (operation : Operation) : String :=
  match roots.get? operation with
  | some root => root.type
  | none => operation.title

/-- The place of the type of an operation, if it is an object type. -/
def rootPlace? (types : TypeTable) (roots : OrderedMap Operation Root)
    (operation : Operation) : Option Nat :=
  (types.indexOf? (rootName roots operation)).filter fun place =>
    match types.entryAt? place with
    | some (_, type) => type.kind == .object
    | none => false

/-- The fault of an operation for which a schema block names something other than an object
type. -/
def rootFaults (types : TypeTable) (roots : OrderedMap Operation Root)
    (operation : Operation) : List Fault :=
  match roots.get? operation, rootPlace? types roots operation with
  | some root, none => [.notRoot operation root.type root.location]
  | _, _ => []

/-- The fault of two operations with the same type. -/
def sharedFaults (types : TypeTable) (roots : OrderedMap Operation Root)
    (first second : Operation) : List Fault :=
  match rootPlace? types roots first, rootPlace? types roots second with
  | some place, some other =>
    if place = other then [.sharedRoot first second (rootName roots first)] else []
  | _, _ => []

/-- The fault of a schema without a type for queries; one that a schema block names has been
found wrong already. -/
def queryFaults (types : TypeTable) (roots : OrderedMap Operation Root) : List Fault :=
  if (rootPlace? types roots .query).isNone && !roots.contains .query then [.noQuery] else []

/-- All faults of the root operations. -/
def operationFaults (types : TypeTable) (roots : OrderedMap Operation Root) : List Fault :=
  Operation.all.flatMap (rootFaults types roots)
    ++ sharedFaults types roots .query .mutation
    ++ sharedFaults types roots .query .subscription
    ++ sharedFaults types roots .mutation .subscription
    ++ queryFaults types roots

/-! ### Schemas -/

/-- The faults that are found once all references are bound. -/
def checkFaults (l : Loader) (types : TypeTable) (bindings : Bindings) : List Fault :=
  AnnotationCheck.faults l.directives l.options.misplacedDirective types
    ++ KindCheck.faults types bindings l.directives
    ++ operationFaults types l.roots

/-- The schema of what a loader has taken up, or all faults of the first phase that has any. -/
def link (l : Loader) : Except (List Fault) Schema :=
  let (types, conflicts) := l.merged
  if !(l.faults ++ conflicts).isEmpty then .error (l.faults ++ conflicts)
  else
    match l.registry.bind types with
    | .error unbound => .error unbound
    | .ok bindings =>
      let faults := l.checkFaults types bindings
      match rootPlace? types l.roots .query with
      | none => .error faults
      | some query =>
        if faults.isEmpty then
          .ok {
            types := types
            directives := l.directives
            bindings := bindings
            query := query
            mutation := rootPlace? types l.roots .mutation
            subscription := rootPlace? types l.roots .subscription }
        else .error faults

end Loader

/-- Why there is no schema: a document stops the loading, or there are faults. -/
inductive SchemaError where
  | load (fault : LoadFault)
  | faults (list : List Fault)
deriving DecidableEq, Inhabited

/-- The text of the reason why there is no schema. -/
def SchemaError.message : SchemaError → String
  | .load fault => fault.message
  | .faults list => Fault.listMessage list

/-- The result of linking what a loader has taken up, if the loading was not stopped. -/
def Schema.ofLoader (l : Except LoadFault Loader) : Except SchemaError Schema :=
  match l with
  | .error fault => .error (.load fault)
  | .ok l => l.link.mapError .faults

/-- The schema of a single document. -/
def Schema.ofText (text : String) : Except SchemaError Schema :=
  ofLoader ((Loader.start {}).loadUnnamed text)

/-- The schema of files; `read` gives the text of a file. -/
def Schema.ofFiles (read : String → Except ReadFault String) (files : List String) :
    Except SchemaError Schema :=
  ofLoader ((Loader.start {}).loadFiles read files)

end LinkedSchema
