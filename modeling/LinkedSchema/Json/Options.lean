import LinkedSchema.Cache.Documents
import LinkedSchema.Json.ReadDefinitions
import LinkedSchema.Schema.Options

/-!
# The JSON forms of options

Options are read from an object, in which a missing field takes its default and other fields
are passed over, or from an array of their values in order, of which the last may be missing.
-/

namespace LinkedSchema

/-- The form of a severity. -/
def Severity.toJson : Severity → Json
  | .error => .string "error"
  | .warn => .string "warn"

/-- The severity with a name. -/
def Severity.ofName? (name : String) : Option Severity :=
  if name = "error" then some .error else if name = "warn" then some .warn else none

/-- The severity that a tree is the form of: its name, or an object with null at the name. -/
def Severity.ofJson? (json : Json) : Option Severity := json.name?.bind ofName?

/-- The form of the options of a schema. -/
def Options.toJson (o : Options) : Json := .object [
  ("invalid_directive_location", o.misplacedDirective.toJson)]

/-- The value of the only option of a kind: that of the field `key` of an object or of the
first item of an array, and otherwise `default`. -/
def Json.option? {α : Type} (read : Json → Option α) (key : String) (default : α) :
    Json → Option α
  | .object entries =>
    match OrderedMap.lookup key entries with
    | some item => read item
    | none => some default
  | .array [] => some default
  | .array [item] => read item
  | _ => none

/-- The options of a schema that a tree is the form of. -/
def Options.ofJson? (json : Json) : Option Options :=
  (json.option? Severity.ofJson? "invalid_directive_location" .error).map fun severity =>
    { misplacedDirective := severity }

/-- The options of a document cache. -/
structure CacheOptions where
  capacity : Nat := defaultCapacity
deriving DecidableEq, Inhabited

/-- The form of the options of a document cache. -/
def CacheOptions.toJson (o : CacheOptions) : Json := .object [("capacity", .nat o.capacity)]

/-- The options of a document cache that a tree is the form of. -/
def CacheOptions.ofJson? (json : Json) : Option CacheOptions :=
  (json.option? Json.word? "capacity" defaultCapacity).map fun capacity =>
    { capacity := capacity }

end LinkedSchema
