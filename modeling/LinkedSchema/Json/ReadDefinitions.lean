import LinkedSchema.Json.Definitions

/-!
# Reading definitions from JSON

Every form of a definition can be read back, and some others that stand for the same thing: an array
of the values of all fields, an object in which absent things are left out, and a choice without
content as an object with null.  A tree that is not the form of a thing gives nothing.
-/

namespace LinkedSchema

namespace Json

/-- The thing that a field of an object is the form of. -/
def get? {α : Type} (read : Json → Option α) (key : String) (json : Json) : Option α :=
  (json.field? key).bind read

/-- The thing that a tree is the form of, which is absent if the tree is null. -/
def optional? {α : Type} (read : Json → Option α) : Json → Option (Option α)
  | null => some none
  | json => (read json).map some

/-- The thing that a field of an object is the form of, which is absent if the field is null or left
out. -/
def getOptional? {α : Type} (read : Json → Option α) (key : String) (json : Json) :
    Option (Option α) :=
  optional? read ((json.field? key).getD null)

/-- The things that the items of an array are the forms of. -/
def array? {α : Type} (read : Json → Option α) : Json → Option (List α)
  | array items => items.mapM read
  | _ => none

/-- The map whose values the fields of an object are the forms of. -/
def table? {α : Type} (read : Json → Option α) : Json → Option (OrderedMap String α)
  | object entries =>
    (entries.mapM fun entry => (read entry.2).map fun value => (entry.1, value)).map
      OrderedMap.ofList
  | _ => none

end Json

/-! ### Locations -/

/-- The position in a file that a tree is the form of. -/
def Location.sourceOfJson? (json : Json) : Option Location := do
  let json := json.record ["col", "file", "line"]
  let column ← json.get? Json.word? "col"
  let file ← json.getOptional? Json.string? "file"
  let line ← json.get? Json.word? "line"
  return .source file ⟨line, column⟩

/-- The location that a tree is the form of. -/
def Location.ofJson? : Json → Option Location
  | .string name => if name = "GraphQLBuiltIn" then some .builtIn else none
  | .object [(name, content)] =>
    if name = "GraphQLBuiltIn" then
      match content with
      | .null => some .builtIn
      | _ => none
    else if name = "Schema" then Location.sourceOfJson? content
    else none
  | _ => none

/-! ### Values -/

mutual

/-- The value that a tree is the form of. -/
def Value.ofJson? : Json → Option Value
  | .string name => if name = "Null" then some .null else none
  | .object [(name, content)] =>
    match name, content with
    | "Bool", .bool value => some (.bool value)
    | "Enum", .string name => some (.enum name)
    | "Float", .float value => some (.float value)
    | "Float", .int value => some (.float (.ofRatio (value < 0) value.natAbs 1))
    | "Int", .int value => some (.int value)
    | "List", .array items => (Value.itemsOfJson? items).map .list
    | "Null", .null => some .null
    | "Object", .object entries => (Value.entriesOfJson? entries).map .object
    | "String", .string value => some (.string value)
    | "VarRef", .string name => some (.variableRef name)
    | _, _ => none
  | _ => none

/-- The values that the items of an array are the forms of. -/
def Value.itemsOfJson? : List Json → Option (List Value)
  | [] => some []
  | item :: rest => do
    let value ← Value.ofJson? item
    return value :: (← Value.itemsOfJson? rest)

/-- The entries whose values the fields of an object are the forms of. -/
def Value.entriesOfJson? : List (String × Json) → Option (List (String × Value))
  | [] => some []
  | (key, item) :: rest => do
    let value ← Value.ofJson? item
    return (key, value) :: (← Value.entriesOfJson? rest)

end

/-! ### Definitions -/

/-- The kind that a tree is the form of. -/
def Kind.ofJson? (json : Json) : Option Kind := json.name?.bind Kind.ofTitle?

/-- The site that a tree is the form of. -/
def Site.ofJson? (json : Json) : Option Site := json.name?.bind Site.ofTitle?

/-- The step of a path that a tree is the form of. -/
def Segment.ofJson? : Json → Option Segment
  | .object [(name, content)] =>
    match name, content with
    | "Argument", .string name => some (.argument name)
    | "Directive", .string name => some (.directive name)
    | "EnumValue", .string name => some (.enumValue name)
    | "Field", .string name => some (.field name)
    | "InputField", .string name => some (.inputField name)
    | "Type", content => do
      let content := content.record ["kind", "name"]
      let kind ← content.get? Kind.ofJson? "kind"
      return .type kind (← content.get? Json.string? "name")
    | _, _ => none
  | _ => none

/-- The annotation that a tree is the form of. -/
def Annotation.ofJson? (json : Json) : Option Annotation := do
  let json := json.record ["ancestry", "arguments", "def_location", "location", "name"]
  return {
    ancestry := ← json.get? (Json.array? Segment.ofJson?) "ancestry"
    arguments := ← json.get? (Json.table? Value.ofJson?) "arguments"
    location := ← json.get? Location.ofJson? "def_location"
    site := ← json.get? Site.ofJson? "location"
    name := ← json.get? Json.string? "name" }

/-- The reference that a tree is the form of. -/
def Reference.ofJson? (json : Json) : Option Reference := do
  let json := json.record ["name", "ref_location", "symbol"]
  return {
    name := ← json.get? Json.string? "name"
    location := ← json.get? Location.ofJson? "ref_location"
    symbol := ← json.get? Json.word? "symbol" }

/-- The type expression that a tree is the form of. -/
def TypeExpr.ofJson? : Json → Option (TypeExpr Reference)
  | .object [(name, content)] =>
    if name = "Named" then (Reference.ofJson? content).map .named
    else if name = "List" then (TypeExpr.ofJson? content).map .list
    else if name = "NonNull" then (TypeExpr.ofJson? content).map .nonNull
    else none
  | _ => none

/-- The argument or input field that a tree is the form of. -/
def InputDefinition.ofJson? (json : Json) : Option InputDefinition := do
  let json := json.record [
    "bind_to", "def_location", "default_value", "deprecation_reason", "description", "directives",
    "name", "type_ref"]
  return {
    bindTo := ← json.getOptional? Json.string? "bind_to"
    location := ← json.get? Location.ofJson? "def_location"
    defaultValue := ← json.getOptional? Value.ofJson? "default_value"
    deprecation := ← json.getOptional? Json.string? "deprecation_reason"
    description := ← json.getOptional? Json.string? "description"
    directives := ← json.get? (Json.array? Annotation.ofJson?) "directives"
    name := ← json.get? Json.string? "name"
    type := ← json.get? TypeExpr.ofJson? "type_ref" }

/-- The field that a tree is the form of. -/
def FieldDefinition.ofJson? (json : Json) : Option FieldDefinition := do
  let json := json.record [
    "arguments", "bind_to", "def_location", "deprecation_reason", "description", "directives",
    "name", "type_ref"]
  return {
    arguments := ← json.get? (Json.table? InputDefinition.ofJson?) "arguments"
    bindTo := ← json.getOptional? Json.string? "bind_to"
    location := ← json.get? Location.ofJson? "def_location"
    deprecation := ← json.getOptional? Json.string? "deprecation_reason"
    description := ← json.getOptional? Json.string? "description"
    directives := ← json.get? (Json.array? Annotation.ofJson?) "directives"
    name := ← json.get? Json.string? "name"
    type := ← json.get? TypeExpr.ofJson? "type_ref" }

/-- The enum value that a tree is the form of. -/
def EnumValueDefinition.ofJson? (json : Json) : Option EnumValueDefinition := do
  let json := json.record [
    "def_location", "deprecation_reason", "description", "directives", "name"]
  return {
    location := ← json.get? Location.ofJson? "def_location"
    deprecation := ← json.getOptional? Json.string? "deprecation_reason"
    description := ← json.getOptional? Json.string? "description"
    directives := ← json.get? (Json.array? Annotation.ofJson?) "directives"
    name := ← json.get? Json.string? "name" }

/-- The type that a tree is the form of. -/
def TypeDefinition.ofJson? (json : Json) : Option TypeDefinition := do
  let json := json.record [
    "bind_to", "def_location", "description", "directives", "enum_values", "fields",
    "input_fields", "interfaces", "kind", "name", "union_members"]
  return {
    bindTo := ← json.getOptional? Json.string? "bind_to"
    location := ← json.get? Location.ofJson? "def_location"
    description := ← json.getOptional? Json.string? "description"
    directives := ← json.get? (Json.array? Annotation.ofJson?) "directives"
    enumValues := ← json.get? (Json.table? EnumValueDefinition.ofJson?) "enum_values"
    fields := ← json.get? (Json.table? FieldDefinition.ofJson?) "fields"
    inputFields := ← json.get? (Json.table? InputDefinition.ofJson?) "input_fields"
    interfaces := ← json.get? (Json.array? Reference.ofJson?) "interfaces"
    kind := ← json.get? Kind.ofJson? "kind"
    name := ← json.get? Json.string? "name"
    members := ← json.get? (Json.array? Reference.ofJson?) "union_members" }

end LinkedSchema
