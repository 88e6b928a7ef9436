import LinkedSchema.Json.Basic
import LinkedSchema.Schema.Basic

/-!
# The JSON forms of definitions

Every part of a schema has a JSON form.  A thing with fields is an object with all of them; a
choice without content is a text, and a choice with content is an object with one entry.
-/

namespace LinkedSchema

/-- The form of a choice with content. -/
def Json.choice (name : String) (content : Json) : Json := .object [(name, content)]

/-- The form of a location. -/
def Location.toJson : Location → Json
  | .builtIn => .string "GraphQLBuiltIn"
  | .source file position =>
    .choice "Schema" (.object [
      ("col", .nat position.column),
      ("file", .optionalString file),
      ("line", .nat position.line)])

mutual

/-- The form of a value. -/
def Value.toJson : Value → Json
  | .bool value => .choice "Bool" (.bool value)
  | .enum name => .choice "Enum" (.string name)
  | .float value => .choice "Float" (.number value)
  | .int value => .choice "Int" (.int value)
  | .list items => .choice "List" (.array (Value.itemsToJson items))
  | .null => .string "Null"
  | .object entries => .choice "Object" (.object (Value.entriesToJson entries))
  | .string value => .choice "String" (.string value)
  | .variableRef name => .choice "VarRef" (.string name)

/-- The forms of the items of a list. -/
def Value.itemsToJson : List Value → List Json
  | [] => []
  | item :: rest => item.toJson :: Value.itemsToJson rest

/-- The forms of the entries of an object. -/
def Value.entriesToJson : List (String × Value) → List (String × Json)
  | [] => []
  | (key, value) :: rest => (key, value.toJson) :: Value.entriesToJson rest

end

/-- The form of a step of a path. -/
def Segment.toJson : Segment → Json
  | .argument name => .choice "Argument" (.string name)
  | .directive name => .choice "Directive" (.string name)
  | .enumValue name => .choice "EnumValue" (.string name)
  | .field name => .choice "Field" (.string name)
  | .inputField name => .choice "InputField" (.string name)
  | .type kind name =>
    .choice "Type" (.object [("kind", .string kind.title), ("name", .string name)])

/-- The form of an annotation. -/
def Annotation.toJson (a : Annotation) : Json := .object [
  ("ancestry", .arrayOf Segment.toJson a.ancestry),
  ("arguments", .table Value.toJson a.arguments),
  ("def_location", a.location.toJson),
  ("location", .string a.site.title),
  ("name", .string a.name)]

/-- The form of a reference. -/
def Reference.toJson (r : Reference) : Json := .object [
  ("name", .string r.name),
  ("ref_location", r.location.toJson),
  ("symbol", .nat r.symbol)]

/-- The form of a type expression. -/
def TypeExpr.toJson : TypeExpr Reference → Json
  | .named reference => .choice "Named" reference.toJson
  | .list inner => .choice "List" inner.toJson
  | .nonNull inner => .choice "NonNull" inner.toJson

/-- The form of an argument or an input field. -/
def InputDefinition.toJson (i : InputDefinition) : Json := .object [
  ("bind_to", .optionalString i.bindTo),
  ("def_location", i.location.toJson),
  ("default_value", .optional Value.toJson i.defaultValue),
  ("deprecation_reason", .optionalString i.deprecation),
  ("description", .optionalString i.description),
  ("directives", .arrayOf Annotation.toJson i.directives),
  ("name", .string i.name),
  ("type_ref", i.type.toJson)]

/-- The form of a field. -/
def FieldDefinition.toJson (f : FieldDefinition) : Json := .object [
  ("arguments", .table InputDefinition.toJson f.arguments),
  ("bind_to", .optionalString f.bindTo),
  ("def_location", f.location.toJson),
  ("deprecation_reason", .optionalString f.deprecation),
  ("description", .optionalString f.description),
  ("directives", .arrayOf Annotation.toJson f.directives),
  ("name", .string f.name),
  ("type_ref", f.type.toJson)]

/-- The form of an enum value. -/
def EnumValueDefinition.toJson (v : EnumValueDefinition) : Json := .object [
  ("def_location", v.location.toJson),
  ("deprecation_reason", .optionalString v.deprecation),
  ("description", .optionalString v.description),
  ("directives", .arrayOf Annotation.toJson v.directives),
  ("name", .string v.name)]

/-- The form of a type. -/
def TypeDefinition.toJson (t : TypeDefinition) : Json := .object [
  ("bind_to", .optionalString t.bindTo),
  ("def_location", t.location.toJson),
  ("description", .optionalString t.description),
  ("directives", .arrayOf Annotation.toJson t.directives),
  ("enum_values", .table EnumValueDefinition.toJson t.enumValues),
  ("fields", .table FieldDefinition.toJson t.fields),
  ("input_fields", .table InputDefinition.toJson t.inputFields),
  ("interfaces", .arrayOf Reference.toJson t.interfaces),
  ("kind", .string t.kind.title),
  ("name", .string t.name),
  ("union_members", .arrayOf Reference.toJson t.members)]

/-- The form of a directive. -/
def DirectiveDefinition.toJson (d : DirectiveDefinition) : Json := .object [
  ("arguments", .table InputDefinition.toJson d.arguments),
  ("def_location", d.location.toJson),
  ("description", .optionalString d.description),
  ("locations", .arrayOf (fun site : Site => .string site.title) d.sites),
  ("name", .string d.name),
  ("repeatable", .bool d.repeatable)]

/-- The form of a schema. -/
def Schema.toJson (s : Schema) : Json := .object [
  ("bindings", .arrayOf Json.nat s.bindings.places),
  ("directive_defs", .table DirectiveDefinition.toJson s.directives),
  ("mutation_type", .optional Json.nat s.mutation),
  ("query_type", .nat s.query),
  ("subscription_type", .optional Json.nat s.subscription),
  ("types", .table TypeDefinition.toJson s.types)]

end LinkedSchema
