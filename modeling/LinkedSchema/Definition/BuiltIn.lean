import LinkedSchema.Definition.Build

/-!
# Built-in definitions

The scalar types and the directives that every schema has without defining them.
-/

namespace LinkedSchema

namespace BuiltIn

/-- The names and descriptions of the built-in scalar types. -/
def scalarTexts : List (String × String) := [
  ("Boolean", "The `Boolean` scalar type represents `true` or `false`."),
  ("Float", "The `Float` scalar type represents signed double-precision fractional values."),
  ("ID", "The `ID` scalar type represents a unique identifier."),
  ("Int", "The `Int` scalar type represents non-fractional signed whole numeric values."),
  ("String",
    "The `String` scalar type represents textual data as UTF-8 character sequences.")]

/-- A built-in scalar type. -/
def scalar (name description : String) : TypeDefinition where
  kind := .scalar
  name := name
  description := some description
  bindTo := none
  directives := []
  interfaces := []
  members := []
  fields := .empty
  inputFields := .empty
  enumValues := .empty
  location := .builtIn

/-- The built-in scalar types by name. -/
def scalars : OrderedMap String TypeDefinition :=
  ⟨scalarTexts.map fun (name, description) => (name, scalar name description)⟩

/-- What makes up a built-in directive, which has one argument. -/
structure DirectiveText where
  name : String
  description : String
  argument : String
  type : TypeExpr String
  defaultValue : Option Value
  sites : List Site

/-- The built-in directives. -/
def directiveTexts : List DirectiveText := [
  { name := "skip"
    description :=
      "Directs the executor to skip this field or fragment when the `if` argument is true."
    argument := "if"
    type := .nonNull (.named "Boolean")
    defaultValue := none
    sites := [.field, .fragmentSpread, .inlineFragment] },
  { name := "include"
    description := "Directs the executor to include this field or fragment only when the "
      ++ "`if` argument is true."
    argument := "if"
    type := .nonNull (.named "Boolean")
    defaultValue := none
    sites := [.field, .fragmentSpread, .inlineFragment] },
  { name := deprecatedName
    description := "Marks an element of a GraphQL schema as no longer supported."
    argument := "reason"
    type := .named "String"
    defaultValue := some (.string defaultReason)
    sites := [.fieldDefinition, .argumentDefinition, .inputFieldDefinition, .enumValue] },
  { name := "specifiedBy"
    description := "Exposes a URL that specifies the behavior of this scalar."
    argument := "url"
    type := .nonNull (.named "String")
    defaultValue := none
    sites := [.scalar] },
  { name := bindName
    description := "Binds a schema element to an external runtime value."
    argument := "to"
    type := .nonNull (.named "String")
    defaultValue := none
    sites := [
      .argumentDefinition, .enum, .enumValue, .fieldDefinition, .inputFieldDefinition,
      .inputObject, .interface, .object, .scalar, .union] }]

/-- Builds a built-in directive, which declares the type of its argument. -/
def directive (text : DirectiveText) : Drafting DirectiveDefinition := do
  let type ← Drafting.type .builtIn text.type
  return {
    name := text.name
    description := some text.description
    arguments := OrderedMap.empty.insert text.argument {
      name := text.argument
      description := none
      type := type
      defaultValue := text.defaultValue
      deprecation := none
      bindTo := none
      directives := []
      location := .builtIn }
    repeatable := false
    sites := text.sites
    location := .builtIn }

/-- The built-in directives by name, with the registry in which the types of their arguments
are the first declarations. -/
def directives : OrderedMap String DirectiveDefinition × Registry :=
  let (definitions, draft) := (directiveTexts.mapM directive).run ⟨.empty, []⟩
  (⟨definitions.map fun definition => (definition.name, definition)⟩, draft.registry)

end BuiltIn

end LinkedSchema
