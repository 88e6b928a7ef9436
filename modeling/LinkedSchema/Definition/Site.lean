/-!
# Sites

A `Site` is a kind of place in a document at which a directive may be applied.  Its tag is the
name by which directive definitions list it.
-/

namespace LinkedSchema

/-- A kind of place at which a directive may be applied. -/
inductive Site where
  | argumentDefinition
  | enum
  | enumValue
  | field
  | fieldDefinition
  | fragmentDefinition
  | fragmentSpread
  | inlineFragment
  | inputFieldDefinition
  | inputObject
  | interface
  | mutation
  | object
  | query
  | scalar
  | schema
  | subscription
  | union
  | variableDefinition
deriving DecidableEq, Inhabited

namespace Site

/-- All sites. -/
def all : List Site := [
  argumentDefinition, enum, enumValue, field, fieldDefinition, fragmentDefinition,
  fragmentSpread, inlineFragment, inputFieldDefinition, inputObject, interface, mutation,
  object, query, scalar, schema, subscription, union, variableDefinition]

/-- The tag of a site in a directive definition. -/
def tag : Site → String
  | argumentDefinition => "ARGUMENT_DEFINITION"
  | enum => "ENUM"
  | enumValue => "ENUM_VALUE"
  | field => "FIELD"
  | fieldDefinition => "FIELD_DEFINITION"
  | fragmentDefinition => "FRAGMENT_DEFINITION"
  | fragmentSpread => "FRAGMENT_SPREAD"
  | inlineFragment => "INLINE_FRAGMENT"
  | inputFieldDefinition => "INPUT_FIELD_DEFINITION"
  | inputObject => "INPUT_OBJECT"
  | interface => "INTERFACE"
  | mutation => "MUTATION"
  | object => "OBJECT"
  | query => "QUERY"
  | scalar => "SCALAR"
  | schema => "SCHEMA"
  | subscription => "SUBSCRIPTION"
  | union => "UNION"
  | variableDefinition => "VARIABLE_DEFINITION"

/-- The name of a site. -/
def title : Site → String
  | argumentDefinition => "ArgumentDefinition"
  | enum => "Enum"
  | enumValue => "EnumValue"
  | field => "Field"
  | fieldDefinition => "FieldDefinition"
  | fragmentDefinition => "FragmentDefinition"
  | fragmentSpread => "FragmentSpread"
  | inlineFragment => "InlineFragment"
  | inputFieldDefinition => "InputFieldDefinition"
  | inputObject => "InputObject"
  | interface => "Interface"
  | mutation => "Mutation"
  | object => "Object"
  | query => "Query"
  | scalar => "Scalar"
  | schema => "Schema"
  | subscription => "Subscription"
  | union => "Union"
  | variableDefinition => "VariableDefinition"

/-- The site with a given name. -/
def ofTitle? (title : String) : Option Site := all.find? (fun site => site.title == title)

/-- The site with a given tag. -/
def ofTag? (tag : String) : Option Site := all.find? (fun site => site.tag == tag)

end Site

end LinkedSchema
