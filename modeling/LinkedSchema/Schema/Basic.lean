import LinkedSchema.Schema.Bindings

/-!
# Schemas

A `Schema` is a set of definitions that fit together: every reference in it is bound to a
type, and the types of its root operations are chosen.
-/

namespace LinkedSchema

/-- A linked schema.  Types are named by their places in the table of types. -/
structure Schema where
  types : TypeTable
  directives : DirectiveTable
  bindings : Bindings
  query : Nat
  mutation : Option Nat
  subscription : Option Nat
deriving DecidableEq, Inhabited

/-- A reference that is bound to no type of its name. -/
structure DanglingReference where
  name : String
deriving DecidableEq, Inhabited

/-- The text of a reference that dangles. -/
def DanglingReference.message (d : DanglingReference) : String :=
  "No type named `" ++ d.name ++ "` is bound to this reference"

namespace Schema

/-- The type at a place. -/
def typeAt? (s : Schema) (place : Nat) : Option TypeDefinition :=
  (s.types.entryAt? place).map Prod.snd

/-- The type with a name. -/
def type? (s : Schema) (name : String) : Option TypeDefinition := s.types.get? name

/-- The place of the type with a name. -/
def place? (s : Schema) (name : String) : Option Nat := s.types.indexOf? name

/-- The directive with a name. -/
def directive? (s : Schema) (name : String) : Option DirectiveDefinition :=
  s.directives.get? name

/-- The types that are not built in, in the order in which they were defined. -/
def definedTypes (s : Schema) : List TypeDefinition :=
  s.types.values.filter fun type => !type.isBuiltIn

/-- The directives that are not built in, in the order in which they were defined. -/
def definedDirectives (s : Schema) : List DirectiveDefinition :=
  s.directives.values.filter fun directive => !directive.isBuiltIn

/-- The types of a kind, in the order in which they were defined. -/
def typesOfKind (s : Schema) (kind : Kind) : List TypeDefinition :=
  s.types.values.filter fun type => type.kind == kind

/-- The place of the type that a reference is bound to, if it has the name that the reference
mentions. -/
def resolvePlace? (s : Schema) (reference : Reference) : Option Nat :=
  (s.bindings.get? reference.symbol).filter fun place =>
    match s.types.entryAt? place with
    | some (name, _) => name == reference.name
    | none => false

/-- The type that a reference is bound to. -/
def resolve (s : Schema) (reference : Reference) : Except DanglingReference TypeDefinition :=
  match (s.resolvePlace? reference).bind s.typeAt? with
  | some type => .ok type
  | none => .error ⟨reference.name⟩

/-- The type of queries. -/
def queryType? (s : Schema) : Option TypeDefinition := s.typeAt? s.query

/-- The type of mutations. -/
def mutationType? (s : Schema) : Option TypeDefinition := s.mutation.bind s.typeAt?

/-- The type of subscriptions. -/
def subscriptionType? (s : Schema) : Option TypeDefinition := s.subscription.bind s.typeAt?

end Schema

end LinkedSchema
