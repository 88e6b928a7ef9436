import LinkedSchema.Definition.Basic

/-!
# Bindings

Once all types are there, every reference of a registry is bound to the type of its name.  The
types of a schema stand in a table; a type is named by its place there.
-/

namespace LinkedSchema

/-- The types of a schema by name, in the order in which they were first defined. -/
abbrev TypeTable := OrderedMap String TypeDefinition

/-- The directives of a schema by name, in the order in which they were defined. -/
abbrev DirectiveTable := OrderedMap String DirectiveDefinition

/-- For every symbol the place of the type that it is bound to. -/
structure Bindings where
  places : List Nat
deriving DecidableEq, Inhabited

namespace Bindings

/-- The place of the type that a symbol is bound to. -/
def get? (b : Bindings) (symbol : Nat) : Option Nat := b.places[symbol]?

/-- The number of symbols. -/
def size (b : Bindings) : Nat := b.places.length

end Bindings

namespace Registry

/-- The declarations that name no type. -/
def undefined (r : Registry) (types : TypeTable) : List Declaration :=
  r.declared.filter fun declaration => (types.indexOf? declaration.name).isNone

/-- Binds every symbol to the type of its name; every declaration that names no type is a
fault. -/
def bind (r : Registry) (types : TypeTable) : Except (List Fault) Bindings :=
  if (r.undefined types).isEmpty then
    .ok ⟨r.declared.filterMap fun declaration => types.indexOf? declaration.name⟩
  else
    .error ((r.undefined types).map fun declaration =>
      .undefinedType declaration.name declaration.location)

end Registry

end LinkedSchema
