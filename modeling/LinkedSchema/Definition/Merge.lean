import LinkedSchema.Definition.Basic

/-!
# Merging extensions

`TypeDefinition.absorb` adds the members of an extension to a type in place.  All conflicts
between the two are found first: either the extension is absorbed as a whole, or the type stays as
it is and the conflicts are given.  `TypeDefinition.merge` is the extended type alone, for those who
do not need the type after a merge that fails.
-/

namespace LinkedSchema

namespace TypeDefinition

/-- Whether a directive may be applied both to a type and to its extension.  A directive that
is not defined may: that it is undefined is found elsewhere. -/
def mayRepeat (directives : OrderedMap String DirectiveDefinition) (name : String) : Bool :=
  match directives.get? name with
  | none => true
  | some directive => directive.repeatable

/-- The conflicts of the directives of an extension with those of a type. -/
def directiveConflicts (directives : OrderedMap String DirectiveDefinition)
    (base extension : TypeDefinition) : List Fault :=
  extension.directives.filterMap fun annotation =>
    if mayRepeat directives annotation.name then none
    else
      (base.directives.find? (fun other => other.name == annotation.name)).map fun other =>
        .directiveConflict base.name annotation.name other.location annotation.location

/-- The conflicts of the members of an extension with those of a type: the names that both
have. -/
def memberConflicts {δ : Type} (location : δ → Location)
    (conflict : String → Location → Location → Fault) (base extension : OrderedMap String δ) :
    List Fault :=
  extension.entries.filterMap fun (name, member) =>
    (base.get? name).map fun other => conflict name (location other) (location member)

/-- All conflicts of an extension with a type of the same name and kind. -/
def conflicts (directives : OrderedMap String DirectiveDefinition)
    (base extension : TypeDefinition) : List Fault :=
  directiveConflicts directives base extension
    ++ memberConflicts FieldDefinition.location (.fieldConflict base.name)
      base.fields extension.fields
    ++ memberConflicts InputDefinition.location (.fieldConflict base.name)
      base.inputFields extension.inputFields
    ++ memberConflicts EnumValueDefinition.location (.enumValueConflict base.name)
      base.enumValues extension.enumValues

/-- References followed by those of others whose names are not there yet. -/
def addNew (references : List Reference) : List Reference → List Reference
  | [] => references
  | other :: rest =>
    if references.any (fun reference => reference.name == other.name) then addNew references rest
    else addNew (references ++ [other]) rest

/-- A type with the members of an extension added after its own.  Its description stays, and
so does its external name if it has one. -/
def extendWith (base extension : TypeDefinition) : TypeDefinition :=
  { base with
    bindTo := base.bindTo.or extension.bindTo
    directives := base.directives ++ extension.directives
    interfaces := addNew base.interfaces extension.interfaces
    members := addNew base.members extension.members
    fields := base.fields.insertAll extension.fields.entries
    inputFields := base.inputFields.insertAll extension.inputFields.entries
    enumValues := base.enumValues.insertAll extension.enumValues.entries }

/-- Merges an extension into a type in place: the type afterwards, and the faults if the merge
fails. -/
def absorb (directives : OrderedMap String DirectiveDefinition)
    (base extension : TypeDefinition) : TypeDefinition × Except (List Fault) Unit :=
  if base.name ≠ extension.name then
    (base, .error [.nameMismatch base.name extension.name extension.location])
  else if base.kind ≠ extension.kind then
    (base, .error [.kindMismatch base.name base.kind extension.kind extension.location])
  else if (conflicts directives base extension).isEmpty then (base.extendWith extension, .ok ())
  else (base, .error (conflicts directives base extension))

/-- The type into which an extension has been merged, or the faults if the merge fails. -/
def merge (directives : OrderedMap String DirectiveDefinition)
    (base extension : TypeDefinition) : Except (List Fault) TypeDefinition :=
  let (type, result) := base.absorb directives extension
  result.map fun () => type

end TypeDefinition

end LinkedSchema
