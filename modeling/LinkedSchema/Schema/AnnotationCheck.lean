import LinkedSchema.Schema.Bindings
import LinkedSchema.Schema.Options

/-!
# Checking annotations

Every annotation must name a directive that is defined and may stand at its site, and a
directive that may not be repeated must be applied at most once to one definition.
-/

namespace LinkedSchema

namespace AnnotationCheck

/-- The fault of a directive at a site that its definition does not list. -/
def misplaced (severity : Severity) (directive : DirectiveDefinition) (applied : Annotation) :
    List Fault :=
  if directive.allows applied.site then []
  else
    match severity with
    | .warn => []
    | .error =>
      [.misplacedDirective applied.name applied.site applied.ancestry directive.sites
        applied.location]

/-- The faults of the annotations of one definition; `seen` holds the names of the directives
among those before them that may not be repeated. -/
def definitionFaults (directives : DirectiveTable) (severity : Severity) :
    (seen : List String) → List Annotation → List Fault
  | _, [] => []
  | seen, applied :: rest =>
    match directives.get? applied.name with
    | none =>
      .undefinedDirective applied.name applied.location
        :: definitionFaults directives severity seen rest
    | some directive =>
      misplaced severity directive applied ++
        (if directive.repeatable then definitionFaults directives severity seen rest
        else if seen.contains applied.name then
          .repeatedDirective applied.name applied.location
            :: definitionFaults directives severity seen rest
        else definitionFaults directives severity (seen ++ [applied.name]) rest)

/-- The annotations of the members of a type and of the type itself, definition by
definition. -/
def annotationLists (type : TypeDefinition) : List (List Annotation) :=
  type.directives
    :: type.fields.values.flatMap (fun field =>
      field.directives :: field.arguments.values.map InputDefinition.directives)
    ++ type.inputFields.values.map InputDefinition.directives
    ++ type.enumValues.values.map EnumValueDefinition.directives

/-- The faults of all annotations: those of the types, then those of the arguments of
directives. -/
def faults (directives : DirectiveTable) (severity : Severity) (types : TypeTable) :
    List Fault :=
  (types.values.flatMap annotationLists
    ++ directives.values.flatMap fun directive =>
      directive.arguments.values.map InputDefinition.directives).flatMap
    (definitionFaults directives severity [])

end AnnotationCheck

end LinkedSchema
