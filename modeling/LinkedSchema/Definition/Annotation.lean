import LinkedSchema.Fault

/-!
# Annotations

An `Annotation` is a directive applied to a definition.  It remembers the site at which it
stands and the definitions around the definition that it is applied to.  Two directives have a
meaning of their own: `@bind`, which gives a definition an external name and is never kept as
an annotation, and `@deprecated`, which gives a reason for deprecation.
-/

namespace LinkedSchema

open Document (AppliedDirective)

/-- A directive applied to a definition. -/
structure Annotation where
  name : String
  arguments : OrderedMap String Value
  site : Site
  ancestry : Path
  location : Location
deriving DecidableEq, Inhabited

/-- The name of the directive that gives a definition an external name. -/
def bindName : String := "bind"

/-- The name of the directive that deprecates a definition. -/
def deprecatedName : String := "deprecated"

/-- The reason of a deprecation that gives none. -/
def defaultReason : String := "No longer supported"

namespace Annotation

/-- The annotation that an applied directive makes on a definition at `owner`. -/
def ofApplied (owner : Location) (site : Site) (ancestry : Path) (d : AppliedDirective) :
    Annotation where
  name := d.name
  arguments := OrderedMap.ofList d.arguments
  site := site
  ancestry := ancestry
  location := owner.moveTo d.position

/-- The annotations that applied directives make on a definition at `owner`: all of them but
bindings, in order. -/
def ofDirectives (owner : Location) (site : Site) (ancestry : Path)
    (directives : List AppliedDirective) : List Annotation :=
  (directives.filter (fun d => d.name != bindName)).map (ofApplied owner site ancestry)

end Annotation

/-! ### Bindings -/

/-- The text given to a binding: its only argument, which must be called `to`. -/
def bindingText? : List (String × Value) → Option String
  | [(name, .string text)] => if name = "to" then some text else none
  | _ => none

/-- The external name that applied directives give to a definition at `owner`, with the faults
in them: the first binding counts, and no other may follow. -/
def bindingOf (owner : Location) (directives : List AppliedDirective) :
    Option String × List Fault :=
  match directives.filter (fun d => d.name == bindName) with
  | [] => (none, [])
  | first :: others =>
    let repeated := others.map fun d =>
      Fault.repeatedDirective bindName (owner.moveTo d.position)
    match bindingText? first.arguments with
    | some text => (some text, repeated)
    | none => (none, .invalidBinding (owner.moveTo first.position) :: repeated)

/-! ### Deprecation -/

/-- The reason that the arguments of a deprecation give: the default one if there is none or it
is null, and no deprecation if it is not a text or empty. -/
def reasonOf (reason : Option Value) : Option String :=
  match reason with
  | none | some .null => some defaultReason
  | some (.string text) => if text = "" then none else some text
  | some _ => none

/-- The reason for deprecation that applied directives give; of several deprecations, and of
several reasons in one of them, the first counts. -/
def deprecationOf (directives : List AppliedDirective) : Option String :=
  (directives.find? (fun d => d.name == deprecatedName)).bind fun d =>
    reasonOf (OrderedMap.lookup "reason" d.arguments)

end LinkedSchema
