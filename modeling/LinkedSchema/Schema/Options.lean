/-!
# Options

How linking a schema may be tuned.
-/

namespace LinkedSchema

/-- How a class of faults is taken: it fails the schema, or it does not count. -/
inductive Severity where
  | error
  | warn
deriving DecidableEq, Inhabited

/-- The options of a schema; `misplacedDirective` is for directives at sites that their
definitions do not list. -/
structure Options where
  misplacedDirective : Severity := .error
deriving DecidableEq, Inhabited

end LinkedSchema
