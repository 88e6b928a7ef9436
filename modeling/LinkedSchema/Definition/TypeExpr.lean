/-!
# Type expressions

A `TypeExpr ρ` is the declared type of a field or an argument: a named type, wrapped any number
of times as a list or as non-null.  The named type is given by a `ρ`: a name in a document, and
a reference in a definition.
-/

namespace LinkedSchema

/-- A declared type over named types given by `ρ`. -/
inductive TypeExpr (ρ : Type) where
  | named (ref : ρ)
  | list (inner : TypeExpr ρ)
  | nonNull (inner : TypeExpr ρ)
deriving DecidableEq, Inhabited

namespace TypeExpr

variable {ρ σ : Type}

/-- The named type within all wrappers. -/
def innermost : TypeExpr ρ → ρ
  | named ref => ref
  | list inner | nonNull inner => inner.innermost

/-- The same wrappers around another named type. -/
def map (f : ρ → σ) : TypeExpr ρ → TypeExpr σ
  | named ref => named (f ref)
  | list inner => list (inner.map f)
  | nonNull inner => nonNull (inner.map f)

/-- Whether the type is a list, non-null or not. -/
def isList : TypeExpr ρ → Bool
  | named _ => false
  | list _ => true
  | nonNull inner => inner.isList

/-- Whether the type admits null. -/
def isNullable : TypeExpr ρ → Bool
  | nonNull _ => false
  | named _ | list _ => true

/-- The text of a type whose named types have the names given by `name`. -/
def text (name : ρ → String) : TypeExpr ρ → String
  | named ref => name ref
  | list inner => "[" ++ inner.text name ++ "]"
  | nonNull inner => inner.text name ++ "!"

theorem innermost_map (f : ρ → σ) (t : TypeExpr ρ) :
  (t.map f).innermost = f t.innermost
  := by induction t <;> simp_all [map, innermost]

end TypeExpr

end LinkedSchema
