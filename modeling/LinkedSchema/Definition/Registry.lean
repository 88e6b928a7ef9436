import LinkedSchema.Source.Location
import LinkedSchema.OrderedMap

/-!
# References

A `Reference` mentions a type by its name.  References are declared in a `Registry`, which
gives each of them a symbol: its number in the order of declaration.  Nothing is looked up when
a reference is declared, so types may mention each other in any order.
-/

namespace LinkedSchema

/-- A mention of a type: its name, where it is mentioned, and the symbol of the mention. -/
structure Reference where
  name : String
  location : Location
  symbol : Nat
deriving DecidableEq, Inhabited

/-- What a registry keeps of a mention. -/
structure Declaration where
  name : String
  location : Location
deriving DecidableEq, Inhabited

/-- The mentions declared so far; the symbol of a mention is its place among them. -/
structure Registry where
  declared : List Declaration
deriving DecidableEq

namespace Registry

/-- The registry without declarations. -/
def empty : Registry := ⟨[]⟩

instance : Inhabited Registry := ⟨empty⟩

/-- The number of declarations. -/
def size (r : Registry) : Nat := r.declared.length

/-- The reference that the next declaration gives. -/
def next (r : Registry) (name : String) (location : Location) : Reference :=
  ⟨name, location, r.size⟩

/-- The registry with one more declaration. -/
def declare (r : Registry) (name : String) (location : Location) : Registry :=
  ⟨r.declared ++ [⟨name, location⟩]⟩

end Registry

end LinkedSchema
