import LinkedSchema.Value
import Mathlib.Tactic.Use

/-!
# Parts of values

A value occurs in another one if it is this value, or occurs in an item of a list or under a key of
an object (`Value.Occurs`).  What is said of all parts of a value is said of it and of all parts of
its items or entries (`Value.Everywhere.list_iff`, `Value.Everywhere.object_iff`), and what holds of
a list and of an object if it holds of their members holds of all values (`Value.ofMembers`).
-/

namespace LinkedSchema.Value

/-! ### Induction -/

/-- What holds of a list and of an object if it holds of their members holds of all values. -/
@[induction_eliminator]
theorem ofMembers {motive : Value → Prop} (bool : ∀ value, motive (.bool value))
    (enum : ∀ name, motive (.enum name)) (float : ∀ value, motive (.float value))
    (int : ∀ value, motive (.int value))
    (list : ∀ items, (∀ item ∈ items, motive item) → motive (.list items))
    (null : motive .null)
    (object : ∀ entries, (∀ entry ∈ entries, motive entry.2) → motive (.object entries))
    (string : ∀ value, motive (.string value))
    (variableRef : ∀ name, motive (.variableRef name)) (v : Value) :
  motive v
  := by
  match v with
  | .bool value => apply bool
  | .enum name => apply enum
  | .float value => apply float
  | .int value => apply int
  | .list items =>
    apply list
    intro item member
    exact ofMembers bool enum float int list null object string variableRef item
  | .null => apply null
  | .object entries =>
    apply object
    intro entry member
    exact ofMembers bool enum float int list null object string variableRef entry.2
  | .string value => apply string
  | .variableRef name => apply variableRef
termination_by v
decreasing_by
  · have smaller := List.sizeOf_lt_of_mem member
    simp only [Value.list.sizeOf_spec]
    omega
  · have smaller := List.sizeOf_lt_of_mem member
    have inside : sizeOf entry.2 < sizeOf entry := by
      obtain ⟨key, value⟩ := entry
      simp only [Prod.mk.sizeOf_spec]
      omega
    simp only [Value.object.sizeOf_spec]
    omega

/-! ### Occurrences -/

/-- Whether a value occurs in another one: it is this value, or occurs in an item or an entry. -/
inductive Occurs : Value → Value → Prop
  | self (v : Value) : Occurs v v
  | item {v item : Value} {items : List Value} :
      item ∈ items → Occurs v item → Occurs v (.list items)
  | entry {v : Value} {entry : String × Value} {entries : List (String × Value)} :
      entry ∈ entries → Occurs v entry.2 → Occurs v (.object entries)

/-- Whether something is so of all values that occur in a value. -/
def Everywhere (P : Value → Prop) (v : Value) : Prop := ∀ part, Occurs part v → P part

variable {P : Value → Prop}

theorem Everywhere.self {v : Value} (h : v.Everywhere P) :
  P v
  := h v (.self v)

/-- Something is so everywhere in a list if it is so of the list and everywhere in its items. -/
theorem Everywhere.list_iff {items : List Value} :
  (list items).Everywhere P ↔ P (.list items) ∧ ∀ item ∈ items, item.Everywhere P
  := by
  constructor
  · intro h
    use h.self
    intro item member part occurs
    apply h part (.item member occurs)
  · rintro ⟨here, there⟩ part occurs
    cases occurs with
    | self => apply here
    | item member occurs => apply there _ member part occurs

/-- Something is so everywhere in an object if it is so of the object and everywhere in its
entries. -/
theorem Everywhere.object_iff {entries : List (String × Value)} :
  (object entries).Everywhere P ↔ P (.object entries) ∧ ∀ entry ∈ entries, entry.2.Everywhere P
  := by
  constructor
  · intro h
    use h.self
    intro entry member part occurs
    apply h part (.entry member occurs)
  · rintro ⟨here, there⟩ part occurs
    cases occurs with
    | self => apply here
    | entry member occurs => apply there _ member part occurs

/-- Something is so everywhere in a value that is neither a list nor an object if it is so of the
value. -/
theorem Everywhere.of_atom {v : Value} (no_list : ∀ items, v ≠ list items)
    (no_object : ∀ entries, v ≠ object entries) (holds : P v) :
  v.Everywhere P
  := by
  intro part occurs
  cases occurs with
  | self => apply holds
  | item => exact absurd rfl (no_list _)
  | entry => exact absurd rfl (no_object _)

/-- Whether no key stands twice in a value, its parts apart. -/
def Tabled : Value → Prop
  | object entries => (entries.map Prod.fst).Nodup
  | _ => True

end LinkedSchema.Value
