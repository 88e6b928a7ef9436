import LinkedSchema.Proofs.Linking.Assembly

/-!
# Associativity

Merging is associative (`TypeDefinition.merge_assoc`): extensions can be merged into a type one
after another if and only if they can be merged into each other first, and the type that they make
is the same.  Both orders succeed if and only if all parts have one name and one kind and no two of
them conflict (`TypeDefinition.accepts_extendWith_iff`).  Parts that do not conflict make the same
type in both orders (`TypeDefinition.extendWith_extendWith`): their members stand one after another,
and of several references of one name the first is kept, wherever the others come from.
-/

namespace LinkedSchema

namespace OrderedMap

variable {ν : Type} {m added more : OrderedMap String ν}

/-- Entries may be inserted into a map after others, or among these first, if neither the map nor
the others have one of their keys. -/
theorem insertAll_insertAll (apart : m.keys.Disjoint more.keys)
    (apart_added : added.keys.Disjoint more.keys) :
  m.insertAll (added.insertAll more.entries).entries
    = (m.insertAll added.entries).insertAll more.entries
  := by
  have both : ∀ key ∈ more.keys, key ∉ (m.insertAll added.entries).keys := by
    intro key new old
    rcases (mem_keys_insertAll m added.entries key).mp old with own | other
    · apply apart own new
    · apply apart_added other new
  have made : ∀ key ∈ (ofList more.entries).keys, key ∈ more.keys := by
    intro key member
    apply ((mem_keys_insertAll empty more.entries key).mp member).resolve_left
    exact List.not_mem_nil
  have first := entries_insertAll_eq fun key new old => apart_added old new
  have last := entries_insertAll_eq both
  have between := entries_insertAll_eq fun key new => both key (made key new)
  rw [ofList_entries_ofList] at between
  apply congrArg mk
  calc (m.insertAll (added.insertAll more.entries).entries).entries
    _ = (m.insertAll (added.entries ++ (ofList more.entries).entries)).entries := by rw [first]
    _ = ((m.insertAll added.entries).insertAll (ofList more.entries).entries).entries := by
      rw [insertAll, List.foldl_append]
      rfl
    _ = ((m.insertAll added.entries).insertAll more.entries).entries := by rw [between, last]

end OrderedMap

namespace TypeDefinition

/-- References may be added to others after some more, or to these first. -/
theorem addNew_addNew (references others more : List Reference) :
  addNew references (addNew others more) = addNew (addNew references others) more
  := by
  induction more generalizing others with
  | nil => rfl
  | cons reference rest ih =>
    rw [← List.singleton_append, addNew_append others, addNew_append, ih]
    congr 1
    by_cases there : reference.name ∈ others.map Reference.name
    · have kept := (mem_map_name_addNew references others reference.name).mpr (.inr there)
      have known : others.any fun other => other.name == reference.name := by simpa using there
      have known_after : (addNew references others).any fun other => other.name == reference.name :=
        by simpa using kept
      rw [addNew, if_pos known, addNew, addNew, if_pos known_after, addNew]
    · have unknown : ¬ others.any fun other => other.name == reference.name := by simpa using there
      rw [addNew, if_neg unknown, addNew, addNew_append]

variable {directives : DirectiveTable}

theorem apart_comm (part other : TypeDefinition) :
  Apart directives part other ↔ Apart directives other part
  := by
  have symm {part other : TypeDefinition} (h : Apart directives part other) :
      Apart directives other part := by
    obtain ⟨once, fields, inputFields, values⟩ := (apart_iff directives part other).mp h
    apply (apart_iff directives other part).mpr
    exact ⟨List.disjoint_symm once, List.disjoint_symm fields, List.disjoint_symm inputFields,
      List.disjoint_symm values⟩
  exact ⟨symm, symm⟩

/-- Two extensions are accepted one after the other if and only if the second is accepted by the
first and their merge is accepted. -/
theorem accepts_extendWith_iff (base extension other : TypeDefinition) :
  Accepts directives base extension ∧ Accepts directives (base.extendWith extension) other
    ↔ Accepts directives extension other ∧ Accepts directives base (extension.extendWith other)
  := by
  have heading (type part : TypeDefinition) :
      (type.extendWith part).name = type.name ∧ (type.extendWith part).kind = type.kind :=
    ⟨rfl, rfl⟩
  have apart_right : Apart directives base (extension.extendWith other)
      ↔ Apart directives base extension ∧ Apart directives base other := by
    rw [apart_comm, apart_extendWith_iff, apart_comm extension, apart_comm other]
  simp only [accepts_iff, heading, apart_extendWith_iff, apart_right]
  grind

/-- A type is extended by a merge of two extensions as it is by one after the other, if the second
conflicts neither with the type nor with the first. -/
theorem extendWith_extendWith {base extension other : TypeDefinition}
    (apart : Apart directives base other) (apart_extension : Apart directives extension other) :
  base.extendWith (extension.extendWith other) = (base.extendWith extension).extendWith other
  := by
  obtain ⟨-, fields, inputFields, values⟩ := (apart_iff directives _ _).mp apart
  obtain ⟨-, fields', inputFields', values'⟩ := (apart_iff directives _ _).mp apart_extension
  simp only [extendWith, Option.or_assoc, List.append_assoc, addNew_addNew,
    OrderedMap.insertAll_insertAll fields fields',
    OrderedMap.insertAll_insertAll inputFields inputFields',
    OrderedMap.insertAll_insertAll values values']

/-- Merging is associative: extensions can be merged into a type one after the other if and only if
the second can be merged into the first and their merge into the type, and the type that they make
is the same in every component. -/
theorem merge_assoc (directives : DirectiveTable)
    (base extension other result : TypeDefinition) :
  (∃ extended, base.merge directives extension = .ok extended
      ∧ extended.merge directives other = .ok result)
    ↔ ∃ merged, extension.merge directives other = .ok merged
      ∧ base.merge directives merged = .ok result
  := by
  constructor
  · rintro ⟨_, first, second⟩
    obtain ⟨accepted, rfl⟩ := merge_eq_ok_iff.mp first
    obtain ⟨accepted_after, rfl⟩ := merge_eq_ok_iff.mp second
    obtain ⟨accepted_first, accepts⟩ :=
      (accepts_extendWith_iff base extension other).mp ⟨accepted, accepted_after⟩
    obtain ⟨apart, apart_extension⟩ :=
      (apart_extendWith_iff directives _ _ _).mp accepted_after.conflicts
    use extension.extendWith other, merge_of_accepts accepted_first
    rw [merge_of_accepts accepts, extendWith_extendWith apart apart_extension]
  · rintro ⟨_, first, second⟩
    obtain ⟨accepted_first, rfl⟩ := merge_eq_ok_iff.mp first
    obtain ⟨accepts, rfl⟩ := merge_eq_ok_iff.mp second
    obtain ⟨accepted, accepted_after⟩ :=
      (accepts_extendWith_iff base extension other).mpr ⟨accepted_first, accepts⟩
    obtain ⟨apart, apart_extension⟩ :=
      (apart_extendWith_iff directives _ _ _).mp accepted_after.conflicts
    use base.extendWith extension, merge_of_accepts accepted
    rw [merge_of_accepts accepted_after, extendWith_extendWith apart apart_extension]

end TypeDefinition

end LinkedSchema
