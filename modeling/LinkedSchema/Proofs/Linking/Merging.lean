import LinkedSchema.Proofs.Building.Descriptions
import LinkedSchema.Proofs.Linking.Phases
import Mathlib.Data.List.Nodup

/-!
# Merging

Extensions are merged into the types of a table without a fault if and only if every one of them
has a type of its name and kind in the table, and no two parts of one type conflict
(`Loader.foldl_mergeExtension`, `TypeDefinition.acceptsAll_iff`).  A type that is merged from parts
that do not conflict has the mentions and the annotations of all its parts
(`TypeDefinition.mem_mentions_extendAll`, `TypeDefinition.mem_memberMarks_extendAll`,
`TypeDefinition.marks_extendAll`).
-/

namespace LinkedSchema

/-- No member of a list that is chosen stands twice if and only if each of them is counted at most
once. -/
theorem nodup_filter_iff {α : Type} [BEq α] [LawfulBEq α] (p : α → Bool) (list : List α) :
  (list.filter p).Nodup ↔ ∀ a, p a → list.count a ≤ 1
  := by
  rw [List.nodup_iff_count_le_one]
  constructor
  · intro distinct a chosen
    rw [← List.count_filter chosen]
    apply distinct
  · intro once a
    by_cases chosen : p a
    · rw [List.count_filter chosen]
      apply once a chosen
    · rw [List.count_eq_zero_of_not_mem]
      · apply Nat.zero_le
      · simp [chosen]

namespace OrderedMap

variable {ν : Type}

/-- The keys after insertions are those before them and those inserted. -/
theorem mem_keys_insertAll (m : OrderedMap String ν) (added : List (String × ν)) (key : String) :
  key ∈ (m.insertAll added).keys ↔ key ∈ m.keys ∨ key ∈ added.map Prod.fst
  := by
  induction added generalizing m with
  | nil => simp [insertAll]
  | cons entry rest ih =>
    rw [insertAll, List.foldl_cons, ← insertAll, ih, keys_insert]
    split
    · next there =>
      rw [List.map_cons, List.mem_cons, ← or_assoc]
      grind
    · rw [List.mem_append, List.mem_singleton, List.map_cons, List.mem_cons, or_assoc]

/-- The values after entries with new and distinct keys are added are those before and those
added. -/
theorem values_insertAll {m added : OrderedMap String ν} (distinct : added.keys.Nodup)
    (apart : m.keys.Disjoint added.keys) :
  (m.insertAll added.entries).values = m.values ++ added.values
  := by
  rw [values, entries_insertAll distinct, List.map_append, values, values]
  intro key new old
  apply apart old new

end OrderedMap

namespace TypeDefinition

variable (directives : DirectiveTable)

/-! ### Parts that do not conflict -/

/-- Whether two parts of a type conflict in nothing. -/
def Apart (part other : TypeDefinition) : Prop := conflicts directives part other = []

/-- The names of the directives applied to a type that may not be applied again. -/
def onceApplied (type : TypeDefinition) : List String :=
  (type.directives.map Annotation.name).filter fun name => !mayRepeat directives name

/-- A directive may not be repeated if and only if it is defined so. -/
theorem mayRepeat_eq_false_iff (name : String) :
  mayRepeat directives name = false
    ↔ ∃ directive, directives.get? name = some directive ∧ directive.repeatable = false
  := by
  rw [mayRepeat]
  cases directives.get? name <;> simp

/-- Members conflict in nothing if and only if their names are disjoint. -/
theorem memberConflicts_eq_nil_iff {δ : Type} (location : δ → Location)
    (conflict : String → Location → Location → Fault) (part other : OrderedMap String δ) :
  memberConflicts location conflict part other = [] ↔ part.keys.Disjoint other.keys
  := by
  simp only [memberConflicts, List.filterMap_eq_nil_iff, Option.map_eq_none_iff,
    OrderedMap.get?_eq_none_iff, List.disjoint_right, OrderedMap.keys, List.forall_mem_map]

/-- Directives conflict in nothing if and only if those that may not be applied again are
disjoint. -/
theorem directiveConflicts_eq_nil_iff (part other : TypeDefinition) :
  directiveConflicts directives part other = []
    ↔ (part.onceApplied directives).Disjoint (other.onceApplied directives)
  := by
  simp only [directiveConflicts, List.filterMap_eq_nil_iff, ite_eq_left_iff, Option.map_eq_none_iff,
    List.find?_eq_none, beq_iff_eq, List.disjoint_right, onceApplied, List.mem_filter,
    List.mem_map, Bool.not_eq_true', and_imp, forall_exists_index, forall_apply_eq_imp_iff₂,
    not_and, Bool.not_eq_true]
  grind

/-- Two parts conflict in nothing if and only if their members and the directives that may not be
applied again are disjoint. -/
theorem apart_iff (part other : TypeDefinition) :
  Apart directives part other
    ↔ (part.onceApplied directives).Disjoint (other.onceApplied directives)
      ∧ part.fields.keys.Disjoint other.fields.keys
      ∧ part.inputFields.keys.Disjoint other.inputFields.keys
      ∧ part.enumValues.keys.Disjoint other.enumValues.keys
  := by
  simp only [Apart, conflicts, List.append_eq_nil_iff, memberConflicts_eq_nil_iff,
    directiveConflicts_eq_nil_iff, and_assoc]

/-- An extension is accepted if and only if it has the name and the kind of the type, and they
conflict in nothing. -/
theorem accepts_iff (base extension : TypeDefinition) :
  Accepts directives base extension
    ↔ base.name = extension.name ∧ base.kind = extension.kind ∧ Apart directives base extension
  := ⟨fun h => ⟨h.name, h.kind, h.conflicts⟩, fun h => ⟨h.1, h.2.1, h.2.2⟩⟩

/-- An extended type has the directives of the type and of its extension, in order. -/
theorem onceApplied_extendWith (base extension : TypeDefinition) :
  (base.extendWith extension).onceApplied directives
    = base.onceApplied directives ++ extension.onceApplied directives
  := by
  rw [onceApplied, extendWith, List.map_append, List.filter_append]
  rfl

/-- A type conflicts in nothing with what neither it nor its extension did. -/
theorem apart_extendWith_iff (base extension other : TypeDefinition) :
  Apart directives (base.extendWith extension) other
    ↔ Apart directives base other ∧ Apart directives extension other
  := by
  have keys : ∀ {ν : Type} (m added : OrderedMap String ν) (names : List String),
      (m.insertAll added.entries).keys.Disjoint names
        ↔ m.keys.Disjoint names ∧ added.keys.Disjoint names := by
    intro ν m added names
    simp only [List.disjoint_left, OrderedMap.mem_keys_insertAll, or_imp, forall_and]
    rfl
  rw [apart_iff, apart_iff, apart_iff, onceApplied_extendWith, List.disjoint_append_left]
  simp only [extendWith, keys]
  tauto

/-! ### Extending a type with several extensions -/

/-- A type with all of its extensions. -/
def extendAll (base : TypeDefinition) (extensions : List TypeDefinition) : TypeDefinition :=
  extensions.foldl extendWith base

/-- Whether extensions can be merged into a type one after another. -/
def AcceptsAll : TypeDefinition → List TypeDefinition → Prop
  | _, [] => True
  | base, extension :: rest =>
    Accepts directives base extension ∧ AcceptsAll (base.extendWith extension) rest

/-- Extensions can be merged one after another if and only if all have the name and the kind of
the type, and no two parts conflict. -/
theorem acceptsAll_iff (base : TypeDefinition) (extensions : List TypeDefinition) :
  AcceptsAll directives base extensions
    ↔ (∀ extension ∈ extensions, base.name = extension.name ∧ base.kind = extension.kind)
      ∧ (base :: extensions).Pairwise (Apart directives)
  := by
  induction extensions generalizing base with
  | nil => simp [AcceptsAll]
  | cons extension rest ih =>
    rw [AcceptsAll, accepts_iff, ih]
    simp only [List.pairwise_cons, List.forall_mem_cons, apart_extendWith_iff, forall_and]
    change _ ∧ ((∀ other ∈ rest, base.name = other.name) ∧ _) ∧ _ ↔ _
    tauto

/-- Whether no name stands twice among the members of a type. -/
structure Distinct (type : TypeDefinition) : Prop where
  fields : type.fields.keys.Nodup
  inputFields : type.inputFields.keys.Nodup
  values : type.enumValues.keys.Nodup

/-- References to which others are added have the names of both. -/
theorem mem_map_name_addNew (references others : List Reference) (name : String) :
  name ∈ (addNew references others).map Reference.name
    ↔ name ∈ references.map Reference.name ∨ name ∈ others.map Reference.name
  := by
  induction others generalizing references with
  | nil => simp [addNew]
  | cons other rest ih =>
    rw [addNew, List.map_cons, List.mem_cons]
    split
    · next there =>
      have named : other.name ∈ references.map Reference.name := by simpa using there
      rw [ih]
      grind
    · rw [ih, List.map_append, List.mem_append, List.map_singleton, List.mem_singleton, or_assoc]

section ExtendWith

variable {directives} {base extension : TypeDefinition} (apart : Apart directives base extension)
  (distinct : extension.Distinct)

include apart distinct

/-- An extended type has the mentions of the type and of its extension. -/
theorem mem_mentions_extendWith (mention : Role × String) :
  mention ∈ (base.extendWith extension).mentions
    ↔ mention ∈ base.mentions ∨ mention ∈ extension.mentions
  := by
  obtain ⟨-, fields, inputFields, -⟩ := (apart_iff directives _ _).mp apart
  have references : ∀ (role : Role) (others more : List Reference),
      mention ∈ ((addNew others more).map Reference.name).map (fun name => (role, name))
        ↔ mention ∈ (others.map Reference.name).map (fun name => (role, name))
          ∨ mention ∈ (more.map Reference.name).map (fun name => (role, name)) := by
    intro role others more
    simp only [List.mem_map (l := List.map _ _), mem_map_name_addNew, or_and_right, exists_or]
  simp only [mentions, List.mem_append, extendWith, references,
    OrderedMap.values_insertAll distinct.fields fields,
    OrderedMap.values_insertAll distinct.inputFields inputFields, List.flatMap_append,
    List.map_append]
  tauto

/-- The members of an extended type have the annotations of those of the type and of its
extension. -/
theorem mem_memberMarks_extendWith (list : List (String × Site)) :
  list ∈ (base.extendWith extension).memberMarks
    ↔ list ∈ base.memberMarks ∨ list ∈ extension.memberMarks
  := by
  obtain ⟨-, fields, inputFields, values⟩ := (apart_iff directives _ _).mp apart
  simp only [memberMarks, List.mem_append, extendWith,
    OrderedMap.values_insertAll distinct.fields fields,
    OrderedMap.values_insertAll distinct.inputFields inputFields,
    OrderedMap.values_insertAll distinct.values values, List.flatMap_append, List.map_append]
  tauto

end ExtendWith

theorem kind_extendAll (base : TypeDefinition) (extensions : List TypeDefinition) :
  (base.extendAll extensions).kind = base.kind
  := by
  induction extensions generalizing base with
  | nil => rfl
  | cons extension rest ih => apply ih

/-- A type with all of its extensions has the annotations of all of them, in order. -/
theorem marks_extendAll (base : TypeDefinition) (extensions : List TypeDefinition) :
  (base.extendAll extensions).marks = (base :: extensions).flatMap marks
  := by
  induction extensions generalizing base with
  | nil => simp [extendAll]
  | cons extension rest ih =>
    apply (ih (base.extendWith extension)).trans
    simp only [List.flatMap_cons, marks, extendWith, List.map_append, List.append_assoc]

section ExtendAll

variable {directives} {base : TypeDefinition} {extensions : List TypeDefinition}
  (apart : (base :: extensions).Pairwise (Apart directives))
  (distinct : ∀ extension ∈ extensions, extension.Distinct)

include apart distinct

/-- What the parts of a type have, one at a time, the type with all of its extensions has. -/
theorem mem_extendAll {α : Type} (f : TypeDefinition → List α)
    (step : ∀ {base extension : TypeDefinition}, Apart directives base extension →
      extension.Distinct → ∀ a, a ∈ f (base.extendWith extension) ↔ a ∈ f base ∨ a ∈ f extension)
    (a : α) :
  a ∈ f (base.extendAll extensions) ↔ ∃ part ∈ base :: extensions, a ∈ f part
  := by
  induction extensions generalizing base with
  | nil => simp [extendAll]
  | cons extension rest ih =>
    obtain ⟨first, others⟩ := List.pairwise_cons.mp apart
    have rest_apart : (base.extendWith extension :: rest).Pairwise (Apart directives) := by
      obtain ⟨second, others⟩ := List.pairwise_cons.mp others
      apply List.pairwise_cons.mpr ⟨_, others⟩
      intro other member
      rw [apart_extendWith_iff]
      exact ⟨first other (List.mem_cons_of_mem _ member), second other member⟩
    have rest_distinct := fun other member => distinct other (List.mem_cons_of_mem _ member)
    apply (ih rest_apart rest_distinct).trans
    have two := step (first extension List.mem_cons_self) (distinct extension List.mem_cons_self) a
    simp only [List.mem_cons, exists_eq_or_imp, two, or_assoc]

/-- A type with all of its extensions has the mentions of all of them. -/
theorem mem_mentions_extendAll (mention : Role × String) :
  mention ∈ (base.extendAll extensions).mentions
    ↔ ∃ part ∈ base :: extensions, mention ∈ part.mentions
  := by
  apply mem_extendAll apart distinct mentions
  intro base extension apart distinct
  apply mem_mentions_extendWith apart distinct

/-- The members of a type with all of its extensions have the annotations of those of all of
them. -/
theorem mem_memberMarks_extendAll (list : List (String × Site)) :
  list ∈ (base.extendAll extensions).memberMarks
    ↔ ∃ part ∈ base :: extensions, list ∈ part.memberMarks
  := by
  apply mem_extendAll apart distinct memberMarks
  intro base extension apart distinct
  apply mem_memberMarks_extendWith apart distinct

end ExtendAll

end TypeDefinition

/-! ### Merging extensions into a table -/

namespace Loader

/-- The extensions of a name. -/
def extensionsOf (extensions : List TypeDefinition) (name : String) : List TypeDefinition :=
  extensions.filter fun extension => extension.name = name

/-- Whether extensions can all be merged into the types of a table. -/
def Mergeable (directives : DirectiveTable) (types : TypeTable) (extensions : List TypeDefinition) :
    Prop :=
  (∀ extension ∈ extensions, extension.name ∈ types.keys)
    ∧ ∀ name base, types.get? name = some base →
      base.AcceptsAll directives (extensionsOf extensions name)

theorem extensionsOf_cons_self (extension : TypeDefinition) (rest : List TypeDefinition) :
  extensionsOf (extension :: rest) extension.name = extension :: extensionsOf rest extension.name
  := by simp [extensionsOf]

theorem extensionsOf_cons_of_ne {extension : TypeDefinition} {name : String}
    (other : name ≠ extension.name) (rest : List TypeDefinition) :
  extensionsOf (extension :: rest) name = extensionsOf rest name
  := by simp [extensionsOf, Ne.symm other]

/-- Extensions can be merged into a table if and only if the type of the name of the first one
accepts it, and the others can be merged into the table with that type extended. -/
theorem mergeable_cons_iff {directives : DirectiveTable} {types : TypeTable}
    {extension base : TypeDefinition} (found : types.get? extension.name = some base)
    (rest : List TypeDefinition) :
  Mergeable directives types (extension :: rest)
    ↔ base.Accepts directives extension
      ∧ Mergeable directives (types.insert extension.name (base.extendWith extension)) rest
  := by
  have there : extension.name ∈ types.keys := by
    apply OrderedMap.mem_keys_of_get? found
  rw [Mergeable, Mergeable, OrderedMap.keys_insert, if_pos there, List.forall_mem_cons]
  constructor
  · rintro ⟨⟨-, others⟩, accepts⟩
    have first := accepts extension.name base found
    rw [extensionsOf_cons_self] at first
    use first.1, others
    intro name type type_found
    rw [OrderedMap.get?_insert] at type_found
    split at type_found
    · next same =>
      cases type_found
      rw [same]
      apply first.2
    · next other =>
      rw [← extensionsOf_cons_of_ne other]
      apply accepts name type type_found
  · rintro ⟨first, others, accepts⟩
    use ⟨there, others⟩
    intro name type type_found
    by_cases same : name = extension.name
    · subst same
      rw [found] at type_found
      cases type_found
      rw [extensionsOf_cons_self]
      use first
      apply accepts
      rw [OrderedMap.get?_insert, if_pos rfl]
    · rw [extensionsOf_cons_of_ne same]
      apply accepts
      rw [OrderedMap.get?_insert, if_neg same, type_found]

/-- Extensions are merged into a table without a fault if and only if they can be, and then every
type is the one before with all of its extensions. -/
theorem foldl_mergeExtension (directives : DirectiveTable) (extensions : List TypeDefinition)
    (types : TypeTable) (faults : List Fault) :
  ∃ merged conflicts, extensions.foldl (mergeExtension directives []) (types, faults)
      = (merged, faults ++ conflicts)
    ∧ (conflicts = [] ↔ Mergeable directives types extensions)
    ∧ (conflicts = [] → merged.keys = types.keys ∧ ∀ name, merged.get? name
      = (types.get? name).map fun base => base.extendAll (extensionsOf extensions name))
  := by
  induction extensions generalizing types faults with
  | nil =>
    use types, []
    simp [Mergeable, extensionsOf, TypeDefinition.AcceptsAll, TypeDefinition.extendAll]
  | cons extension rest ih =>
    rw [List.foldl_cons]
    obtain ⟨base, found, accepts, merges⟩ | ⟨base, found, refuses, conflicts, some_conflict, merges⟩
        | ⟨missing, merges⟩ := mergeExtension_cases directives [] types faults extension
    · obtain ⟨merged, conflicts, run, iff, same⟩ :=
        ih (types.insert extension.name (base.extendWith extension)) faults
      use merged, conflicts
      rw [merges, mergeable_cons_iff found, and_iff_right accepts]
      use run, iff
      intro clean
      obtain ⟨keys, types_same⟩ := same clean
      constructor
      · rw [keys, OrderedMap.keys_insert, if_pos]
        apply OrderedMap.mem_keys_of_get? found
      · intro name
        rw [types_same, OrderedMap.get?_insert]
        by_cases first : name = extension.name
        · subst first
          rw [if_pos rfl, extensionsOf_cons_self, found]
          rfl
        · rw [if_neg first, extensionsOf_cons_of_ne first]
    · obtain ⟨merged, more, run, -⟩ := ih types (faults ++ conflicts)
      use merged, conflicts ++ more
      rw [merges, run, mergeable_cons_iff found, List.append_assoc]
      simp [some_conflict, refuses]
    · obtain ⟨merged, more, run, -⟩ :=
        ih types (faults ++ [.undefinedBase extension.name extension.location])
      use merged, .undefinedBase extension.name extension.location :: more
      rw [merges, if_neg List.not_mem_nil, run, List.append_assoc]
      have unmergeable : ¬ Mergeable directives types (extension :: rest) := by
        intro mergeable
        apply (OrderedMap.get?_eq_none_iff _ _).mp missing
        apply mergeable.1 extension List.mem_cons_self
      simp [unmergeable]

end Loader

end LinkedSchema
