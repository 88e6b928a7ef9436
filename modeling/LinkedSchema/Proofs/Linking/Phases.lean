import LinkedSchema.Schema.Link
import LinkedSchema.Proofs.OrderedMap

/-!
# Phases of linking

What each phase of linking does.  An extension is merged into the type of its name if that type
accepts it (`Loader.mergeExtension_cases`); references are bound if all their names are defined,
and each symbol then to the place of its name (`Registry.get?_of_bind`); and there is a schema if
and only if no phase finds a fault (`Loader.link_eq_ok_iff`).
-/

namespace LinkedSchema

open Document (Operation)

/-! ### Merging -/

namespace TypeDefinition

/-- Whether an extension can be merged into a type. -/
structure Accepts (directives : DirectiveTable) (base extension : TypeDefinition) : Prop where
  name : base.name = extension.name
  kind : base.kind = extension.kind
  conflicts : conflicts directives base extension = []

/-- A merge compares names, then kinds, then annotations and members. -/
theorem merge_eq (directives : DirectiveTable) (base extension : TypeDefinition) :
  base.merge directives extension
    = if base.name ≠ extension.name then
        .error [.nameMismatch base.name extension.name extension.location]
      else if base.kind ≠ extension.kind then
        .error [.kindMismatch base.name base.kind extension.kind extension.location]
      else if (conflicts directives base extension).isEmpty then .ok (base.extendWith extension)
      else .error (conflicts directives base extension)
  := by
  rw [merge, absorb]
  split_ifs <;> rfl

/-- A merge that succeeds leaves the extended type in the place of the type. -/
theorem absorb_of_ok {directives : DirectiveTable} {base extension type : TypeDefinition}
    (merged : base.merge directives extension = .ok type) :
  base.absorb directives extension = (type, .ok ())
  := by
  rw [merge] at merged
  generalize base.absorb directives extension = absorbed at merged
  obtain ⟨after, result⟩ := absorbed
  cases result with
  | ok => cases merged; rfl
  | error faults => cases merged

/-- A merge that fails leaves the type as it is. -/
theorem absorb_of_error {directives : DirectiveTable} {base extension : TypeDefinition}
    {faults : List Fault} (failed : base.merge directives extension = .error faults) :
  base.absorb directives extension = (base, .error faults)
  := by
  rw [merge_eq] at failed
  rw [absorb]
  split_ifs at failed ⊢ with name kind conflicting
  · cases failed; rfl
  · cases failed; rfl
  · cases failed; rfl

/-- An extension that is accepted is merged. -/
theorem merge_of_accepts {directives : DirectiveTable} {base extension : TypeDefinition}
    (h : Accepts directives base extension) :
  base.merge directives extension = .ok (base.extendWith extension)
  := by
  rw [merge_eq, if_neg (not_not_intro h.name), if_neg (not_not_intro h.kind), h.conflicts]
  rfl

/-- An extension that is not accepted has conflicts. -/
theorem merge_of_not_accepts {directives : DirectiveTable} {base extension : TypeDefinition}
    (h : ¬ Accepts directives base extension) :
  ∃ faults, base.merge directives extension = .error faults ∧ faults ≠ []
  := by
  rw [merge_eq]
  split
  · exact ⟨_, rfl, List.cons_ne_nil _ _⟩
  · next name =>
    split
    · exact ⟨_, rfl, List.cons_ne_nil _ _⟩
    · next kind =>
      have conflicting : conflicts directives base extension ≠ [] :=
        fun none => h ⟨not_not.mp name, not_not.mp kind, none⟩
      rw [if_neg (mt List.isEmpty_iff.mp conflicting)]
      exact ⟨_, rfl, conflicting⟩

/-- A merge succeeds if and only if the extension is accepted, and makes the extended type. -/
theorem merge_eq_ok_iff {directives : DirectiveTable} {base extension type : TypeDefinition} :
  base.merge directives extension = .ok type
    ↔ Accepts directives base extension ∧ type = base.extendWith extension
  := by
  by_cases accepts : Accepts directives base extension
  · rw [merge_of_accepts accepts, Except.ok.injEq, and_iff_right accepts, eq_comm]
  · obtain ⟨faults, merged, -⟩ := merge_of_not_accepts accepts
    simp [merged, accepts]

/-- References to which others are added are those and some of the others. -/
theorem mem_addNew {references others : List Reference} {r : Reference}
    (h : r ∈ addNew references others) :
  r ∈ references ∨ r ∈ others
  := by
  induction others generalizing references with
  | nil => left; apply h
  | cons other rest ih =>
    rw [addNew] at h
    split at h
    · rcases ih h with before | later
      · left; apply before
      · right; apply List.mem_cons_of_mem _ later
    · rcases ih h with before | later
      · rcases List.mem_append.mp before with before | new
        · left; apply before
        · right; simp [List.mem_singleton.mp new]
      · right; apply List.mem_cons_of_mem _ later

/-- The values of a table to which entries are added are its own and those added. -/
theorem mem_values_insertAll {ν : Type} {m added : OrderedMap String ν} {value : ν}
    (h : value ∈ (m.insertAll added.entries).values) :
  value ∈ m.values ∨ value ∈ added.values
  := by
  obtain ⟨entry, member, rfl⟩ := List.mem_map.mp h
  rcases OrderedMap.mem_insertAll member with before | new
  · left; apply List.mem_map_of_mem before
  · right; apply List.mem_map_of_mem new

/-- Every reference of an extended type is one of the type or of its extension. -/
theorem mem_references_extendWith {base extension : TypeDefinition} {r : Reference}
    (h : r ∈ (base.extendWith extension).references) :
  r ∈ base.references ∨ r ∈ extension.references
  := by
  simp only [references, List.mem_append, List.mem_flatMap, List.mem_map] at h ⊢
  rcases h with ((interface | member) | ⟨field, member, mentioned⟩) | ⟨field, member, mentioned⟩
  · rcases mem_addNew interface with own | added
    · simp [own]
    · simp [added]
  · rcases mem_addNew member with own | added
    · simp [own]
    · simp [added]
  · rcases mem_values_insertAll member with own | added
    · left; left; right
      use field
    · right; left; right
      use field
  · rcases mem_values_insertAll member with own | added
    · left; right
      use field
    · right; right
      use field

end TypeDefinition

namespace Loader

section MergeExtension

variable {directives : DirectiveTable} {failed : List String} {types : TypeTable}
  {base extension : TypeDefinition} (faults : List Fault)

/-- An extension that can be merged into the type of its name extends it in its place. -/
theorem mergeExtension_of_ok {type : TypeDefinition}
    (merged : base.merge directives extension = .ok type)
    (found : types.get? extension.name = some base) :
  mergeExtension directives failed (types, faults) extension
    = (types.insert extension.name type, faults)
  := by simp only [mergeExtension, found, TypeDefinition.absorb_of_ok merged]

/-- An extension that cannot be merged into the type of its name leaves all types as they are. -/
theorem mergeExtension_of_error {conflicts : List Fault}
    (refused : base.merge directives extension = .error conflicts)
    (found : types.get? extension.name = some base) :
  mergeExtension directives failed (types, faults) extension = (types, faults ++ conflicts)
  := by
  simp only [mergeExtension, found, TypeDefinition.absorb_of_error refused,
    OrderedMap.insert_of_get? found]

/-- An extension of a type that is not there is passed over, or reported. -/
theorem mergeExtension_of_none (missing : types.get? extension.name = none) :
  mergeExtension directives failed (types, faults) extension
    = (types, if extension.name ∈ failed then faults
        else faults ++ [.undefinedBase extension.name extension.location])
  := by
  simp only [mergeExtension, missing, List.contains_eq_mem, decide_eq_true_eq]
  split
  · rfl
  · rfl

end MergeExtension

/-- An extension is merged into the type of its name if that type accepts it.  If there is no
such type but a definition of it had faults, the extension is passed over; otherwise it is
reported. -/
theorem mergeExtension_cases (directives : DirectiveTable) (failed : List String)
    (types : TypeTable) (faults : List Fault) (extension : TypeDefinition) :
  (∃ base, types.get? extension.name = some base ∧ base.Accepts directives extension
      ∧ mergeExtension directives failed (types, faults) extension
        = (types.insert extension.name (base.extendWith extension), faults))
    ∨ (∃ base, types.get? extension.name = some base ∧ ¬ base.Accepts directives extension
      ∧ ∃ conflicts, conflicts ≠ []
        ∧ mergeExtension directives failed (types, faults) extension = (types, faults ++ conflicts))
    ∨ (types.get? extension.name = none
      ∧ mergeExtension directives failed (types, faults) extension
        = (types, if extension.name ∈ failed then faults
            else faults ++ [.undefinedBase extension.name extension.location]))
  := by
  cases found : types.get? extension.name with
  | some base =>
    by_cases accepts : base.Accepts directives extension
    · left
      use base, rfl, accepts
      apply mergeExtension_of_ok faults (TypeDefinition.merge_of_accepts accepts) found
    · right; left
      obtain ⟨conflicts, merged, conflicting⟩ := TypeDefinition.merge_of_not_accepts accepts
      use base, rfl, accepts, conflicts, conflicting
      apply mergeExtension_of_error faults merged found
  | none =>
    right; right
    exact ⟨rfl, mergeExtension_of_none faults found⟩

/-- What holds of a table, and is kept whenever a type that accepts an extension is extended by it,
holds after the extensions have been merged. -/
theorem foldl_mergeExtension_keeps {P : TypeTable → Prop} {directives : DirectiveTable}
    (failed : List String) {extensions : List TypeDefinition}
    (extended : ∀ extension ∈ extensions, ∀ types base, P types →
      types.get? extension.name = some base → base.Accepts directives extension →
      P (types.insert extension.name (base.extendWith extension)))
    {types : TypeTable} (first : P types) (faults : List Fault) :
  P (extensions.foldl (mergeExtension directives failed) (types, faults)).1
  := by
  induction extensions generalizing types faults with
  | nil => apply first
  | cons extension rest ih =>
    obtain ⟨here, there⟩ := List.forall_mem_cons.mp extended
    rw [List.foldl_cons]
    obtain ⟨base, found, accepts, merged⟩ | ⟨-, -, -, conflicts, -, merged⟩ | ⟨-, merged⟩ :=
      mergeExtension_cases directives failed types faults extension
    · rw [merged]
      apply ih there (here types base first found accepts)
    · rw [merged]
      apply ih there first
    · rw [merged]
      apply ih there first

/-- What holds of all references in a table and of all those in extensions holds of all those in
the table after the extensions have been merged. -/
theorem references_foldl_mergeExtension {P : Reference → Prop} (directives : DirectiveTable)
    (failed : List String) {extensions : List TypeDefinition}
    (added : ∀ extension ∈ extensions, ∀ r ∈ extension.references, P r)
    {types : TypeTable} (faults : List Fault)
    (own : ∀ entry ∈ types.entries, ∀ r ∈ entry.2.references, P r) :
  ∀ entry ∈ (extensions.foldl (mergeExtension directives failed) (types, faults)).1.entries,
    ∀ r ∈ entry.2.references, P r
  := by
  apply foldl_mergeExtension_keeps (P := fun types => ∀ entry ∈ types.entries,
    ∀ r ∈ entry.2.references, P r) failed _ own
  intro extension from_extensions types base own found _ entry member r mentioned
  rcases OrderedMap.mem_put member with rfl | before
  · rcases TypeDefinition.mem_references_extendWith mentioned with base_mentions | mentions
    · apply own _ (OrderedMap.mem_of_lookup found) r base_mentions
    · apply added extension from_extensions r mentions
  · apply own entry before r mentioned

end Loader

/-! ### Binding -/

/-- What is at a place of a list all of whose members have an image is at that place of the
images. -/
theorem getElem?_filterMap_of_isSome {α β : Type} {f : α → Option β} {list : List α}
    (h : ∀ a ∈ list, (f a).isSome) (i : Nat) :
  (list.filterMap f)[i]? = list[i]?.bind f
  := by
  induction list generalizing i with
  | nil => simp
  | cons first rest ih =>
    obtain ⟨image, eq⟩ := Option.isSome_iff_exists.mp (h first List.mem_cons_self)
    rw [List.filterMap_cons_some eq]
    cases i with
    | zero => simp [eq]
    | succ i =>
      rw [List.getElem?_cons_succ, List.getElem?_cons_succ]
      apply ih fun a member => h a (List.mem_cons_of_mem _ member)

/-- References are bound if and only if the name of every declaration is that of a type. -/
theorem Registry.bind_isOk_iff (registry : Registry) (types : TypeTable) :
  (registry.bind types).isOk ↔ ∀ declaration ∈ registry.declared, declaration.name ∈ types.keys
  := by
  have undefined : registry.undefined types = []
      ↔ ∀ declaration ∈ registry.declared, declaration.name ∈ types.keys := by
    simp only [Registry.undefined, List.filter_eq_nil_iff, Option.isNone_iff_eq_none,
      ← Option.not_isSome_iff_eq_none, not_not, OrderedMap.indexOf?_isSome_iff]
  rw [← undefined, ← List.isEmpty_iff, Registry.bind]
  split
  · next empty => exact ⟨fun _ => empty, fun _ => rfl⟩
  · next some_undefined => exact ⟨nofun, fun empty => absurd empty some_undefined⟩

/-- Every symbol is bound to the place of the type of the name that is declared in its place. -/
theorem Registry.get?_bind {registry : Registry} {types : TypeTable} {bindings : Bindings}
    (bound : registry.bind types = .ok bindings) (symbol : Nat) :
  bindings.get? symbol
    = registry.declared[symbol]?.bind fun declaration => types.indexOf? declaration.name
  := by
  have defined := (bind_isOk_iff registry types).mp (by rw [bound]; rfl)
  rw [Registry.bind] at bound
  split at bound
  · cases bound
    apply getElem?_filterMap_of_isSome
    intro declaration member
    apply (OrderedMap.indexOf?_isSome_iff _ _).mpr (defined declaration member)
  · cases bound

/-- The symbol of a declaration is bound to the place of the type of its name. -/
theorem Registry.get?_of_bind {registry : Registry} {types : TypeTable} {bindings : Bindings}
    (bound : registry.bind types = .ok bindings) {symbol : Nat} {declaration : Declaration}
    (found : registry.declared[symbol]? = some declaration) :
  bindings.get? symbol = types.indexOf? declaration.name ∧ declaration.name ∈ types.keys
  := by
  constructor
  · rw [get?_bind bound, found, Option.bind_some]
  · apply (bind_isOk_iff registry types).mp _ declaration (List.mem_of_getElem? found)
    rw [bound]
    rfl

/-! ### Linking -/

namespace Loader

/-- A schema is made if and only if no phase finds a fault, and then of what the phases give. -/
theorem link_eq_ok_iff (l : Loader) (s : Schema) :
  l.link = .ok s ↔ l.faults = [] ∧ l.merged.2 = [] ∧ l.registry.bind l.merged.1 = .ok s.bindings
    ∧ l.checkFaults l.merged.1 s.bindings = [] ∧ rootPlace? l.merged.1 l.roots .query = some s.query
    ∧ s.types = l.merged.1 ∧ s.directives = l.directives
    ∧ s.mutation = rootPlace? l.merged.1 l.roots .mutation
    ∧ s.subscription = rootPlace? l.merged.1 l.roots .subscription
  := by
  rw [link]
  obtain ⟨types, conflicts⟩ := l.merged
  simp only
  by_cases clean : l.faults = [] ∧ conflicts = []
  · obtain ⟨no_faults, no_conflicts⟩ := clean
    simp only [no_faults, no_conflicts, List.append_nil, List.isEmpty_nil, Bool.not_true,
      Bool.false_eq_true, if_false, true_and]
    cases l.registry.bind types with
    | error unbound => simp
    | ok bindings =>
      simp only [Except.ok.injEq]
      cases rootPlace? types l.roots .query with
      | none => simp
      | some query =>
        simp only [List.isEmpty_iff]
        constructor
        · intro h
          split at h
          · next none_found =>
            cases h
            simp [none_found]
          · cases h
        · obtain ⟨_, _, _, _, _, _⟩ := s
          simp only
          rintro ⟨rfl, none_found, ⟨⟩, rfl, rfl, rfl, rfl⟩
          rw [if_pos none_found]
  · have some_fault : (!(l.faults ++ conflicts).isEmpty) = true := by
      simpa [List.isEmpty_iff, List.append_eq_nil_iff] using clean
    rw [if_pos some_fault]
    constructor
    · nofun
    · rintro ⟨no_faults, no_conflicts, -⟩
      exact absurd ⟨no_faults, no_conflicts⟩ clean

/-- There is a schema if and only if loading and merging find no fault, the references can be
bound, the checks find no fault, and there is a type of queries. -/
theorem link_isOk_iff (l : Loader) :
  l.link.isOk ↔ l.faults = [] ∧ l.merged.2 = [] ∧ ∃ bindings,
    l.registry.bind l.merged.1 = .ok bindings ∧ l.checkFaults l.merged.1 bindings = []
      ∧ (rootPlace? l.merged.1 l.roots .query).isSome
  := by
  constructor
  · intro linked
    cases link : l.link with
    | error faults =>
      rw [link] at linked
      cases linked
    | ok s =>
      obtain ⟨loaded, merged, bound, checked, query, -⟩ := (link_eq_ok_iff l s).mp link
      use loaded, merged, s.bindings, bound, checked
      rw [query]
      rfl
  · rintro ⟨loaded, merged, bindings, bound, checked, placed⟩
    obtain ⟨query, placed⟩ := Option.isSome_iff_exists.mp placed
    have link := (link_eq_ok_iff l {
      types := l.merged.1
      directives := l.directives
      bindings := bindings
      query := query
      mutation := rootPlace? l.merged.1 l.roots .mutation
      subscription := rootPlace? l.merged.1 l.roots .subscription }).mpr
      ⟨loaded, merged, bound, checked, placed, rfl, rfl, rfl, rfl⟩
    rw [link]
    rfl

end Loader

end LinkedSchema
