import LinkedSchema.Proofs.Acceptance.Merged
import LinkedSchema.Proofs.Linking.Assembly
import LinkedSchema.Proofs.Loading.Gathering

/-!
# Assembled schemas

The schema of a history holds the built-in types and those of the history, in the order in which
they were taken up, each assembled with all of its extensions, and the built-in directives and those
of the history (`Loader.History.assembles`).
-/

namespace LinkedSchema

open Document (Definition)
open Loader (extensionsOf)

/-- The types that are there to be extended: the built-in ones, and others after them. -/
def allBases (bases : List TypeDefinition) : List TypeDefinition :=
  BuiltIn.scalars.values ++ bases

/-- Whether a schema holds types, each with all of its extensions, and directives, the built-in ones
first, and nothing else. -/
structure Schema.Assembles (s : Schema) (bases extensions : List TypeDefinition)
    (directives : List DirectiveDefinition) : Prop where
  /-- The types stand in order, each assembled with its extensions. -/
  types : List.Forall₂ (fun entry base => entry.1 = base.name
    ∧ base.Assembled (extensionsOf extensions base.name) entry.2) s.types.entries (allBases bases)
  /-- The directives stand in order, unchanged. -/
  directives : s.directives.entries = BuiltIn.directives.1.entries
    ++ directives.map fun directive => (directive.name, directive)
  /-- No name of a type stands twice. -/
  distinct : ((allBases bases).map TypeDefinition.name).Nodup
  /-- Every extension is one of a type that is there, and of its kind. -/
  extended : ∀ extension ∈ extensions, ∃ base ∈ allBases bases,
    base.name = extension.name ∧ base.kind = extension.kind

/-! ### Pairs of entries -/

/-- The entries of tables with the same keys are paired by their keys. -/
theorem OrderedMap.forall₂_of_keys_eq {ν μ : Type} {m : OrderedMap String ν}
    {m' : OrderedMap String μ} (same : m.keys = m'.keys) :
  List.Forall₂ (fun entry other => entry.1 = other.1) m.entries m'.entries
  := by
  rw [keys, keys, ← List.forall₂_eq_eq_eq, List.forall₂_map_left_iff,
    List.forall₂_map_right_iff] at same
  apply same

namespace Loader

/-! ### Types of a loader -/

section Gathers

variable {options : Options} {ds : List (String × Definition)} {l : Loader}
  {bases extensions : List TypeDefinition} {directives : List DirectiveDefinition}
  (gathers : (start options).Gathers ds bases extensions directives)

include gathers

/-- A type that is there to be extended mentions no interface twice, and no member. -/
theorem Gathers.mentionsOnce {base : TypeDefinition} (member : base ∈ allBases bases) :
  base.MentionsOnce
  := by
  rcases List.mem_append.mp member with builtIn | loaded
  · obtain ⟨entry, entry_member, rfl⟩ := List.mem_map.mp builtIn
    obtain ⟨text, -, rfl⟩ := List.mem_map.mp entry_member
    exact ⟨List.nodup_nil, List.nodup_nil⟩
  · obtain ⟨v, -, built⟩ := gathers.bases.exists_left loaded
    obtain ⟨sound, rfl⟩ := built.eq_define
    apply sound.mentionsOnce_define

/-- No name stands twice among the members of an extension. -/
theorem Gathers.distinct {extension : TypeDefinition} (member : extension ∈ extensions) :
  extension.Distinct
  := by
  obtain ⟨v, -, built⟩ := gathers.extensions.exists_left member
  obtain ⟨sound, rfl⟩ := built.eq_define
  apply sound.distinct_define

end Gathers

section Adds

variable {options : Options} {l : Loader} {bases extensions : List TypeDefinition}
  {directives : List DirectiveDefinition}
  (adds : (start options).Adds l bases extensions directives)

include adds

/-- The types of a loader are the built-in ones and those added. -/
theorem Adds.values_eq :
  l.types.values = allBases bases
  := by
  rw [OrderedMap.values, adds.types, List.map_append, List.map_map]
  congr 1
  apply List.map_id

/-- Every type of a loader stands under its own name. -/
theorem Adds.name_eq {entry : String × TypeDefinition} (member : entry ∈ l.types.entries) :
  entry.1 = entry.2.name
  := by
  rw [adds.types, List.mem_append] at member
  rcases member with builtIn | loaded
  · obtain ⟨text, -, rfl⟩ := List.mem_map.mp builtIn
    rfl
  · obtain ⟨base, -, rfl⟩ := List.mem_map.mp loaded
    rfl

theorem Adds.keys_eq :
  l.types.keys = (allBases bases).map TypeDefinition.name
  := by
  rw [← adds.values_eq, OrderedMap.keys, OrderedMap.values, List.map_map]
  apply List.map_congr_left
  intro entry member
  apply adds.name_eq member

end Adds

/-- If neither the visits of definitions from the start nor the merge report anything, what the
visits build is held by what has the merged types and the directives. -/
theorem assembles_of_clean {options : Options} {ds : List (String × Definition)}
    (clean : ((start options).visitEach ds).faults = [])
    (merged : ((start options).visitEach ds).merged.2 = []) {s : Schema}
    (types : s.types = ((start options).visitEach ds).merged.1)
    (same_directives : s.directives = ((start options).visitEach ds).directives) :
  ∃ bases extensions directives, (start options).Gathers ds bases extensions directives
    ∧ s.Assembles bases extensions directives
  := by
  obtain ⟨bases, extensions, directives, gathers, adds⟩ := exists_gathers _ ds clean
  have accounts := (accounts_start options).visitEach ds
  have holds := accounts.holds clean
  have distinct := holds.nodup_types (accounts.loadable.mp clean)
  obtain ⟨keys, found⟩ := holds.merged_spec.2 merged
  obtain ⟨extended, accepts⟩ := holds.merged_spec.1.mp merged
  generalize (start options).visitEach ds = l at *
  have held : l.extensions = extensions := adds.extensions
  rw [held] at extended accepts found
  have merged_distinct : l.merged.1.keys.Nodup := by
    rw [keys]
    apply distinct
  use bases, extensions, directives, gathers
  constructor
  · rw [types, ← adds.values_eq, OrderedMap.values, List.forall₂_map_right_iff]
    apply (OrderedMap.forall₂_of_keys_eq keys).and_mem.imp
    rintro ⟨name, type⟩ ⟨other, base⟩ ⟨type_member, member, rfl : name = other⟩
    have named : name = base.name := adds.name_eq member
    subst named
    have looked_up := found base.name
    rw [OrderedMap.get?, OrderedMap.lookup_of_mem merged_distinct type_member,
      OrderedMap.get?, OrderedMap.lookup_of_mem distinct member] at looked_up
    cases looked_up
    obtain ⟨-, apart⟩ := (TypeDefinition.acceptsAll_iff _ _ _).mp
      (accepts base.name base (OrderedMap.lookup_of_mem distinct member))
    have base_member : base ∈ allBases bases := by
      rw [← adds.values_eq]
      apply List.mem_map_of_mem member
    have once := gathers.mentionsOnce base_member
    use rfl
    apply TypeDefinition.assembled_extendAll apart _ once.interfaces once.members
    intro extension extends_base
    apply gathers.distinct (List.mem_of_mem_filter extends_base)
  · rw [same_directives, adds.directives]
    rfl
  · rw [← adds.keys_eq]
    apply distinct
  · intro extension member
    obtain ⟨base, looked_up⟩ := Option.isSome_iff_exists.mp
      ((OrderedMap.lookup_isSome_iff _ _).mpr (extended extension member))
    obtain ⟨same, -⟩ := (TypeDefinition.acceptsAll_iff _ _ _).mp
      (accepts extension.name base looked_up)
    use base
    constructor
    · rw [← adds.values_eq]
      apply OrderedMap.mem_values_of_get? looked_up
    · apply same extension
      simp [extensionsOf, member]

/-- The definitions visited from the start make a schema that holds what the visits build. -/
theorem assembles_visitEach {options : Options} {ds : List (String × Definition)} {s : Schema}
    (linked : ((start options).visitEach ds).link = .ok s) :
  ∃ bases extensions directives, (start options).Gathers ds bases extensions directives
    ∧ s.Assembles bases extensions directives
  := by
  obtain ⟨clean, merged, -, -, -, types, directives, -⟩ := (link_eq_ok_iff _ _).mp linked
  apply assembles_of_clean clean merged types directives

/-- The schema of a history holds what its visits build. -/
theorem History.assembles {options : Options} {ds : List (String × Definition)} {l : Loader}
    (h : History options ds l) {s : Schema} (linked : l.link = .ok s) :
  ∃ bases extensions directives, (Loader.start options).Gathers ds bases extensions directives
    ∧ s.Assembles bases extensions directives
  := by
  obtain ⟨n, rfl⟩ := h.eq_visitEach
  apply assembles_visitEach linked

/-- A text in which an extension stands before the type that it extends and the directive that it
applies. -/
def textWithEarlyExtension : String :=
  "extend type Query implements Node@mark{b:Int}type Query implements Node{a:Int}"
    ++ "directive@mark on OBJECT interface Node{id:ID}"

/-- The type that is extended keeps its place in the schema of that text, and its interface is
listed once. -/
theorem assembles_early_extension :
  ∃ ds l s, History {} ds l ∧ l.link = .ok s
    ∧ s.types.keys = ["Boolean", "Float", "ID", "Int", "String", "Query", "Node"]
    ∧ ((s.type? "Query").map fun type => (type.fields.keys, type.interfaces.map Reference.name))
      = some (["a", "b"], ["Node"])
    ∧ ∃ bases extensions directives, (start {}).Gathers ds bases extensions directives
      ∧ s.Assembles bases extensions directives
  := by
  have run : ((start {}).load none textWithEarlyExtension).toOption.any fun l =>
      l.link.toOption.any fun s =>
        decide (s.types.keys = ["Boolean", "Float", "ID", "Int", "String", "Query", "Node"]
          ∧ ((s.type? "Query").map fun type =>
            (type.fields.keys, type.interfaces.map Reference.name))
              = some (["a", "b"], ["Node"])) := by
    decide +kernel
  obtain ⟨l, loaded, run⟩ := Except.exists_ok_of_any run
  obtain ⟨s, linked, run⟩ := Except.exists_ok_of_any run
  obtain ⟨keys, query⟩ := of_decide_eq_true run
  obtain ⟨ds, n, parsed, -⟩ := load_eq_ok loaded
  have history := History.start.load parsed loaded
  exact ⟨_, l, s, history, linked, keys, query, history.assembles linked⟩

end Loader

end LinkedSchema
