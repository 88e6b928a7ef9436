import LinkedSchema.Proofs.Loading.WellFormed

/-!
# Well-formed schemas

A type accepts an extension only if they have one name and one kind, so that they stand at the same
path and the members that are added belong to the kind.  Hence an extended type is well formed
(`TypeDefinition.WellFormed.extendWith`), and merging keeps the types of a table well formed, one
extension after another.  In particular, the schemas of reachable loaders are well formed
(`Loader.Reachable.wellFormed`), and a type stands at the place of its name.
-/

namespace LinkedSchema

/-! ### Extended types -/

/-- Entries after insertions are there only if some were there before or are inserted. -/
theorem OrderedMap.ne_nil_of_insertAll {ν : Type} {m : OrderedMap String ν}
    {added : List (String × ν)} (some : (m.insertAll added).entries ≠ []) :
  m.entries ≠ [] ∨ added ≠ []
  := by
  obtain ⟨entry, member⟩ := List.exists_mem_of_ne_nil _ some
  rcases mem_insertAll member with before | new
  · left
    apply List.ne_nil_of_mem before
  · right
    apply List.ne_nil_of_mem new

namespace TypeDefinition

/-- References to which others are added are there only if some were there before or are added. -/
theorem ne_nil_of_addNew {references others : List Reference}
    (some : addNew references others ≠ []) :
  references ≠ [] ∨ others ≠ []
  := by
  obtain ⟨r, member⟩ := List.exists_mem_of_ne_nil _ some
  rcases mem_addNew member with own | added
  · left
    apply List.ne_nil_of_mem own
  · right
    apply List.ne_nil_of_mem added

/-- No name stands twice among references to which those with new names are added. -/
theorem nodup_map_name_addNew {references : List Reference}
    (distinct : (references.map Reference.name).Nodup) (others : List Reference) :
  ((addNew references others).map Reference.name).Nodup
  := by
  induction others generalizing references with
  | nil => apply distinct
  | cons other rest ih =>
    rw [addNew]
    split
    · apply ih distinct
    · next new =>
      apply ih
      rw [List.map_append, List.map_singleton, ← List.concat_eq_append, List.nodup_concat]
      exact ⟨by simpa using new, distinct⟩

section ExtendWith

variable {base extension : TypeDefinition} (kind : base.kind = extension.kind)

include kind

theorem Shaped.extendWith (h : base.Shaped) (h' : extension.Shaped) :
  (base.extendWith extension).Shaped
  := by
  obtain ⟨interfaces, members, fields, inputFields, enumValues⟩ := h'
  rw [← kind] at interfaces members fields inputFields enumValues
  exact {
    interfaces some := (ne_nil_of_addNew some).elim h.interfaces interfaces
    members some := (ne_nil_of_addNew some).elim h.members members
    fields some := (OrderedMap.ne_nil_of_insertAll some).elim h.fields fields
    inputFields some := (OrderedMap.ne_nil_of_insertAll some).elim h.inputFields inputFields
    enumValues some := (OrderedMap.ne_nil_of_insertAll some).elim h.enumValues enumValues }

/-- A type with an extension of the same name and kind is well formed if both are. -/
theorem WellFormed.extendWith (name : base.name = extension.name) (h : base.WellFormed)
    (h' : extension.WellFormed) :
  (base.extendWith extension).WellFormed
  := by
  have path : extension.path = base.path := by rw [TypeDefinition.path, ← kind, ← name]; rfl
  obtain ⟨-, directives, -, fields, inputFields, enumValues, shaped⟩ := h'
  rw [← kind] at directives
  rw [path] at fields inputFields enumValues
  exact {
    name := h.name
    directives := List.forall_mem_append.mpr ⟨h.directives, directives⟩
    mentions := {
      interfaces := nodup_map_name_addNew h.mentions.interfaces _
      members := nodup_map_name_addNew h.mentions.members _ }
    fields := h.fields.insertAll fields
    inputFields := h.inputFields.insertAll inputFields
    enumValues := h.enumValues.insertAll enumValues
    shaped := h.shaped.extendWith kind shaped }

end ExtendWith

end TypeDefinition

/-! ### Merging -/

namespace Loader

/-- Merging well-formed extensions keeps the types of a table well formed. -/
theorem registers_foldl_mergeExtension (directives : DirectiveTable) (failed : List String)
    {extensions : List TypeDefinition}
    (added : ∀ extension ∈ extensions, extension.WellFormed) {types : TypeTable}
    (own : types.Registers TypeDefinition.name TypeDefinition.WellFormed) (faults : List Fault) :
  (extensions.foldl (mergeExtension directives failed) (types, faults)).1.Registers
    TypeDefinition.name TypeDefinition.WellFormed
  := by
  apply foldl_mergeExtension_keeps failed _ own
  intro extension from_extensions types base own found accepts
  obtain ⟨-, wellFormed⟩ := own.of_mem (OrderedMap.mem_of_lookup found)
  -- The type is put under the name of the extension, which is its own as well.
  rw [← accepts.name]
  apply own.insert (wellFormed.extendWith accepts.kind accepts.name (added _ from_extensions))

end Loader

/-! ### Schemas -/

namespace Schema

/-- Whether the types and the directives of a schema are well formed and stand under their own
names. -/
structure WellFormed (s : Schema) : Prop where
  types : s.types.Registers TypeDefinition.name TypeDefinition.WellFormed
  directives : s.directives.Registers DirectiveDefinition.name DirectiveDefinition.WellFormed

end Schema

namespace Loader

/-- A schema of a reachable loader is well formed. -/
theorem Reachable.wellFormed_of_link {options : Options} {l : Loader} (h : Reachable options l)
    {s : Schema} (linked : l.link = .ok s) :
  s.WellFormed
  := by
  obtain ⟨-, -, -, -, -, types, directives, -⟩ := (link_eq_ok_iff l s).mp linked
  have loaded := h.wellFormed_loader
  constructor
  · rw [types]
    apply registers_foldl_mergeExtension _ _ loaded.extensions loaded.types
  · rw [directives]
    apply loaded.directives

/-- What a reachable loader has taken up is well formed, the types stay so after the merge of any
number of extensions, and so is the schema if there is one: a type stands at the place of its
name there, and at no other. -/
theorem Reachable.wellFormed {options : Options} {l : Loader} (h : Reachable options l) :
  l.WellFormed
    ∧ (∀ done rest, l.extensions = done ++ rest →
      (done.foldl (mergeExtension l.directives l.failed) (l.types, [])).1.Registers
        TypeDefinition.name TypeDefinition.WellFormed)
    ∧ ∀ s, l.link = .ok s → s.WellFormed
      ∧ ∀ name place, s.place? name = some place
        ↔ ∃ type, s.typeAt? place = some type ∧ type.name = name
  := by
  have loaded := h.wellFormed_loader
  use loaded
  constructor
  · intro done rest held
    apply registers_foldl_mergeExtension _ _ _ loaded.types
    intro extension member
    apply loaded.extensions
    rw [held]
    apply List.mem_append_left rest member
  · intro s linked
    have wellFormed := h.wellFormed_of_link linked
    use wellFormed
    intro name place
    apply wellFormed.types.indexOf?_iff

/-- A text in which types of three kinds are extended. -/
def textWithExtensions : String :=
  "extend type Query{b(x:I):E}type Query{a:ID}input I{s:ID}extend input I{t:ID}enum E{R}"
    ++ "extend enum E{B}"

/-- Halfway through the merges of that text, and in its schema, everything is well formed. -/
theorem wellFormed_extensions :
  ∃ l s, (start {}).load none textWithExtensions = .ok l ∧ l.link = .ok s
    ∧ l.extensions.length = 3 ∧ l.extensions = l.extensions.take 2 ++ l.extensions.drop 2
    ∧ s.place? "Query" = some 5
    ∧ ((s.type? "Query").map fun type => type.fields.keys) = some ["a", "b"]
    ∧ l.WellFormed
    ∧ ((l.extensions.take 2).foldl (mergeExtension l.directives l.failed) (l.types, [])).1.Registers
        TypeDefinition.name TypeDefinition.WellFormed
    ∧ s.WellFormed ∧ ∃ type, s.typeAt? 5 = some type ∧ type.name = "Query"
  := by
  have run : ((start {}).load none textWithExtensions).toOption.any fun l =>
      l.link.toOption.any fun s =>
        decide (l.extensions.length = 3 ∧ s.place? "Query" = some 5
          ∧ ((s.type? "Query").map fun type => type.fields.keys) = some ["a", "b"]) := by
    decide +kernel
  obtain ⟨l, loaded, run⟩ := Except.exists_ok_of_any run
  obtain ⟨s, linked, run⟩ := Except.exists_ok_of_any run
  obtain ⟨held, placed, fields⟩ := of_decide_eq_true run
  obtain ⟨wellFormed, merging, schema⟩ := Reachable.wellFormed (.load .start loaded)
  have split := (List.take_append_drop 2 l.extensions).symm
  obtain ⟨linked_wellFormed, places⟩ := schema s linked
  exact ⟨l, s, loaded, linked, held, split, placed, fields, wellFormed, merging _ _ split,
    linked_wellFormed, (places "Query" 5).mp placed⟩

end Loader

end LinkedSchema
