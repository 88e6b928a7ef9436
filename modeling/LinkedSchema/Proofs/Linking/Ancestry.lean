import LinkedSchema.Proofs.Linking.WellFormed

/-!
# Where annotations stand

The definitions of a schema stand at places in its tables: `Schema.Annotates` says which annotations
are kept with the definition at a place, and `Schema.Defines` at which paths there are definitions.
An annotation is made before it is known in which schema it will stand, and an extension moves it
into a type that another node made.  It nevertheless says where it stands in the end
(`Loader.Reachable.located`): it has the site of the definition that it is kept with, and its
ancestry leads through the definitions around that one and through no other.
-/

namespace LinkedSchema

/-- Whether a directive on a type of a kind stands at a site. -/
inductive Kind.StandsAt : Kind → Site → Prop where
  | enum : StandsAt .enum .enum
  | inputObject : StandsAt .inputObject .inputObject
  | interface : StandsAt .interface .interface
  | object : StandsAt .object .object
  | scalar : StandsAt .scalar .scalar
  | union : StandsAt .union .union

theorem Kind.standsAt_iff (kind : Kind) (site : Site) :
  kind.StandsAt site ↔ site = kind.site
  := by
  constructor
  · rintro ⟨⟩ <;> rfl
  · rintro rfl
    cases kind <;> constructor

namespace Schema

/-- Whether the definition that a segment leads to from the definitions of an ancestry is at a site
and is kept with annotations. -/
inductive Annotates (s : Schema) : (ancestry : Path) → Segment → Site → List Annotation → Prop where
  | type {name : String} {type : TypeDefinition} {site : Site} :
      (name, type) ∈ s.types.entries → type.kind.StandsAt site →
      Annotates s [] (.type type.kind name) site type.directives
  | field {name f : String} {type : TypeDefinition} {field : FieldDefinition} :
      (name, type) ∈ s.types.entries → (f, field) ∈ type.fields.entries →
      Annotates s [.type type.kind name] (.field f) .fieldDefinition field.directives
  | fieldArgument {name f x : String} {type : TypeDefinition} {field : FieldDefinition}
      {argument : InputDefinition} :
      (name, type) ∈ s.types.entries → (f, field) ∈ type.fields.entries →
      (x, argument) ∈ field.arguments.entries →
      Annotates s [.type type.kind name, .field f] (.argument x) .argumentDefinition
        argument.directives
  | inputField {name f : String} {type : TypeDefinition} {field : InputDefinition} :
      (name, type) ∈ s.types.entries → (f, field) ∈ type.inputFields.entries →
      Annotates s [.type .inputObject name] (.inputField f) .inputFieldDefinition field.directives
  | enumValue {name v : String} {type : TypeDefinition} {value : EnumValueDefinition} :
      (name, type) ∈ s.types.entries → (v, value) ∈ type.enumValues.entries →
      Annotates s [.type .enum name] (.enumValue v) .enumValue value.directives
  | directiveArgument {name x : String} {directive : DirectiveDefinition}
      {argument : InputDefinition} :
      (name, directive) ∈ s.directives.entries → (x, argument) ∈ directive.arguments.entries →
      Annotates s [.directive name] (.argument x) .argumentDefinition argument.directives

/-- Whether a definition stands at a path of a schema. -/
inductive Defines (s : Schema) : Path → Prop where
  | annotated {ancestry : Path} {segment : Segment} {site : Site} {list : List Annotation} :
      s.Annotates ancestry segment site list → Defines s (ancestry ++ [segment])
  | directive {name : String} {directive : DirectiveDefinition} :
      (name, directive) ∈ s.directives.entries → Defines s [.directive name]

/-- A type stands at the path of its kind and its name. -/
theorem defines_type {s : Schema} {name : String} {type : TypeDefinition}
    (member : (name, type) ∈ s.types.entries) :
  s.Defines [.type type.kind name]
  := .annotated (.type member ((type.kind.standsAt_iff _).mpr rfl))

section WellFormed

variable {s : Schema} (h : s.WellFormed)

include h

/-- The type that stands under a name is well formed, and that name is the one in its path. -/
theorem WellFormed.path_of_mem {name : String} {type : TypeDefinition}
    (member : (name, type) ∈ s.types.entries) :
  type.WellFormed ∧ type.path = [.type type.kind name]
  := by
  obtain ⟨rfl, wellFormed⟩ := h.types.of_mem member
  exact ⟨wellFormed, rfl⟩

section Annotates

variable {ancestry : Path} {segment : Segment} {site : Site} {list : List Annotation}
  (annotates : s.Annotates ancestry segment site list)

include annotates

/-- The annotations that are kept with a definition say where it stands. -/
theorem WellFormed.of_annotates :
  ∀ a ∈ list, a.WellFormed site ancestry
  := by
  cases annotates with
  | @type _ type _ member stands =>
    rw [(type.kind.standsAt_iff _).mp stands]
    apply (h.path_of_mem member).1.directives
  | field member field_member =>
    obtain ⟨type, path⟩ := h.path_of_mem member
    rw [← path]
    apply (type.fields.of_mem field_member).2.directives
  | fieldArgument member field_member argument_member =>
    obtain ⟨type, path⟩ := h.path_of_mem member
    obtain ⟨rfl, field⟩ := type.fields.of_mem field_member
    rw [path] at field
    apply (field.arguments.of_mem argument_member).2.directives
  | inputField member field_member =>
    obtain ⟨type, path⟩ := h.path_of_mem member
    rw [type.shaped.inputFields (List.ne_nil_of_mem field_member)] at path
    rw [← path]
    apply (type.inputFields.of_mem field_member).2.directives
  | enumValue member value_member =>
    obtain ⟨type, path⟩ := h.path_of_mem member
    rw [type.shaped.enumValues (List.ne_nil_of_mem value_member)] at path
    rw [← path]
    apply (type.enumValues.of_mem value_member).2.directives
  | directiveArgument member argument_member =>
    obtain ⟨rfl, directive⟩ := h.directives.of_mem member
    apply (directive.arguments.of_mem argument_member).2.directives

/-- Every path that leads to a part of the ancestry of a definition is that of a definition. -/
theorem WellFormed.defines_of_prefix {outer : Path} (around : outer <+: ancestry)
    (some : outer ≠ []) :
  s.Defines outer
  := by
  have alone {first : Segment} (around : outer <+: [first]) : outer = [first] := by
    obtain ⟨rest, rfl, within⟩ := (List.prefix_cons_iff.mp around).resolve_left some
    rw [List.prefix_nil.mp within]
  cases annotates with
  | type => exact absurd (List.prefix_nil.mp around) some
  | field member =>
    rw [alone around]
    exact defines_type member
  | fieldArgument member field_member =>
    obtain ⟨rest, rfl, within⟩ := (List.prefix_cons_iff.mp around).resolve_left some
    rcases List.prefix_cons_iff.mp within with rfl | ⟨_, rfl, end_within⟩
    · exact defines_type member
    · rw [List.prefix_nil.mp end_within]
      exact .annotated (.field member field_member)
  | inputField member field_member =>
    obtain ⟨type, -⟩ := h.path_of_mem member
    rw [alone around, ← type.shaped.inputFields (List.ne_nil_of_mem field_member)]
    exact defines_type member
  | enumValue member value_member =>
    obtain ⟨type, -⟩ := h.path_of_mem member
    rw [alone around, ← type.shaped.enumValues (List.ne_nil_of_mem value_member)]
    exact defines_type member
  | directiveArgument member =>
    rw [alone around]
    exact .directive member

end Annotates

end WellFormed

end Schema

/-- An annotation of a schema of a reachable loader is at the site and has the ancestry of the
definition that it is kept with: the ancestry leads through the definitions around that one and
through no other. -/
theorem Loader.Reachable.located {options : Options} {l : Loader} (h : Reachable options l)
    {s : Schema} (linked : l.link = .ok s) {ancestry : Path} {segment : Segment} {site : Site}
    {list : List Annotation} (annotates : s.Annotates ancestry segment site list)
    {a : Annotation} (member : a ∈ list) :
  a.site = site ∧ a.ancestry = ancestry
    ∧ ∀ outer ≠ [], outer <+: a.ancestry
      ↔ s.Defines outer ∧ outer <+: ancestry ++ [segment] ∧ outer ≠ ancestry ++ [segment]
  := by
  have wellFormed := h.wellFormed_of_link linked
  obtain ⟨-, site, rfl⟩ := wellFormed.of_annotates annotates a member
  use site, rfl
  intro outer some
  constructor
  · intro around
    use wellFormed.defines_of_prefix annotates around some, List.prefix_append_of_prefix around
    rintro rfl
    have shorter := around.length_le
    rw [List.length_append, List.length_singleton] at shorter
    omega
  · rintro ⟨-, inner, other⟩
    exact (List.prefix_concat_iff.mp inner).resolve_left other

/-- An annotation of an argument that comes with an extension, which stands before the type, has the
path of the field in that type for its ancestry. -/
theorem Loader.located_argument_of_extension :
  ∃ l s type field argument a, (start {}).load none
      "extend type Query{b(x:Int@m):Int}type Query{a:Int}directive@m on ARGUMENT_DEFINITION" = .ok l
    ∧ l.link = .ok s ∧ ("Query", type) ∈ s.types.entries ∧ ("b", field) ∈ type.fields.entries
    ∧ ("x", argument) ∈ field.arguments.entries ∧ a ∈ argument.directives
    ∧ a.site = .argumentDefinition ∧ a.ancestry = [.type .object "Query", .field "b"]
    ∧ s.Defines [.type .object "Query"]
  := by
  have run : ((start {}).load none
      "extend type Query{b(x:Int@m):Int}type Query{a:Int}directive@m on ARGUMENT_DEFINITION"
        ).toOption.any fun l => l.link.toOption.any fun s =>
          decide (∃ entry ∈ s.types.entries, entry.1 = "Query" ∧ entry.2.kind = .object
            ∧ ∃ field ∈ entry.2.fields.entries, field.1 = "b"
            ∧ ∃ argument ∈ field.2.arguments.entries, argument.1 = "x"
            ∧ ∃ a ∈ argument.2.directives, a.name = "m") := by
    decide +kernel
  obtain ⟨l, loaded, run⟩ := Except.exists_ok_of_any run
  obtain ⟨s, linked, run⟩ := Except.exists_ok_of_any run
  obtain ⟨⟨_, type⟩, type_member, rfl, kind, ⟨_, field⟩, field_member, rfl, ⟨_, argument⟩,
    argument_member, rfl, a, member, -⟩ := of_decide_eq_true run
  obtain ⟨site, ancestry, around⟩ := Reachable.located (.load .start loaded) linked
    (.fieldArgument type_member field_member argument_member) member
  rw [kind] at ancestry around
  have defined := (around [.type .object "Query"] nofun).mp (by rw [ancestry]; exact ⟨_, rfl⟩)
  exact ⟨l, s, type, field, argument, a, loaded, linked, type_member, field_member,
    argument_member, member, site, ancestry, defined.1⟩

end LinkedSchema
