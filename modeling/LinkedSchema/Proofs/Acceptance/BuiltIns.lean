import LinkedSchema.Proofs.Acceptance.Assembled
import LinkedSchema.Proofs.Loading.WellFormed
import LinkedSchema.Proofs.Order.Unnumbered

/-!
# Built-in definitions in schemas

Whatever is loaded, a schema begins with the built-in types, in their order, and with the built-in
directives, and the types that count as defined are those of the loaded nodes
(`Loader.History.keepsBuiltIns`).  A built-in type can be extended by nodes of its own kind alone,
and these have no members, so that it differs from what it is at the start in its annotations and in
its external name (`TypeDefinition.Assembled.eq_of_bare`).
-/

namespace LinkedSchema

open Document (Definition TypeNode)
open Loader (extensionsOf placed)

/-! ### Types without members -/

namespace TypeDefinition

/-- Whether a type or an extension has no members of any kind. -/
structure Bare (type : TypeDefinition) : Prop where
  interfaces : type.interfaces = []
  members : type.members = []
  fields : type.fields.entries = []
  inputFields : type.inputFields.entries = []
  enumValues : type.enumValues.entries = []

/-- Scalar types have no members, and neither have their extensions. -/
theorem Shaped.bare {type : TypeDefinition} (shaped : type.Shaped) (scalar : type.kind = .scalar) :
  type.Bare
  where
  interfaces := by
    by_contra found
    simpa [scalar] using shaped.interfaces found
  members := by
    by_contra found
    simpa [scalar] using shaped.members found
  fields := by
    by_contra found
    simpa [scalar] using shaped.fields found
  inputFields := by
    by_contra found
    simpa [scalar] using shaped.inputFields found
  enumValues := by
    by_contra found
    simpa [scalar] using shaped.enumValues found

/-- What is assembled of parts without members differs from the first part in its annotations and in
its external name alone. -/
theorem Assembled.eq_of_bare {base type : TypeDefinition} {extensions : List TypeDefinition}
    (h : base.Assembled extensions type) (bare : ∀ part ∈ base :: extensions, part.Bare) :
  type = { base with
    directives := (base :: extensions).flatMap TypeDefinition.directives
    bindTo := (base :: extensions).findSome? TypeDefinition.bindTo }
  := by
  have none_of {α : Type} {f : TypeDefinition → List α} (h : ∀ {part}, Bare part → f part = []) :
      (base :: extensions).flatMap f = f base := by
    rw [List.flatMap_eq_nil_iff.mpr fun part member => h (bare part member),
      h (bare base List.mem_cons_self)]
  have first_none {f : TypeDefinition → List Reference} (h : ∀ {part}, Bare part → f part = []) :
      firstOfEachName ((base :: extensions).flatMap f) = f base := by
    rw [none_of h, h (bare base List.mem_cons_self)]
    rfl
  have interfaces := h.interfaces.trans (first_none fun part => part.interfaces)
  have members := h.members.trans (first_none fun part => part.members)
  have fields := h.fields.trans (none_of fun part => part.fields)
  have inputFields := h.inputFields.trans (none_of fun part => part.inputFields)
  have values := h.values.trans (none_of fun part => part.enumValues)
  have table {ν : Type} {m m' : OrderedMap String ν} (same : m.entries = m'.entries) : m = m' :=
    congrArg OrderedMap.mk same
  cases type
  rw [TypeDefinition.mk.injEq]
  exact ⟨h.kind, h.name, h.description, h.bindTo, h.directives, interfaces, members, table fields,
    table inputFields, table values, h.location⟩

end TypeDefinition

/-! ### What extensions give to built-in types -/

/-- The extensions of a name among definitions, each with the name of its file. -/
def extensionNodesOf (ds : List (String × Definition)) (name : String) :
    List (String × TypeNode) :=
  (placed Definition.extension? ds).filter fun d => d.2.name = name

namespace BuiltIn

/-- The annotations that an extension of a scalar type gives, and the external name. -/
def given (d : String × TypeNode) : List Annotation × Option String :=
  let location : Location := .source (some d.1) d.2.position
  let annotations := Annotation.ofDirectives location .scalar [] d.2.directives
  (annotations, (bindingOf location d.2.directives).1)

/-- A built-in scalar type with what extensions give to it: the annotations of all of them, one
after another, and the first external name. -/
def extendedScalar (name description : String) (nodes : List (String × TypeNode)) :
    TypeDefinition :=
  { scalar name description with
    directives := nodes.flatMap fun d => (given d).1
    bindTo := nodes.findSome? fun d => (given d).2 }

theorem bare_scalar (name description : String) : (scalar name description).Bare :=
  ⟨rfl, rfl, rfl, rfl, rfl⟩

theorem values_scalars :
  scalars.values = scalarTexts.map fun text => scalar text.1 text.2
  := rfl

theorem map_name_values_scalars :
  scalars.values.map TypeDefinition.name = scalars.keys
  := rfl

/-- A built-in type is one of those that are there to be extended. -/
theorem scalar_mem_allBases {text : String × String} (member : text ∈ scalarTexts)
    (bases : List TypeDefinition) :
  scalar text.1 text.2 ∈ allBases bases
  := by
  apply List.mem_append_left
  rw [values_scalars]
  apply List.mem_map_of_mem member

end BuiltIn

/-- What no extension changes of a type: its name, its kind, its description and its location. -/
def TypeDefinition.head (type : TypeDefinition) : String × Kind × Option String × Location :=
  (type.name, type.kind, type.description, type.location)

/-- What a node of a file says about the type that it defines, and no extension changes. -/
def Document.TypeNode.head (file : String) (node : TypeNode) :
    String × Kind × Option String × Location :=
  (node.name, node.kind, node.description, .source (some file) node.position)

/-- Whether a schema of definitions has kept what is built in. -/
structure Schema.KeepsBuiltIns (s : Schema) (ds : List (String × Definition)) : Prop where
  /-- The built-in types come first, in their order. -/
  names : s.types.keys.take 5 = ["Boolean", "Float", "ID", "Int", "String"]
  /-- Nothing of a built-in type changes but its annotations and its external name. -/
  scalars : ∀ place name description, BuiltIn.scalarTexts[place]? = some (name, description) →
    s.typeAt? place = some (BuiltIn.extendedScalar name description (extensionNodesOf ds name))
  /-- Extensions of built-in types are those of scalar types. -/
  kinds : ∀ name ∈ BuiltIn.scalars.keys, ∀ d ∈ extensionNodesOf ds name, d.2.kind = .scalar
  /-- The built-in directives come first, in their order and unchanged. -/
  directives : s.directives.entries.take 5 = BuiltIn.directives.1.entries
  /-- The types that count as defined are those after the built-in ones. -/
  later : s.definedTypes = s.types.values.drop 5
  /-- The types that count as defined are those of the nodes of types, in order. -/
  defined : s.definedTypes.map TypeDefinition.head
    = (placed Definition.type? ds).map fun d => d.2.head d.1
  /-- No type that counts as defined has the name of a built-in one. -/
  apart : ∀ type ∈ s.definedTypes, type.name ∉ BuiltIn.scalars.keys

namespace Loader

section Assembles

variable {options : Options} {ds : List (String × Definition)} {s : Schema}
  {bases extensions : List TypeDefinition} {directives : List DirectiveDefinition}
  (gathers : (start options).Gathers ds bases extensions directives)
  (assembles : s.Assembles bases extensions directives)

include assembles in
/-- The extensions of a type are of its kind. -/
theorem kind_of_mem_extensionsOf {base extension : TypeDefinition} (member : base ∈ allBases bases)
    (held : extension ∈ extensionsOf extensions base.name) :
  extension.kind = base.kind
  := by
  obtain ⟨held, same⟩ := List.mem_filter.mp held
  obtain ⟨other, other_member, named, kind⟩ := assembles.extended extension held
  have unique : other = base := by
    apply List.inj_on_of_nodup_map assembles.distinct other_member member
    rw [named, of_decide_eq_true same]
  rw [← unique, kind]

include gathers in
/-- The extensions that are built have the shapes of their kinds. -/
theorem Gathers.shaped {extension : TypeDefinition} (member : extension ∈ extensions) :
  extension.Shaped
  := by
  obtain ⟨v, -, built⟩ := gathers.extensions.exists_left member
  rw [built.eq_define.2]
  apply TypeNode.shaped_define

include gathers in
/-- The extensions of a name are built from the nodes of this name, in order. -/
theorem Gathers.forall₂_extensionsOf (name : String) :
  List.Forall₂ (fun d extension => ∃ v : Visit TypeNode, d = (v.file, v.node) ∧ v.Builds extension)
    (extensionNodesOf ds name) (extensionsOf extensions name)
  := by
  rw [extensionNodesOf, ← map_visits _ (start options)]
  apply List.rel_filter (R := fun d extension =>
    ∃ v : Visit TypeNode, d = (v.file, v.node) ∧ v.Builds extension)
  · rintro d extension ⟨v, rfl, built⟩
    rw [built.eq_define.2]
    rfl
  · rw [List.forall₂_map_left_iff]
    apply gathers.extensions.imp
    intro v extension built
    exact ⟨v, rfl, built⟩

include gathers in
/-- Extensions of scalar types have the annotations and the external names that their nodes
give. -/
theorem Gathers.map_given {name : String}
    (scalar : ∀ extension ∈ extensionsOf extensions name, extension.kind = .scalar) :
  (extensionNodesOf ds name).map BuiltIn.given
    = (extensionsOf extensions name).map fun extension => (extension.directives, extension.bindTo)
  := by
  apply (gathers.forall₂_extensionsOf name).and_mem.map_eq
  rintro d extension ⟨-, held, v, rfl, built⟩
  have kind := scalar extension held
  obtain ⟨-, rfl⟩ := built.eq_define
  have node_kind : v.node.kind = .scalar := kind
  simp only [BuiltIn.given, TypeNode.define, node_kind]
  rfl

include gathers assembles

/-- What is assembled at the place of a built-in type is this type with what its extensions give. -/
theorem eq_extendedScalar {text : String × String} (member : text ∈ BuiltIn.scalarTexts)
    {type : TypeDefinition}
    (assembled : (BuiltIn.scalar text.1 text.2).Assembled (extensionsOf extensions text.1) type) :
  type = BuiltIn.extendedScalar text.1 text.2 (extensionNodesOf ds text.1)
  := by
  have base_member := BuiltIn.scalar_mem_allBases member bases
  have scalar : ∀ extension ∈ extensionsOf extensions text.1, extension.kind = .scalar :=
    fun extension held => kind_of_mem_extensionsOf assembles base_member held
  have bare : ∀ part ∈ BuiltIn.scalar text.1 text.2 :: extensionsOf extensions text.1,
      part.Bare := by
    refine List.forall_mem_cons.mpr ⟨BuiltIn.bare_scalar _ _, ?_⟩
    intro extension held
    apply (gathers.shaped (List.mem_of_mem_filter held)).bare (scalar extension held)
  have given := gathers.map_given scalar
  have annotations : (extensionNodesOf ds text.1).flatMap (fun d => (BuiltIn.given d).1)
      = (extensionsOf extensions text.1).flatMap TypeDefinition.directives := by
    rw [← List.flatMap_map BuiltIn.given Prod.fst, given, List.flatMap_map]
  have bound : (extensionNodesOf ds text.1).findSome? (fun d => (BuiltIn.given d).2)
      = (extensionsOf extensions text.1).findSome? TypeDefinition.bindTo := by
    rw [← Function.comp_def Prod.snd, ← List.findSome?_map, given, List.findSome?_map]
    rfl
  rw [assembled.eq_of_bare bare, BuiltIn.extendedScalar, annotations, bound]
  rfl

/-- The first types are the built-in ones with what their extensions give. -/
theorem take_entries :
  s.types.entries.take 5 = BuiltIn.scalarTexts.map fun text =>
    (text.1, BuiltIn.extendedScalar text.1 text.2 (extensionNodesOf ds text.1))
  := by
  have first := List.forall₂_take_append _ _ _ assembles.types
  rw [BuiltIn.values_scalars, List.forall₂_map_right_iff] at first
  rw [← List.map_id (List.take 5 _)]
  apply first.and_mem.map_eq
  rintro ⟨key, type⟩ text ⟨-, member, rfl, assembled⟩
  exact congrArg (Prod.mk _) (eq_extendedScalar gathers assembles member assembled)

/-- The types after the first ones are those of the nodes of types. -/
theorem map_head_drop_values :
  (s.types.values.drop 5).map TypeDefinition.head
    = (placed Definition.type? ds).map fun d => d.2.head d.1
  := by
  have later := List.forall₂_drop_append _ _ _ assembles.types
  calc (s.types.values.drop 5).map TypeDefinition.head
    _ = (s.types.entries.drop 5).map fun entry => entry.2.head := by
      rw [OrderedMap.values, ← List.map_drop, List.map_map]
      rfl
    _ = bases.map TypeDefinition.head := by
      apply later.map_eq
      rintro entry base ⟨-, assembled⟩
      rw [TypeDefinition.head, assembled.name, assembled.kind, assembled.description,
        assembled.location]
      rfl
    _ = (placed Definition.type? ds).map fun d => d.2.head d.1 := by
      rw [← map_visits _ (start options), List.map_map]
      symm
      apply gathers.bases.map_eq
      intro v base built
      rw [built.eq_define.2]
      rfl

/-- The types that count as defined are those after the first ones. -/
theorem definedTypes_eq :
  s.definedTypes = s.types.values.drop 5
  := by
  have first : (s.types.values.take 5).filter (fun type => !type.isBuiltIn) = [] := by
    rw [OrderedMap.values, ← List.map_take, take_entries gathers assembles]
    rfl
  have later : (s.types.values.drop 5).filter (fun type => !type.isBuiltIn)
      = s.types.values.drop 5 := by
    rw [List.filter_eq_self]
    intro type member
    have heads := List.mem_map_of_mem (f := TypeDefinition.head) member
    rw [map_head_drop_values gathers assembles] at heads
    obtain ⟨d, -, same⟩ := List.mem_map.mp heads
    simp only [TypeNode.head, TypeDefinition.head, Prod.mk.injEq] at same
    rw [TypeDefinition.isBuiltIn, ← same.2.2.2]
    rfl
  rw [Schema.definedTypes, ← List.take_append_drop 5 s.types.values, List.filter_append, first,
    later, List.nil_append, List.take_append_drop]

/-- A schema that holds what is built keeps what is built in. -/
theorem keepsBuiltIns_of_assembles :
  s.KeepsBuiltIns ds
  where
  names := by
    rw [OrderedMap.keys, ← List.map_take, take_entries gathers assembles]
    rfl
  scalars := by
    intro place name description found
    obtain ⟨small, -⟩ := List.getElem?_eq_some_iff.mp found
    have below : place < 5 := small
    rw [Schema.typeAt?, OrderedMap.entryAt?, ← List.getElem?_take_of_lt below,
      take_entries gathers assembles, List.getElem?_map, found]
    rfl
  kinds := by
    intro name builtIn d member
    obtain ⟨extension, held, v, rfl, built⟩ :=
      (gathers.forall₂_extensionsOf name).exists_right member
    obtain ⟨entry, entry_member, rfl⟩ := List.mem_map.mp builtIn
    obtain ⟨text, text_member, rfl⟩ := List.mem_map.mp entry_member
    have kind := kind_of_mem_extensionsOf assembles
      (BuiltIn.scalar_mem_allBases text_member bases) held
    rw [built.eq_define.2] at kind
    apply kind
  directives := by
    have five : BuiltIn.directives.1.entries.length = 5 := rfl
    rw [assembles.directives, ← five, List.take_left]
  later := definedTypes_eq gathers assembles
  defined := by
    rw [definedTypes_eq gathers assembles, map_head_drop_values gathers assembles]
  apart := by
    intro type member builtIn
    rw [definedTypes_eq gathers assembles, OrderedMap.values, ← List.map_drop] at member
    obtain ⟨entry, entry_member, rfl⟩ := List.mem_map.mp member
    obtain ⟨base, base_member, -, assembled⟩ :=
      (List.forall₂_drop_append _ _ _ assembles.types).exists_right entry_member
    have distinct := assembles.distinct
    rw [allBases, List.map_append, BuiltIn.map_name_values_scalars] at distinct
    apply (List.disjoint_of_nodup_append distinct) builtIn
    rw [assembled.name]
    apply List.mem_map_of_mem base_member

end Assembles

/-- The schema of a history keeps what is built in. -/
theorem History.keepsBuiltIns {options : Options} {ds : List (String × Definition)} {l : Loader}
    (h : History options ds l) {s : Schema} (linked : l.link = .ok s) :
  s.KeepsBuiltIns ds
  := by
  obtain ⟨n, rfl⟩ := h.eq_visitEach
  obtain ⟨bases, extensions, directives, gathers, assembles⟩ := assembles_visitEach linked
  apply keepsBuiltIns_of_assembles gathers assembles

/-- A text with two extensions of a built-in type. -/
def textWithExtendedScalar : String :=
  "extend scalar String@mark type Query{a:Int}directive@mark on SCALAR "
    ++ "extend scalar String@bind(to:\"text\")"

/-- In the schema of that text the type is still where it was, with an annotation and an external
name. -/
theorem keepsBuiltIns_extended :
  ∃ ds l s, History {} ds l ∧ l.link = .ok s
    ∧ ((s.typeAt? 4).map fun type =>
      (type.name, type.directives.map Annotation.name, type.bindTo, type.location))
        = some ("String", ["mark"], some "text", .builtIn)
    ∧ s.definedTypes.map TypeDefinition.name = ["Query"]
    ∧ s.KeepsBuiltIns ds
  := by
  have run : ((start {}).load none textWithExtendedScalar).toOption.any fun l =>
      l.link.toOption.any fun s =>
        decide (((s.typeAt? 4).map fun type =>
            (type.name, type.directives.map Annotation.name, type.bindTo, type.location))
          = some ("String", ["mark"], some "text", .builtIn)
          ∧ s.definedTypes.map TypeDefinition.name = ["Query"]) := by
    decide +kernel
  obtain ⟨l, loaded, run⟩ := Except.exists_ok_of_any run
  obtain ⟨s, linked, run⟩ := Except.exists_ok_of_any run
  obtain ⟨extended, defined⟩ := of_decide_eq_true run
  obtain ⟨ds, n, parsed, -⟩ := load_eq_ok loaded
  have history := History.start.load parsed loaded
  exact ⟨_, l, s, history, linked, extended, defined, history.keepsBuiltIns linked⟩

end Loader

end LinkedSchema
