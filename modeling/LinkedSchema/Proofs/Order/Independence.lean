import LinkedSchema.Proofs.Acceptance.Acceptance
import LinkedSchema.Proofs.Linking.RootTypes
import LinkedSchema.Proofs.Order.Agreement

/-!
# Independence of the order

Definitions that are visited in one order make a schema if and only if they do in another
(`Loader.link_isOk_iff_of_perm`), and the two schemas agree (`Loader.agrees_of_perm`): they hold the
same types, the same directives and the same types for operations.
-/

namespace LinkedSchema

open Document
open Loader (extensionsOf)

/-! ### Bindings -/

/-- Whether a node gives an external name to its type. -/
def Document.TypeNode.binds (node : TypeNode) : Bool :=
  node.directives.any fun d => d.name == bindName

/-- Whether the definition of the type with a name gives an external name, or at most one of its
extensions does. -/
def BindsOnce (ds : List Definition) (name : String) : Prop :=
  (∃ node ∈ typeNodes ds, node.name = name ∧ node.binds)
    ∨ (extensionNodes ds).countP (fun node => node.name = name ∧ node.binds) ≤ 1

/-- Directives that are well bound give an external name if there is a binding among them. -/
theorem isSome_bindingOf {directives : List AppliedDirective} (bound : WellBound directives)
    (location : Location) :
  (bindingOf location directives).1.isSome = directives.any fun d => d.name == bindName
  := by
  rw [bindingOf]
  split
  · next none_found =>
    rw [List.filter_eq_nil_iff] at none_found
    rw [Option.isSome_none, eq_comm, List.any_eq_false]
    apply none_found
  · next first others found =>
    obtain ⟨member, named⟩ := List.mem_filter.mp (found ▸ List.mem_cons_self : first ∈ _)
    have given := bound.2 first member (beq_iff_eq.mp named)
    have there : (directives.any fun d => d.name == bindName) = true :=
      List.any_eq_true.mpr ⟨first, member, named⟩
    rw [there]
    obtain ⟨text, found_text⟩ := Option.isSome_iff_exists.mp given
    simp only [found_text, Option.isSome_some]

namespace Loader

/-- What is built at a visit has the name of the node, and an external name if the node gives
one. -/
theorem Visit.Builds.heading {v : Visit TypeNode} {type : TypeDefinition} (h : v.Builds type) :
  (type.name, type.bindTo.isSome) = (v.node.name, v.node.binds)
  := by
  obtain ⟨sound, rfl⟩ := h.eq_define
  rw [TypeNode.define, TypeNode.binds, isSome_bindingOf sound.binding]

section Gathers

variable {l : Loader} {ds : List (String × Definition)} {bases extensions : List TypeDefinition}
  {directives : List DirectiveDefinition} (gathers : l.Gathers ds bases extensions directives)

include gathers

theorem Gathers.headings_bases :
  bases.map (fun type => (type.name, type.bindTo.isSome))
    = (typeNodes (ds.map Prod.snd)).map fun node => (node.name, node.binds)
  := by
  rw [typeNodes, ← map_node_visits _ l, List.map_map]
  symm
  apply gathers.bases.map_eq
  intro v type built
  apply built.heading.symm

theorem Gathers.headings_extensions :
  extensions.map (fun type => (type.name, type.bindTo.isSome))
    = (extensionNodes (ds.map Prod.snd)).map fun node => (node.name, node.binds)
  := by
  rw [extensionNodes, ← map_node_visits _ l, List.map_map]
  symm
  apply gathers.extensions.map_eq
  intro v type built
  apply built.heading.symm

/-- If the definition of a type gives an external name, or at most one of its extensions does, this
is so of what is built. -/
theorem Gathers.binds_once (distinct : ((allBases bases).map TypeDefinition.name).Nodup)
    {base : TypeDefinition} (member : base ∈ allBases bases)
    (once : BindsOnce (ds.map Prod.snd) base.name) :
  base.bindTo.isSome ∨ (extensionsOf extensions base.name).countP (fun e => e.bindTo.isSome) ≤ 1
  := by
  rcases once with ⟨node, node_member, named, binds⟩ | few
  · left
    have heading : (base.name, true) ∈ bases.map fun type => (type.name, type.bindTo.isSome) := by
      rw [gathers.headings_bases, ← named, ← binds]
      apply List.mem_map_of_mem node_member
    obtain ⟨other, other_member, same⟩ := List.mem_map.mp heading
    cases List.inj_on_of_nodup_map distinct (List.mem_append_right _ other_member) member
      (congrArg Prod.fst same)
    apply congrArg Prod.snd same
  · right
    have counts := congrArg (List.countP fun heading => heading.1 = base.name ∧ heading.2)
      gathers.headings_extensions
    rw [List.countP_map, List.countP_map] at counts
    rw [extensionsOf, List.countP_filter]
    apply Nat.le_trans (Nat.le_of_eq _) few
    apply Eq.trans _ counts
    congr 1
    funext e
    simp [and_comm]

end Gathers

end Loader

/-! ### Agreement of schemas -/

/-- The name of the type of an operation, if it has one. -/
def Schema.rootTypeName? (s : Schema) (operation : Operation) : Option String :=
  match operation with
  | .query => s.queryType?.map TypeDefinition.name
  | .mutation => s.mutationType?.map TypeDefinition.name
  | .subscription => s.subscriptionType?.map TypeDefinition.name

theorem Schema.rootTypeName?_eq_map (s : Schema) (operation : Operation) :
  s.rootTypeName? operation = (s.rootType? operation).map TypeDefinition.name
  := by cases operation <;> rfl

/-- Whether schemas made of some definitions are the same but for the symbols of references and the
order in which things stand. -/
structure Schema.Agrees (ds : List Definition) (s other : Schema) : Prop where
  names : s.types.keys.Perm other.types.keys
  directives : (s.directives.mapValues DirectiveDefinition.unnumbered).entries.Perm
    (other.directives.mapValues DirectiveDefinition.unnumbered).entries
  roots : ∀ operation, s.rootTypeName? operation = other.rootTypeName? operation
  types : ∀ name type type', s.type? name = some type → other.type? name = some type' →
    type.Agrees type'
  bindings : ∀ name type type', s.type? name = some type → other.type? name = some type' →
    BindsOnce ds name → type.bindTo = type'.bindTo

namespace Loader

/-! ### Acceptance -/

/-- Definitions of which a schema is made fit together. -/
theorem Accounts.coherent_of_link {options : Options} {ds : List Definition} {l : Loader}
    (accounts : Accounts options ds l) (linked : l.link.isOk) :
  Coherent options ds
  := by
  obtain ⟨rfl, declared, loaded_iff, held⟩ := accounts
  obtain ⟨loaded, clean, bindings, bound, checked, placed⟩ := (link_isOk_iff l).mp linked
  apply (held loaded).coherent (loaded_iff.mp loaded) clean declared bound checked placed

/-- Definitions that fit together make a schema. -/
theorem Accounts.link_isOk_of_coherent {options : Options} {ds : List Definition} {l : Loader}
    (accounts : Accounts options ds l) (coherent : Coherent options ds) :
  l.link.isOk
  := by
  obtain ⟨rfl, declared, loaded_iff, held⟩ := accounts
  have loadable := loadable_of_coherent coherent
  have loaded := loaded_iff.mpr loadable
  have holds := held loaded
  have clean := holds.merged_spec.1.mpr (holds.mergeable_of_coherent coherent)
  obtain ⟨bindings, bound⟩ := holds.exists_bind_of_coherent clean coherent
  have checked := (holds.checkFaults_eq_nil_iff loadable clean declared bound coherent.query).mpr
    ⟨coherent.applications, coherent.mentions, coherent.rootKinds, coherent.distinctRoots⟩
  have placed := (holds.hasRoot_iff loadable clean .query).mpr coherent.query
  apply (link_isOk_iff l).mpr ⟨loaded, clean, bindings, bound, checked, placed⟩

section Perm

variable {options : Options} {ds es : List (String × Definition)} (rearranged : ds.Perm es)

include rearranged

/-- Definitions make a schema in one order if and only if they do in another. -/
theorem link_isOk_iff_of_perm :
  ((start options).visitEach ds).link.isOk ↔ ((start options).visitEach es).link.isOk
  := by
  have accounts := (accounts_start options).visitEach ds
  have accounts' := (accounts_start options).visitEach es
  have coherent_iff := coherent_iff_of_perm
    ((rearranged.map Prod.snd).append_left BuiltIn.definitions) options
  constructor
  · intro linked
    apply accounts'.link_isOk_of_coherent
    apply coherent_iff.mp (accounts.coherent_of_link linked)
  · intro linked
    apply accounts.link_isOk_of_coherent
    apply coherent_iff.mpr (accounts'.coherent_of_link linked)

end Perm

/-! ### Types of operations -/

/-- An operation of a schema has the type that the definitions say, if they define an object type of
that name. -/
theorem rootTypeName?_eq_some_iff {options : Options} {ds : List (String × Definition)} {s : Schema}
    (linked : ((start options).visitEach ds).link = .ok s) (operation : Operation) (name : String) :
  s.rootTypeName? operation = some name
    ↔ HasRoot (BuiltIn.definitions ++ ds.map Prod.snd) operation
      ∧ Document.rootName (BuiltIn.definitions ++ ds.map Prod.snd) operation = name
  := by
  have accounts := (accounts_start options).visitEach ds
  obtain ⟨bases, extensions, directives, gathers, assembles⟩ := assembles_visitEach linked
  generalize (start options).visitEach ds = l at *
  obtain ⟨clean, merged, -, -, -, types, -⟩ := (link_eq_ok_iff _ _).mp linked
  have holds := accounts.holds clean
  rw [Schema.rootTypeName?_eq_map, Schema.rootType?_eq_bind,
    ← holds.hasRoot_iff (accounts.loadable.mp clean) merged, ← holds.rootName_eq, ← types,
    ← rootPlace?_of_link linked]
  cases chosen : s.rootPlace? operation with
  | none => simp
  | some place =>
    obtain ⟨type, entry, -⟩ := exists_entry_of_link linked chosen
    obtain ⟨base, -, named, assembled⟩ := assembles.exists_base (List.mem_of_getElem? entry)
    have found : s.typeAt? place = some type := by
      rw [Schema.typeAt?, entry]
      rfl
    have type_name : type.name = Loader.rootName l.roots operation := assembled.name.trans named
    simp [found, type_name]

/-! ### Agreement -/

/-- The schemas that definitions make in two orders agree. -/
theorem agrees_of_perm {options : Options} {ds es : List (String × Definition)}
    (rearranged : ds.Perm es) {s s' : Schema}
    (linked : ((start options).visitEach ds).link = .ok s)
    (linked' : ((start options).visitEach es).link = .ok s') :
  s.Agrees (ds.map Prod.snd) s'
  := by
  obtain ⟨bases, extensions, directives, gathers, assembles⟩ := assembles_visitEach linked
  obtain ⟨bases', extensions', directives', gathers', assembles'⟩ := assembles_visitEach linked'
  have same_bases : (bases.map TypeDefinition.unnumbered).Perm
      (bases'.map TypeDefinition.unnumbered) := by
    rw [gathers.map_unnumbered_bases, gathers'.map_unnumbered_bases]
    apply (rearranged.filterMap _).map
  have same_extensions : (extensions.map TypeDefinition.unnumbered).Perm
      (extensions'.map TypeDefinition.unnumbered) := by
    rw [gathers.map_unnumbered_extensions, gathers'.map_unnumbered_extensions]
    apply (rearranged.filterMap _).map
  have same_directives : (directives.map DirectiveDefinition.unnumbered).Perm
      (directives'.map DirectiveDefinition.unnumbered) := by
    rw [gathers.map_unnumbered_directives, gathers'.map_unnumbered_directives]
    apply (rearranged.filterMap _).map
  constructor
  · apply assembles.keys_perm assembles' same_bases
  · apply assembles.directives_perm assembles' same_directives
  · intro operation
    have coherent := ((accounts_start options).visitEach ds).coherent_of_link (by rw [linked]; rfl)
    have all := (rearranged.map Prod.snd).append_left BuiltIn.definitions
    apply Option.ext
    intro name
    rw [rootTypeName?_eq_some_iff linked, rootTypeName?_eq_some_iff linked',
      hasRoot_iff_of_perm all coherent.roots, rootName_eq_of_perm all coherent.roots]
  · intro name type type' found found'
    apply (assembles.agrees assembles' same_bases same_extensions found found').1
  · intro name type type' found found' once
    apply (assembles.agrees assembles' same_bases same_extensions found found').2
    rintro base member rfl
    apply gathers.binds_once assembles.distinct member once

/-- The order of definitions matters neither to whether they make a schema nor, but for symbols and
order, to the schema that they make. -/
theorem link_perm {options : Options} {ds es : List (String × Definition)}
    (rearranged : ds.Perm es) :
  (((start options).visitEach ds).link.isOk ↔ ((start options).visitEach es).link.isOk)
    ∧ ∀ s s', ((start options).visitEach ds).link = .ok s →
      ((start options).visitEach es).link = .ok s' → s.Agrees (ds.map Prod.snd) s'
  := ⟨link_isOk_iff_of_perm rearranged, fun _ _ => agrees_of_perm rearranged⟩

/-- A text with two extensions of one type, one of them before it. -/
def textWithTwoExtensions : String :=
  "extend type Query{b:Node}type Query{a(x:Int):[ID]}interface Node{id:ID}"
    ++ "extend type Query@bind(to:\"q\"){c:Int}"

/-- The definitions of that text make schemas that agree in both directions of reading, though the
members of their types stand in different orders. -/
theorem link_perm_two_extensions :
  ∃ ds s s', ((start {}).visitEach ds).link = .ok s
    ∧ ((start {}).visitEach ds.reverse).link = .ok s'
    ∧ (s.type? "Query").map (fun type => type.fields.keys) = some ["a", "b", "c"]
    ∧ (s'.type? "Query").map (fun type => type.fields.keys) = some ["a", "c", "b"]
    ∧ s.Agrees (ds.map Prod.snd) s'
  := by
  have run : (Document.parseSchema textWithTwoExtensions).toOption.any fun ds =>
      ((start {}).visitEach (ds.map fun d => ("s", d))).link.toOption.any fun s =>
        ((start {}).visitEach (ds.map fun d => ("s", d)).reverse).link.toOption.any fun s' =>
          decide ((s.type? "Query").map (fun type => type.fields.keys) = some ["a", "b", "c"]
            ∧ (s'.type? "Query").map (fun type => type.fields.keys) = some ["a", "c", "b"]) := by
    decide +kernel
  obtain ⟨ds, -, run⟩ := Except.exists_ok_of_any run
  obtain ⟨s, linked, run⟩ := Except.exists_ok_of_any run
  obtain ⟨s', linked', run⟩ := Except.exists_ok_of_any run
  obtain ⟨fields, fields'⟩ := of_decide_eq_true run
  have backwards := (List.reverse_perm (ds.map fun d => ("s", d))).symm
  exact ⟨_, s, s', linked, linked', fields, fields', (link_perm backwards).2 s s' linked linked'⟩

end Loader

end LinkedSchema
