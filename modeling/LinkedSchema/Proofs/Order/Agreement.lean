import LinkedSchema.Proofs.Acceptance.Assembled
import LinkedSchema.Proofs.FirstOccurrences
import LinkedSchema.Proofs.Order.Coherence
import LinkedSchema.Proofs.Order.Unnumbered

/-!
# Agreement

Types agree if they are the same but for the symbols of references and the order of their members
(`TypeDefinition.Agrees`).  Types that are assembled from the same parts, in any order, agree
(`TypeDefinition.Assembled.agrees`), and have the same external name if the definition of the type
gives one or at most one extension does (`TypeDefinition.Assembled.bindTo_eq`).
-/

namespace LinkedSchema

open Document (AppliedDirective Definition TypeNode)
open Loader (extensionsOf)

namespace TypeDefinition

/-- Whether types are the same but for the symbols of references, the order of their members and
their external names. -/
structure Agrees (type other : TypeDefinition) : Prop where
  kind : type.kind = other.kind
  description : type.description = other.description
  location : type.location = other.location
  fields : type.unnumbered.fields.entries.Perm other.unnumbered.fields.entries
  inputFields : type.unnumbered.inputFields.entries.Perm other.unnumbered.inputFields.entries
  values : type.enumValues.entries.Perm other.enumValues.entries
  directives : type.directives.Perm other.directives
  interfaces : (type.interfaces.map Reference.name).Perm (other.interfaces.map Reference.name)
  members : (type.members.map Reference.name).Perm (other.members.map Reference.name)

theorem map_name_unnumbered (references : List Reference) :
  (references.map Reference.unnumbered).map Reference.name = references.map Reference.name
  := List.map_map

/-- The names of the first references of each name are the first occurrences of the names. -/
theorem map_name_firstOfEachName (references : List Reference) :
  (firstOfEachName references).map Reference.name = (references.map Reference.name).eraseDups
  := by
  match references with
  | [] => rfl
  | reference :: rest =>
    have smaller := map_name_firstOfEachName
      (rest.filter fun r => (r.name == reference.name) = false)
    rw [firstOfEachName, List.eraseDupsBy_cons, ← firstOfEachName, List.map_cons, smaller,
      List.map_cons, List.eraseDups_cons, List.filter_map]
    congr 4
    funext r
    rw [Bool.eq_iff_iff]
    simp
termination_by references.length
decreasing_by exact Nat.lt_succ_of_le (List.length_filter_le _ _)

/-! ### Parts without symbols -/

section Parts

variable {parts others : List TypeDefinition}
  (same : (parts.map unnumbered).Perm (others.map unnumbered))

include same

/-- What does not depend on symbols is the same for parts that are the same without symbols. -/
theorem flatMap_perm_of_unnumbered {α : Type} {f g : TypeDefinition → List α}
    (agree : ∀ part, g part = f part.unnumbered) :
  (parts.flatMap g).Perm (others.flatMap g)
  := by
  have read (list : List TypeDefinition) : list.flatMap g = (list.map unnumbered).flatMap f := by
    rw [List.flatMap_map]
    congr 1
    funext part
    apply agree
  rw [read, read]
  apply same.flatMap_right

/-- The names of the first references of each name are the same for such parts. -/
theorem firstOfEachName_perm_of_unnumbered {f : TypeDefinition → List Reference}
    (agree : ∀ part, (f part).map Reference.name = (f part.unnumbered).map Reference.name) :
  ((firstOfEachName (parts.flatMap f)).map Reference.name).Perm
    ((firstOfEachName (others.flatMap f)).map Reference.name)
  := by
  rw [map_name_firstOfEachName, map_name_firstOfEachName, List.map_flatMap, List.map_flatMap]
  apply List.Perm.eraseDups
  apply flatMap_perm_of_unnumbered (f := fun part => (f part).map Reference.name) same agree

end Parts

section Assembled

variable {base base' type type' : TypeDefinition} {extensions extensions' : List TypeDefinition}
  (assembled : Assembled base extensions type) (assembled' : Assembled base' extensions' type')
  (bases : base.unnumbered = base'.unnumbered)
  (same : (extensions.map unnumbered).Perm (extensions'.map unnumbered))

include assembled assembled' bases same

/-- Types that are assembled from the same parts, but for symbols and order, agree. -/
theorem Assembled.agrees :
  type.Agrees type'
  := by
  have parts : ((base :: extensions).map unnumbered).Perm
      ((base' :: extensions').map unnumbered) := by
    rw [List.map_cons, List.map_cons, bases]
    apply same.cons
  constructor
  · rw [assembled.kind, assembled'.kind]
    apply congrArg TypeDefinition.kind bases
  · rw [assembled.description, assembled'.description]
    apply congrArg TypeDefinition.description bases
  · rw [assembled.location, assembled'.location]
    apply congrArg TypeDefinition.location bases
  · simp only [unnumbered, OrderedMap.mapValues, assembled.fields, assembled'.fields,
      List.map_flatMap]
    apply flatMap_perm_of_unnumbered (f := fun part => part.fields.entries) parts
    intro part
    rfl
  · simp only [unnumbered, OrderedMap.mapValues, assembled.inputFields, assembled'.inputFields,
      List.map_flatMap]
    apply flatMap_perm_of_unnumbered (f := fun part => part.inputFields.entries) parts
    intro part
    rfl
  · rw [assembled.values, assembled'.values]
    apply flatMap_perm_of_unnumbered (f := fun part => part.enumValues.entries) parts
    intro part
    rfl
  · rw [assembled.directives, assembled'.directives]
    apply flatMap_perm_of_unnumbered (f := TypeDefinition.directives) parts
    intro part
    rfl
  · rw [assembled.interfaces, assembled'.interfaces]
    apply firstOfEachName_perm_of_unnumbered parts
    intro part
    apply (map_name_unnumbered _).symm
  · rw [assembled.members, assembled'.members]
    apply firstOfEachName_perm_of_unnumbered parts
    intro part
    apply (map_name_unnumbered _).symm

/-- Such types have the same external name if the definition gives one or at most one extension
does. -/
theorem Assembled.bindTo_eq
    (once : base.bindTo.isSome ∨ extensions.countP (fun e => e.bindTo.isSome) ≤ 1) :
  type.bindTo = type'.bindTo
  := by
  have same_own : base.bindTo = base'.bindTo := (congrArg TypeDefinition.bindTo bases :)
  rw [assembled.bindTo, assembled'.bindTo, List.findSome?_cons, List.findSome?_cons, ← same_own]
  cases given : base.bindTo with
  | some text => rfl
  | none =>
    rw [given] at once
    have few := once.resolve_left Bool.false_ne_true
    have short : ((extensions.map unnumbered).filterMap TypeDefinition.bindTo).length ≤ 1 := by
      rw [List.filterMap_map, List.length_filterMap_eq_countP]
      apply few
    have read (list : List TypeDefinition) : list.findSome? TypeDefinition.bindTo
        = ((list.map unnumbered).filterMap TypeDefinition.bindTo).head? := by
      rw [List.head?_filterMap, List.findSome?_map]
      rfl
    rw [read, read, eq_of_perm_of_length_le_one (same.filterMap _) short]

end Assembled

end TypeDefinition

/-! ### Types of schemas -/

namespace Schema

section Assembles

variable {s : Schema} {bases extensions : List TypeDefinition}
  {directives : List DirectiveDefinition} (assembles : s.Assembles bases extensions directives)

include assembles

theorem Assembles.keys_eq :
  s.types.keys = (allBases bases).map TypeDefinition.name
  := by
  apply assembles.types.map_eq
  intro entry base same
  apply same.1

/-- A type of a schema is assembled from one that is there to be extended. -/
theorem Assembles.exists_base {entry : String × TypeDefinition}
    (member : entry ∈ s.types.entries) :
  ∃ base ∈ allBases bases, base.name = entry.1
    ∧ base.Assembled (extensionsOf extensions entry.1) entry.2
  := by
  obtain ⟨base, base_member, named, assembled⟩ := assembles.types.exists_right member
  use base, base_member, named.symm
  rw [named]
  apply assembled

end Assembles

section Pair

variable {s s' : Schema} {bases bases' extensions extensions' : List TypeDefinition}
  {directives directives' : List DirectiveDefinition}
  (assembles : s.Assembles bases extensions directives)
  (assembles' : s'.Assembles bases' extensions' directives')
  (same_bases : (bases.map TypeDefinition.unnumbered).Perm (bases'.map TypeDefinition.unnumbered))
  (same_extensions : (extensions.map TypeDefinition.unnumbered).Perm
    (extensions'.map TypeDefinition.unnumbered))

include same_bases in
theorem allBases_perm :
  ((allBases bases).map TypeDefinition.unnumbered).Perm
    ((allBases bases').map TypeDefinition.unnumbered)
  := by
  rw [allBases, allBases, List.map_append, List.map_append]
  apply same_bases.append_left

include same_extensions in
theorem extensionsOf_perm (name : String) :
  ((extensionsOf extensions name).map TypeDefinition.unnumbered).Perm
    ((extensionsOf extensions' name).map TypeDefinition.unnumbered)
  := by
  have read (list : List TypeDefinition) : (extensionsOf list name).map TypeDefinition.unnumbered
      = (list.map TypeDefinition.unnumbered).filter fun type => type.name = name := by
    rw [List.filter_map]
    rfl
  rw [read, read]
  apply same_extensions.filter

include same_bases in
/-- Types of one name are the same without symbols. -/
theorem unnumbered_eq_of_name_eq (distinct : ((allBases bases').map TypeDefinition.name).Nodup)
    {base base' : TypeDefinition} (member : base ∈ allBases bases)
    (member' : base' ∈ allBases bases') (named : base.name = base'.name) :
  base.unnumbered = base'.unnumbered
  := by
  obtain ⟨other, other_member, same⟩ := List.mem_map.mp
    ((allBases_perm same_bases).mem_iff.mp (List.mem_map_of_mem member))
  have same_name : other.name = base'.name := (congrArg TypeDefinition.name same).trans named
  cases List.inj_on_of_nodup_map distinct other_member member' same_name
  apply same.symm

include assembles assembles' same_bases

/-- Schemas that are assembled from the same types have the same names of types. -/
theorem Assembles.keys_perm :
  s.types.keys.Perm s'.types.keys
  := by
  have read (list : List TypeDefinition) : list.map TypeDefinition.name
      = (list.map TypeDefinition.unnumbered).map TypeDefinition.name := by
    rw [List.map_map]
    rfl
  rw [assembles.keys_eq, assembles'.keys_eq, read (allBases bases), read (allBases bases')]
  apply (allBases_perm same_bases).map

omit same_bases in
/-- Schemas that are assembled from the same directives have the same directives. -/
theorem Assembles.directives_perm (same_directives :
    (directives.map DirectiveDefinition.unnumbered).Perm
      (directives'.map DirectiveDefinition.unnumbered)) :
  (s.directives.mapValues DirectiveDefinition.unnumbered).entries.Perm
    (s'.directives.mapValues DirectiveDefinition.unnumbered).entries
  := by
  have read (list : List DirectiveDefinition) : (list.map fun directive =>
      (directive.name, directive)).map (fun entry => (entry.1, entry.2.unnumbered))
        = (list.map DirectiveDefinition.unnumbered).map fun directive =>
          (directive.name, directive) := by
    rw [List.map_map, List.map_map]
    rfl
  simp only [OrderedMap.mapValues, assembles.directives, assembles'.directives, List.map_append,
    read]
  apply (same_directives.map _).append_left

include same_extensions

/-- Types of one name agree, and have the same external name if the definition of the type gives one
or at most one extension does. -/
theorem Assembles.agrees {name : String} {type type' : TypeDefinition}
    (found : s.type? name = some type) (found' : s'.type? name = some type') :
  type.Agrees type' ∧ ((∀ base ∈ allBases bases, base.name = name → base.bindTo.isSome
      ∨ (extensionsOf extensions name).countP (fun e => e.bindTo.isSome) ≤ 1) →
    type.bindTo = type'.bindTo)
  := by
  obtain ⟨base, member, named, assembled⟩ :=
    assembles.exists_base (OrderedMap.mem_of_lookup found)
  obtain ⟨base', member', named', assembled'⟩ :=
    assembles'.exists_base (OrderedMap.mem_of_lookup found')
  have same_base := unnumbered_eq_of_name_eq same_bases assembles'.distinct member member'
    (named.trans named'.symm)
  have same := extensionsOf_perm same_extensions name
  use assembled.agrees assembled' same_base same
  intro once
  apply assembled.bindTo_eq assembled' same_base same (once base member named)

end Pair

end Schema

end LinkedSchema
