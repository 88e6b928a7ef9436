import LinkedSchema.Proofs.Linking.Merging

/-!
# Assembly

A type is assembled from its definition and its extensions (`TypeDefinition.Assembled`) if it has
the members and the annotations of all of them, one after another, the first reference of each name
among their interfaces and their union members, and the first external name.  Extensions that do not
conflict assemble a type (`TypeDefinition.assembled_extendAll`).
-/

namespace LinkedSchema

/-- The first one of each name among references. -/
def firstOfEachName (references : List Reference) : List Reference :=
  references.eraseDupsBy fun r s => r.name == s.name

namespace TypeDefinition

/-- Whether a type is what its definition and its extensions make together. -/
structure Assembled (base : TypeDefinition) (extensions : List TypeDefinition)
    (type : TypeDefinition) : Prop where
  kind : type.kind = base.kind
  name : type.name = base.name
  description : type.description = base.description
  location : type.location = base.location
  fields : type.fields.entries = (base :: extensions).flatMap fun part => part.fields.entries
  inputFields :
    type.inputFields.entries = (base :: extensions).flatMap fun part => part.inputFields.entries
  values :
    type.enumValues.entries = (base :: extensions).flatMap fun part => part.enumValues.entries
  directives : type.directives = (base :: extensions).flatMap directives
  interfaces : type.interfaces = firstOfEachName ((base :: extensions).flatMap interfaces)
  members : type.members = firstOfEachName ((base :: extensions).flatMap members)
  bindTo : type.bindTo = (base :: extensions).findSome? bindTo

/-! ### References -/

/-- References are added if there is none of their name yet, and only the first of each name. -/
theorem addNew_eq (references others : List Reference) :
  addNew references others = references
    ++ firstOfEachName (others.filter fun other => other.name ∉ references.map Reference.name)
  := by
  induction others generalizing references with
  | nil => simp [addNew, firstOfEachName]
  | cons other rest ih =>
    have known_iff : (references.any fun reference => reference.name == other.name)
        ↔ other.name ∈ references.map Reference.name := by simp
    rw [addNew]
    split
    · next known =>
      rw [ih, List.filter_cons_of_neg]
      simpa using known_iff.mp known
    · next unknown =>
      have new := mt known_iff.mpr unknown
      rw [ih, List.filter_cons_of_pos (by simpa using new), firstOfEachName, firstOfEachName,
        List.eraseDupsBy_cons, List.filter_filter, List.append_assoc, List.singleton_append]
      congr 3
      apply List.filter_congr
      intro reference _
      rw [List.map_append, List.map_singleton, Bool.eq_iff_iff]
      simp only [List.mem_append, List.mem_singleton, not_or, decide_eq_true_eq, Bool.and_eq_true,
        beq_eq_false_iff_ne, and_comm, ne_eq]

/-- References added to none are the first ones of each name. -/
theorem addNew_nil (references : List Reference) :
  addNew [] references = firstOfEachName references
  := by
  rw [addNew_eq, List.nil_append]
  congr 1
  simp

theorem addNew_append (references others more : List Reference) :
  addNew references (others ++ more) = addNew (addNew references others) more
  := by
  induction others generalizing references with
  | nil => rfl
  | cons other rest ih =>
    rw [List.cons_append, addNew, addNew]
    split
    · apply ih
    · apply ih

/-- References of which no two have the same name are the first ones of each name. -/
theorem firstOfEachName_of_nodup {references : List Reference}
    (distinct : (references.map Reference.name).Nodup) :
  firstOfEachName references = references
  := by
  induction references with
  | nil => rfl
  | cons reference rest ih =>
    rw [List.map_cons, List.nodup_cons] at distinct
    have others : rest.filter (fun other => (other.name == reference.name) = false) = rest := by
      rw [List.filter_eq_self]
      intro other member
      apply decide_eq_true
      rw [beq_eq_false_iff_ne]
      intro same
      apply distinct.1
      rw [← same]
      apply List.mem_map_of_mem member
    rw [firstOfEachName, List.eraseDupsBy_cons, others, ← firstOfEachName, ih distinct.2]

/-- References that extensions add are the first ones of each name, if those of the type have
distinct names. -/
theorem references_extendAll {f : TypeDefinition → List Reference}
    (extend : ∀ base extension, f (base.extendWith extension) = addNew (f base) (f extension))
    {base : TypeDefinition} (distinct : ((f base).map Reference.name).Nodup)
    (extensions : List TypeDefinition) :
  f (base.extendAll extensions) = firstOfEachName ((base :: extensions).flatMap f)
  := by
  have all (base : TypeDefinition) :
      f (base.extendAll extensions) = addNew (f base) (extensions.flatMap f) := by
    induction extensions generalizing base with
    | nil => rfl
    | cons extension rest ih =>
      apply (ih _).trans
      rw [extend, List.flatMap_cons, addNew_append]
  rw [all, List.flatMap_cons, ← addNew_nil, addNew_append, addNew_nil (f base),
    firstOfEachName_of_nodup distinct]

/-! ### Members -/

/-- Members that extensions add stand after those of the type, if no two parts have members of one
name and no extension has two. -/
theorem entries_extendAll {δ : Type} {f : TypeDefinition → OrderedMap String δ}
    (extend : ∀ base extension,
      f (base.extendWith extension) = (f base).insertAll (f extension).entries)
    {base : TypeDefinition} {extensions : List TypeDefinition}
    (apart : (base :: extensions).Pairwise fun part other => (f part).keys.Disjoint (f other).keys)
    (distinct : ∀ extension ∈ extensions, (f extension).keys.Nodup) :
  (f (base.extendAll extensions)).entries
    = (base :: extensions).flatMap fun part => (f part).entries
  := by
  induction extensions generalizing base with
  | nil => simp [extendAll]
  | cons extension rest ih =>
    obtain ⟨first, others⟩ := List.pairwise_cons.mp apart
    obtain ⟨second, others⟩ := List.pairwise_cons.mp others
    have disjoint : ∀ key ∈ (f extension).keys, key ∉ (f base).keys :=
      fun key added own => first extension List.mem_cons_self own added
    have extended : (f (base.extendWith extension)).entries
        = (f base).entries ++ (f extension).entries := by
      rw [extend]
      apply OrderedMap.entries_insertAll (distinct extension List.mem_cons_self) disjoint
    have rest_apart : (base.extendWith extension :: rest).Pairwise
        fun part other => (f part).keys.Disjoint (f other).keys := by
      refine List.pairwise_cons.mpr ⟨?_, others⟩
      intro other member
      rw [OrderedMap.keys, extended, List.map_append, List.disjoint_append_left]
      exact ⟨first other (List.mem_cons_of_mem _ member), second other member⟩
    apply (ih rest_apart fun other member => distinct other (List.mem_cons_of_mem _ member)).trans
    rw [List.flatMap_cons, extended, List.flatMap_cons, List.flatMap_cons, List.append_assoc]

/-! ### Everything else -/

theorem directives_extendAll (base : TypeDefinition) (extensions : List TypeDefinition) :
  (base.extendAll extensions).directives = (base :: extensions).flatMap directives
  := by
  induction extensions generalizing base with
  | nil => simp [extendAll]
  | cons extension rest ih =>
    apply (ih (base.extendWith extension)).trans
    simp only [List.flatMap_cons, extendWith, List.append_assoc]

theorem bindTo_extendAll (base : TypeDefinition) (extensions : List TypeDefinition) :
  (base.extendAll extensions).bindTo = (base :: extensions).findSome? bindTo
  := by
  induction extensions generalizing base with
  | nil => cases bound : base.bindTo <;> simp [extendAll, bound]
  | cons extension rest ih =>
    apply (ih (base.extendWith extension)).trans
    simp only [List.findSome?_cons, extendWith]
    cases base.bindTo <;> simp

/-- Extensions change neither the kind, the name, the description nor the location. -/
theorem heading_extendAll (base : TypeDefinition) (extensions : List TypeDefinition) :
  (base.extendAll extensions).kind = base.kind
    ∧ (base.extendAll extensions).name = base.name
    ∧ (base.extendAll extensions).description = base.description
    ∧ (base.extendAll extensions).location = base.location
  := by
  induction extensions generalizing base with
  | nil => exact ⟨rfl, rfl, rfl, rfl⟩
  | cons extension rest ih => apply ih (base.extendWith extension)

/-- Extensions that conflict neither with a type nor with each other assemble a type. -/
theorem assembled_extendAll {directives : DirectiveTable} {base : TypeDefinition}
    {extensions : List TypeDefinition} (apart : (base :: extensions).Pairwise (Apart directives))
    (distinct : ∀ extension ∈ extensions, extension.Distinct)
    (interfaces : (base.interfaces.map Reference.name).Nodup)
    (members : (base.members.map Reference.name).Nodup) :
  Assembled base extensions (base.extendAll extensions)
  := by
  obtain ⟨kind, name, description, location⟩ := heading_extendAll base extensions
  have disjoint := apart.imp fun together => ((apart_iff directives _ _).mp together).2
  exact {
    kind := kind
    name := name
    description := description
    location := location
    fields := entries_extendAll (fun _ _ => rfl) (disjoint.imp fun h => h.1)
      fun extension member => (distinct extension member).fields
    inputFields := entries_extendAll (fun _ _ => rfl) (disjoint.imp fun h => h.2.1)
      fun extension member => (distinct extension member).inputFields
    values := entries_extendAll (fun _ _ => rfl) (disjoint.imp fun h => h.2.2)
      fun extension member => (distinct extension member).values
    directives := directives_extendAll base extensions
    interfaces := references_extendAll (fun _ _ => rfl) interfaces extensions
    members := references_extendAll (fun _ _ => rfl) members extensions
    bindTo := bindTo_extendAll base extensions }

end TypeDefinition

end LinkedSchema
