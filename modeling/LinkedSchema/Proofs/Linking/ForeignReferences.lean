import LinkedSchema.Proofs.Linking.Resolution
import LinkedSchema.Proofs.Linking.WellFormed

/-!
# Foreign references

A schema can be asked for any reference, also for one that another loader issued or that was made
up.  Its symbol is then a mere number, and may be that of a declaration of another name.  A
reference resolves if and only if its name is declared in the place that its symbol says, and then
to the type of its name; in all other cases it dangles (`Schema.resolve_iff_names`).  The references
that the loader of the schema issued all resolve, also those that the merge of extensions drops
(`Loader.Issues.names`).
-/

namespace LinkedSchema

/-! ### Names -/

/-- Whether the name of a reference is declared in the place that its symbol says. -/
def Registry.Names (registry : Registry) (r : Reference) : Prop :=
  ∃ bounded : r.symbol < registry.declared.length, registry.declared[r.symbol].name = r.name

instance (registry : Registry) (r : Reference) : Decidable (registry.Names r) :=
  inferInstanceAs (Decidable (∃ _ : _ < _, _ = _))

/-- The name of a reference is declared in its place if and only if a declaration of the name stands
there. -/
theorem Registry.names_iff (registry : Registry) (r : Reference) :
  registry.Names r
    ↔ ∃ declaration, registry.declared[r.symbol]? = some declaration ∧ declaration.name = r.name
  := by
  constructor
  · rintro ⟨bounded, same⟩
    use registry.declared[r.symbol], List.getElem?_eq_getElem bounded, same
  · rintro ⟨declaration, found, same⟩
    obtain ⟨bounded, rfl⟩ := List.getElem?_eq_some_iff.mp found
    use bounded, same

/-- Whether a loader issued a reference: whether it stands in a definition or an extension that was
taken up. -/
def Loader.Issues (l : Loader) (r : Reference) : Prop :=
  (∃ type ∈ l.types.values, r ∈ type.references)
    ∨ (∃ extension ∈ l.extensions, r ∈ extension.references)
    ∨ ∃ directive ∈ l.directives.values, r ∈ directive.references

/-- The name of every reference that a reachable loader issued is declared in its place. -/
theorem Loader.Issues.names {options : Options} {l : Loader} {r : Reference} (issued : l.Issues r)
    (reached : l.Reachable options) :
  l.registry.Names r
  := by
  have declares : l.registry.Declares r := by
    rcases issued with ⟨type, member, r⟩ | ⟨extension, member, r⟩ | ⟨directive, member, r⟩
    · obtain ⟨entry, there, rfl⟩ := List.mem_map.mp member
      apply reached.declared.types entry there _ r
    · apply reached.declared.extensions extension member _ r
    · obtain ⟨entry, there, rfl⟩ := List.mem_map.mp member
      apply reached.declared.directives entry there _ r
  apply (Registry.names_iff _ r).mpr ⟨_, declares, rfl⟩

/-! ### Resolution -/

namespace Schema

/-- A reference resolves to a place if and only if its symbol is bound to it and the type of its
name stands there. -/
theorem resolvePlace?_eq_some_iff (s : Schema) (r : Reference) (place : Nat) :
  s.resolvePlace? r = some place
    ↔ s.bindings.get? r.symbol = some place ∧ ∃ type, s.types.entryAt? place = some (r.name, type)
  := by
  rw [resolvePlace?, Option.filter_eq_some_iff]
  apply and_congr_right
  intro _
  cases s.types.entryAt? place with
  | none => simp
  | some entry => simp [Prod.ext_iff]

/-- A reference that resolves to no place dangles. -/
theorem resolve_of_resolvePlace?_eq_none {s : Schema} {r : Reference}
    (unresolved : s.resolvePlace? r = none) :
  s.resolve r = .error ⟨r.name⟩
  := by rw [resolve, unresolved, Option.bind_none]

section Linked

variable {l : Loader} {s : Schema} (linked : l.link = .ok s)

include linked

/-- In a linked schema, a reference resolves to a place if and only if its name is declared in the
place that its symbol says, and is that of the type there. -/
theorem resolvePlace?_iff_names (r : Reference) (place : Nat) :
  s.resolvePlace? r = some place ↔ l.registry.Names r ∧ s.place? r.name = some place
  := by
  obtain ⟨-, -, bound, -, -, types, -⟩ := (Loader.link_eq_ok_iff l s).mp linked
  rw [← types] at bound
  rw [resolvePlace?_eq_some_iff, Registry.names_iff, Registry.get?_bind bound,
    Option.bind_eq_some_iff]
  constructor
  · rintro ⟨⟨declaration, found, placed⟩, type, entry⟩
    -- The place is that of the declared name, so the entry there tells that it is the name asked.
    obtain ⟨_, declared_entry, -⟩ := OrderedMap.entryAt?_of_indexOf? placed
    rw [entry, Option.some.injEq, Prod.mk.injEq] at declared_entry
    rw [place?, declared_entry.1]
    exact ⟨⟨declaration, found, rfl⟩, placed⟩
  · rintro ⟨⟨declaration, found, same⟩, placed⟩
    obtain ⟨type, entry, -⟩ := OrderedMap.entryAt?_of_indexOf? placed
    rw [← same] at placed
    exact ⟨⟨declaration, found, placed⟩, type, entry⟩

/-- In a linked schema, there is a type of every name that is declared. -/
theorem exists_place?_of_names {r : Reference} (named : l.registry.Names r) :
  ∃ place, s.place? r.name = some place
  := by
  obtain ⟨-, -, bound, -, -, types, -⟩ := (Loader.link_eq_ok_iff l s).mp linked
  obtain ⟨declaration, found, same⟩ := (Registry.names_iff _ r).mp named
  obtain ⟨-, defined⟩ := Registry.get?_of_bind bound found
  apply Option.isSome_iff_exists.mp
  rw [place?, OrderedMap.indexOf?_isSome_iff, types, ← same]
  apply defined

end Linked

/-- In the schema of a reachable loader, a reference of whatever origin resolves if and only if its
name is declared in the place that its symbol says, as are those of all references that the loader
issued.  It resolves to the type of its name then, and dangles otherwise. -/
theorem resolve_iff_names {options : Options} {l : Loader} (reached : l.Reachable options)
    {s : Schema} (linked : l.link = .ok s) (r : Reference) :
  (∀ place, s.resolvePlace? r = some place
      ↔ l.registry.Names r ∧ s.place? r.name = some place)
    ∧ (l.registry.Names r → ∃ place type, s.resolvePlace? r = some place
      ∧ s.place? r.name = some place ∧ place < s.types.size
      ∧ s.resolve r = .ok type ∧ s.type? r.name = some type ∧ type.name = r.name)
    ∧ (¬ l.registry.Names r → s.resolvePlace? r = none ∧ s.resolve r = .error ⟨r.name⟩)
    ∧ (l.Issues r → l.registry.Names r)
  := by
  use resolvePlace?_iff_names linked r
  and_intros
  · intro named
    obtain ⟨place, placed⟩ := exists_place?_of_names linked named
    have resolved := (resolvePlace?_iff_names linked r place).mpr ⟨named, placed⟩
    obtain ⟨bound, -⟩ := (resolvePlace?_eq_some_iff s r place).mp resolved
    obtain ⟨type, resolves, found, entry, -⟩ := resolve_of_get? bound placed
    have own_name : r.name = type.name :=
      (reached.wellFormed_of_link linked).types.named _ (List.mem_of_getElem? entry)
    use place, type, resolved, placed
    exact ⟨(List.getElem?_eq_some_iff.mp entry).1, resolves, found, own_name.symm⟩
  · intro unnamed
    have unresolved : s.resolvePlace? r = none := by
      apply Option.eq_none_iff_forall_ne_some.mpr
      intro place resolved
      apply unnamed ((resolvePlace?_iff_names linked r place).mp resolved).1
    exact ⟨unresolved, resolve_of_resolvePlace?_eq_none unresolved⟩
  · intro issued
    apply issued.names reached

/-- A text in which an extension names an interface again that the type it extends implements. -/
def textWithDroppedReference : String :=
  "type Query implements Node{id:ID}extend type Query implements Node{b:Int}interface Node{id:ID}"

/-- In the schema of that text, the reference that the merge drops resolves, as does a made-up one
with the name and the symbol of a built-in declaration.  A reference with the symbol of another
declaration dangles, and so does one with a symbol that is too large. -/
theorem resolve_iff_names_dropped :
  ∃ l s dropped, (Loader.start {}).load none textWithDroppedReference = .ok l ∧ l.link = .ok s
    ∧ l.Issues dropped ∧ dropped.name = "Node"
    ∧ (∀ type ∈ s.types.values, dropped ∉ type.references)
    ∧ (∃ type, s.resolve dropped = .ok type ∧ s.type? "Node" = some type ∧ type.name = "Node")
    ∧ (∃ type, s.resolve ⟨"Boolean", .builtIn, 0⟩ = .ok type ∧ type.name = "Boolean")
    ∧ s.resolvePlace? ⟨"Node", .builtIn, 0⟩ = none
    ∧ s.resolve ⟨"Node", .builtIn, 0⟩ = .error ⟨"Node"⟩
    ∧ s.resolve ⟨"Node", .builtIn, 100⟩ = .error ⟨"Node"⟩
  := by
  have run : ((Loader.start {}).load none textWithDroppedReference).toOption.any fun l =>
      l.link.toOption.any fun s =>
        l.extensions[0]?.any fun extension => extension.interfaces[0]?.any fun dropped =>
          decide (dropped.name = "Node" ∧ (∀ type ∈ s.types.values, dropped ∉ type.references)
            ∧ l.registry.Names ⟨"Boolean", .builtIn, 0⟩
            ∧ ¬ l.registry.Names ⟨"Node", .builtIn, 0⟩
            ∧ ¬ l.registry.Names ⟨"Node", .builtIn, 100⟩) := by decide +kernel
  obtain ⟨l, loaded, run⟩ := Except.exists_ok_of_any run
  obtain ⟨s, linked, run⟩ := Except.exists_ok_of_any run
  obtain ⟨extension, held, run⟩ := (Option.any_eq_true _ _).mp run
  obtain ⟨dropped, interface, run⟩ := (Option.any_eq_true _ _).mp run
  obtain ⟨name, absent, made_up, other, too_large⟩ := of_decide_eq_true run
  have reached : l.Reachable {} := .load .start loaded
  have issued : l.Issues dropped := by
    right; left
    use extension, List.mem_of_getElem? held
    simp [TypeDefinition.references, List.mem_of_getElem? interface]
  obtain ⟨-, resolves, -, names⟩ := resolve_iff_names reached linked dropped
  obtain ⟨-, type, -, -, -, resolved, found, own_name⟩ := resolves (names issued)
  obtain ⟨-, resolves, -⟩ := resolve_iff_names reached linked ⟨"Boolean", .builtIn, 0⟩
  obtain ⟨-, boolean, -, -, -, boolean_resolved, -, boolean_name⟩ := resolves made_up
  obtain ⟨-, -, dangles, -⟩ := resolve_iff_names reached linked ⟨"Node", .builtIn, 0⟩
  obtain ⟨unresolved, dangling⟩ := dangles other
  obtain ⟨-, -, dangles, -⟩ := resolve_iff_names reached linked ⟨"Node", .builtIn, 100⟩
  rw [name] at found own_name
  exact ⟨l, s, dropped, loaded, linked, issued, name, absent,
    ⟨type, resolved, found, own_name⟩, ⟨boolean, boolean_resolved, boolean_name⟩, unresolved,
    dangling, (dangles too_large).2⟩

end Schema

end LinkedSchema
