import LinkedSchema.Proofs.Linking.Mentions
import LinkedSchema.Proofs.Linking.Phases
import LinkedSchema.Proofs.Loading.Reachable

/-!
# Resolution

In a linked schema every reference is bound to the type of its name, and the kind of that type is
one that the role of the reference allows, at whatever site the reference stands
(`Schema.resolve_of_mentions`).
-/

namespace LinkedSchema

/-- Whether a reference stands in a role somewhere in a schema. -/
def Schema.Mentions (s : Schema) (role : Role) (r : Reference) : Prop :=
  Mentioned s.types s.directives role r

/-- Every reference in the merged types and in the directives of a loader is declared. -/
theorem Loader.Declared.declares_of_mentioned {l : Loader} (declared : l.Declared) {role : Role}
    {r : Reference} (mentioned : Mentioned l.merged.1 l.directives role r) :
  l.registry.Declares r
  := by
  rcases mentioned.mem_references with ⟨type, member, r⟩ | ⟨directive, member, r⟩
  · obtain ⟨entry, entry_member, rfl⟩ := List.mem_map.mp member
    apply Loader.references_foldl_mergeExtension l.directives l.failed declared.extensions []
      declared.types entry entry_member _ r
  · obtain ⟨entry, entry_member, rfl⟩ := List.mem_map.mp member
    apply declared.directives entry entry_member _ r

namespace Schema

/-- A reference that is bound to the place of the type of its name resolves to that type. -/
theorem resolve_of_get? {s : Schema} {r : Reference} {place : Nat}
    (bound : s.bindings.get? r.symbol = some place) (placed : s.place? r.name = some place) :
  ∃ type, s.resolve r = .ok type ∧ s.type? r.name = some type
    ∧ s.types.entryAt? place = some (r.name, type) ∧ s.resolvePlace? r = some place
  := by
  obtain ⟨type, entry, found⟩ := OrderedMap.entryAt?_of_indexOf? placed
  have resolved : s.resolvePlace? r = some place := by
    rw [resolvePlace?, bound, Option.filter_some, entry]
    simp
  have at_place : s.typeAt? place = some type := by
    rw [typeAt?, entry]
    rfl
  use type
  and_intros
  · rw [resolve, resolved, Option.bind_some, at_place]
  · apply found
  · apply entry
  · apply resolved

/-- Every reference in a linked schema, at whatever site, resolves to the type of its name, and
the kind of that type is one that the role of the reference allows. -/
theorem resolve_of_mentions {options : Options} {l : Loader} (reached : l.Reachable options)
    {s : Schema} (linked : l.link = .ok s) {role : Role} {r : Reference}
    (mentioned : s.Mentions role r) :
  ∃ type, s.resolve r = .ok type ∧ s.type? r.name = some type
    ∧ s.resolvePlace? r = s.place? r.name ∧ role.legal type.kind
  := by
  obtain ⟨-, -, bound, checked, -, types, directives, -⟩ := (Loader.link_eq_ok_iff l s).mp linked
  have declares : l.registry.Declares r := by
    rw [Mentions, types, directives] at mentioned
    apply reached.declared.declares_of_mentioned mentioned
  rw [← types] at bound checked
  obtain ⟨bound_to, defined⟩ := Registry.get?_of_bind bound declares
  obtain ⟨place, placed⟩ := Option.isSome_iff_exists.mp
    ((OrderedMap.indexOf?_isSome_iff s.types r.name).mpr defined)
  rw [placed] at bound_to
  obtain ⟨type, resolved, found, entry, resolved_place⟩ := resolve_of_get? bound_to placed
  have kinds : KindCheck.faults s.types s.bindings l.directives = [] := by
    rw [Loader.checkFaults, List.append_eq_nil_iff, List.append_eq_nil_iff] at checked
    apply checked.1.2
  rw [← directives] at kinds
  obtain ⟨kind, kind_of, legal⟩ :=
    (KindCheck.faults_eq_nil_iff s.types s.bindings s.directives).mp kinds role r mentioned
  rw [KindCheck.kindOf?, bound_to, Option.bind_some, entry] at kind_of
  cases kind_of
  use type, resolved, found
  constructor
  · rw [resolved_place, place?, placed]
  · apply legal

/-- An interface that a type implements by an extension alone, which stands before the interface
is defined, resolves to that interface. -/
theorem resolve_of_mentions_extension :
  ∃ l s r, (Loader.start {}).load none
      "type Query{a:Int} extend type Query implements Node interface Node{id:ID}" = .ok l
    ∧ l.link = .ok s ∧ s.Mentions .interface r ∧ r.name = "Node"
    ∧ ∃ type, s.resolve r = .ok type ∧ s.type? r.name = some type
      ∧ s.resolvePlace? r = s.place? r.name ∧ Role.interface.legal type.kind
  := by
  have run : (match (Loader.start {}).load none
      "type Query{a:Int} extend type Query implements Node interface Node{id:ID}" with
    | .ok l =>
      match l.link with
      | .ok s => decide (∃ type ∈ s.types.values, ∃ r ∈ type.interfaces, r.name = "Node")
      | .error _ => false
    | .error _ => false) = true := by decide +kernel
  split at run
  · next l loaded =>
    split at run
    · next s linked =>
      obtain ⟨type, member, r, interface, name⟩ := of_decide_eq_true run
      have mentioned : s.Mentions .interface r := .interface member interface
      use l, s, r, loaded, linked, mentioned, name
      apply resolve_of_mentions (.load .start loaded) linked mentioned
    · cases run
  · cases run

end Schema

end LinkedSchema
