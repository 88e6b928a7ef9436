import LinkedSchema.Proofs.Building.Symbols
import LinkedSchema.Proofs.Linking.Conflicts
import LinkedSchema.Proofs.Loading.Reachable
import Mathlib.Data.List.Flatten

/-!
# Occurrences of references

A loader holds references in its types, in the extensions that it holds back and in its directives
(`Loader.references`, with one entry for each place at which a reference stands).  Loads and merges,
in whatever order, lead from the start to loaders that tell all these occurrences apart
(`Loader.Evolves.distinguishes`): what is built gets new symbols, and a merge moves references from
an extension to the type that it extends, or drops them, but copies none.  Hence no two of the
references that a loader holds have the same symbol (`Loader.Evolves.symbols_one_to_one`).
-/

namespace LinkedSchema

open Document (Definition TypeNode DirectiveNode)

/-- What is made for some members of a list is among what is made for all of them. -/
theorem subperm_flatMap {α β : Type} {list others : List α} (fewer : list.Subperm others)
    (f : α → List β) :
  (list.flatMap f).Subperm (others.flatMap f)
  := by
  obtain ⟨same, perm, sublist⟩ := fewer
  use same.flatMap f, perm.flatMap_right f, sublist.flatMap f

/-- What a part of a list has in place of another part, or some of it, may as well be added at the
end. -/
theorem subperm_amid {α : Type} {old added new : List α} (fewer : new.Subperm (old ++ added))
    (before after : List α) :
  (before ++ new ++ after).Subperm (before ++ old ++ after ++ added)
  := by
  apply (((List.Subperm.refl before).append fewer).append (List.Subperm.refl after)).trans
  apply List.Perm.subperm
  simp only [List.append_assoc]
  apply (List.perm_append_comm.append_left old).append_left before

namespace OrderedMap

variable {κ ν : Type} [DecidableEq κ]

/-- An insertion adds a value, and may take the place of another one. -/
theorem values_insert_subperm (m : OrderedMap κ ν) (key : κ) (value : ν) :
  (m.insert key value).values.Subperm (m.values ++ [value])
  := by
  cases found : lookup key m.entries with
  | none =>
    rw [values, insert, put_of_not_mem ((lookup_eq_none_iff _ _).mp found), List.map_append]
    apply List.Subperm.refl
  | some old =>
    obtain ⟨before, after, split, inserted⟩ := put_of_lookup found
    rw [values, insert, inserted, values, split, List.map_append, List.map_append,
      List.append_assoc]
    apply (List.subperm_append_left _).mpr
    apply List.Subperm.trans _ List.Subperm.cons_self
    apply (List.perm_append_singleton _ _).symm.subperm

/-- The values after insertions are among those before and those inserted. -/
theorem values_insertAll_subperm (m : OrderedMap κ ν) (added : List (κ × ν)) :
  (m.insertAll added).values.Subperm (m.values ++ added.map Prod.snd)
  := by
  induction added generalizing m with
  | nil =>
    rw [List.map_nil, List.append_nil]
    apply List.Subperm.refl
  | cons entry rest ih =>
    apply (ih (m.insert entry.1 entry.2)).trans
    rw [List.map_cons, List.append_cons]
    apply (List.subperm_append_right _).mpr
    apply values_insert_subperm

end OrderedMap

namespace TypeDefinition

/-- References to which others are added are those and some of the others. -/
theorem addNew_sublist (references others : List Reference) :
  (addNew references others).Sublist (references ++ others)
  := by
  induction others generalizing references with
  | nil =>
    rw [List.append_nil]
    apply List.Sublist.refl
  | cons other rest ih =>
    rw [addNew]
    split
    · apply (ih references).trans
      apply (List.sublist_cons_self other rest).append_left
    · have more := ih (references ++ [other])
      rw [← List.append_cons] at more
      apply more

/-- An extended type has no references but those of the type and of its extension, and each of them
at most as often. -/
theorem references_extendWith_subperm (base extension : TypeDefinition) :
  (base.extendWith extension).references.Subperm (base.references ++ extension.references)
  := by
  have interfaces := (addNew_sublist base.interfaces extension.interfaces).subperm
  have members := (addNew_sublist base.members extension.members).subperm
  have fields := subperm_flatMap
    (OrderedMap.values_insertAll_subperm base.fields extension.fields.entries)
    FieldDefinition.references
  have inputFields := subperm_flatMap
    (OrderedMap.values_insertAll_subperm base.inputFields extension.inputFields.entries)
    fun field => [field.type.innermost]
  have parts := ((interfaces.append members).append fields).append inputFields
  simp only [references, List.map_eq_flatMap]
  apply parts.trans
  apply List.Perm.subperm
  rw [List.perm_iff_count]
  intro r
  simp only [List.flatMap_append, List.count_append, OrderedMap.values]
  omega

end TypeDefinition

namespace Loader

/-- The references in what a loader holds, with one entry for each place at which one stands. -/
def references (l : Loader) : List Reference :=
  l.types.values.flatMap TypeDefinition.references
    ++ l.extensions.flatMap TypeDefinition.references
    ++ l.directives.values.flatMap DirectiveDefinition.references

/-- Whether the registry of a loader tells all references apart that the loader holds. -/
def Distinguishes (l : Loader) : Prop := l.registry.Distinguishes l.references

/-! ### Loads -/

namespace Distinguishes

variable {l later : Loader} (h : l.Distinguishes)

include h

/-- A loader that has declared more, and holds what it did or less, still tells it apart. -/
theorem of_subperm (grows : l.registry.declared <+: later.registry.declared)
    (fewer : later.references.Subperm l.references) :
  later.Distinguishes
  := h.mono fewer grows

/-- A loader that holds what it did and more, whose references are those of declarations added,
tells all of it apart. -/
theorem of_declared {ds : List Declaration} {added : List Reference}
    (same : added.Perm (Declaration.references l.registry.size ds))
    (registry : later.registry = ⟨l.registry.declared ++ ds⟩)
    (fewer : later.references.Subperm (l.references ++ added)) :
  later.Distinguishes
  := by
  rw [Distinguishes, registry]
  have numbered := Registry.numbers_of_perm same
  apply (h.append (List.prefix_append _ _) numbered).mono fewer (List.prefix_refl _)

theorem visitType (file : String) (node : TypeNode) :
  (l.visitType file node).Distinguishes
  := by
  obtain ⟨-, registry, faults, -, grows, visited⟩ | ⟨-, existing, -, visited⟩ | ⟨-, -, visited⟩ :=
    l.visitType_cases file node
  · rw [visited]
    exact h.of_subperm grows (List.Subperm.refl _)
  · rw [visited]
    exact h.of_subperm (List.prefix_append _ _) (List.Subperm.refl _)
  · rw [visited]
    apply h.of_declared (TypeNode.references_define (some file) node l.registry.size) rfl
    have types := subperm_flatMap (l.types.values_insert_subperm node.name
      (node.define (some file) l.registry.size)) TypeDefinition.references
    rw [List.flatMap_append, List.flatMap_singleton] at types
    rw [references, references, List.append_assoc, List.append_assoc (l.types.values.flatMap _)]
    apply subperm_amid types []

theorem visitExtension (file : String) (node : TypeNode) :
  (l.visitExtension file node).Distinguishes
  := by
  obtain ⟨-, registry, faults, -, grows, visited⟩ | ⟨-, visited⟩ := l.visitExtension_cases file node
  · rw [visited]
    exact h.of_subperm grows (List.Subperm.refl _)
  · rw [visited]
    apply h.of_declared (TypeNode.references_define (some file) node l.registry.size) rfl
    rw [references, references, List.flatMap_append, List.flatMap_singleton]
    apply subperm_amid (List.Subperm.refl _)

theorem visitDirective (file : String) (node : DirectiveNode) :
  (l.visitDirective file node).Distinguishes
  := by
  obtain ⟨-, fault, visited⟩ | ⟨-, -, registry, faults, -, grows, visited⟩ | ⟨-, -, visited⟩ :=
    l.visitDirective_cases file node
  · rw [visited]
    exact h.of_subperm (List.prefix_refl _) (List.Subperm.refl _)
  · rw [visited]
    exact h.of_subperm grows (List.Subperm.refl _)
  · rw [visited]
    apply h.of_declared (DirectiveNode.references_define (some file) node l.registry.size) rfl
    have directives := subperm_flatMap (l.directives.values_insert_subperm node.name
      (node.define (some file) l.registry.size)) DirectiveDefinition.references
    rw [List.flatMap_append, List.flatMap_singleton] at directives
    rw [references, references, List.append_assoc _ _ (DirectiveDefinition.references _)]
    apply (List.subperm_append_left _).mpr directives

/-- Every visit keeps references apart: what it takes up is built with new symbols. -/
theorem visit (file : String) (definition : Definition) :
  (l.visit file definition).Distinguishes
  := by
  cases definition with
  | schema node =>
    obtain ⟨faults, roots, visited, -⟩ := l.visitSchema_cases file node
    rw [Loader.visit, visited]
    exact h.of_subperm (List.prefix_refl _) (List.Subperm.refl _)
  | type node => apply h.visitType
  | extension node => apply h.visitExtension
  | directive node => apply h.visitDirective

end Distinguishes

/-- The references of the built-in definitions are told apart. -/
theorem distinguishes_start (options : Options) :
  (start options).Distinguishes
  where
  distinct := by
    have distinct : ((start {}).references.map Reference.symbol).Nodup := by decide
    apply distinct
  declared r member := by
    have declared : ∀ r ∈ (start {}).references,
        BuiltIn.directives.2.declared[r.symbol]? = some ⟨r.name, r.location⟩ := by decide
    apply declared r member

/-! ### Merges -/

/-- A merge moves references from an extension to a type, or drops them. -/
theorem references_mergeExtension_subperm (directives : DirectiveTable) (failed : List String)
    (types : TypeTable) (faults : List Fault) (extension : TypeDefinition) :
  ((mergeExtension directives failed (types, faults) extension).1.values.flatMap
      TypeDefinition.references).Subperm
    (types.values.flatMap TypeDefinition.references ++ extension.references)
  := by
  obtain ⟨base, found, accepts, merged⟩ | ⟨-, -, -, conflicts, -, merged⟩ | ⟨-, merged⟩ :=
    mergeExtension_cases directives failed types faults extension
  · have extended := base.references_extendWith_subperm extension
    obtain ⟨before, after, split, inserted⟩ := OrderedMap.put_of_lookup found
    rw [merged, OrderedMap.insert, inserted, OrderedMap.values, OrderedMap.values, split]
    simp only [List.map_append, List.map_cons, List.flatMap_append, List.flatMap_cons]
    rw [← List.append_assoc, ← List.append_assoc]
    apply subperm_amid extended
  · rw [merged]
    apply (List.sublist_append_left _ _).subperm
  · rw [merged]
    apply (List.sublist_append_left _ _).subperm

/-- The loader that has merged an extension, and holds back only those before and after it. -/
def mergeHeld (l : Loader) (before : List TypeDefinition) (extension : TypeDefinition)
    (after : List TypeDefinition) : Loader :=
  let (types, faults) := mergeExtension l.directives l.failed (l.types, l.faults) extension
  { l with types := types, faults := faults, extensions := before ++ after }

/-- A merge of an extension that is held back keeps references apart. -/
theorem Distinguishes.mergeHeld {l : Loader} (h : l.Distinguishes)
    {before after : List TypeDefinition} {extension : TypeDefinition}
    (held : l.extensions = before ++ extension :: after) :
  (l.mergeHeld before extension after).Distinguishes
  := by
  refine h.of_subperm (List.prefix_refl _) ?_
  have types := references_mergeExtension_subperm l.directives l.failed l.types l.faults extension
  have moved := subperm_amid types [] ((before ++ after).flatMap TypeDefinition.references
    ++ l.directives.values.flatMap DirectiveDefinition.references)
  rw [references, List.append_assoc]
  apply moved.trans
  apply List.Perm.subperm
  rw [List.perm_iff_count]
  intro r
  simp only [references, held, List.nil_append, List.flatMap_append, List.flatMap_cons,
    List.count_append]
  omega

/-! ### Loaders that evolve -/

/-- Whether loads and merges of extensions that are held back, in any order, lead to a loader from
the one that knows nothing but the built-in definitions. -/
inductive Evolves (options : Options) : Loader → Prop where
  | start : Evolves options (start options)
  | load {l later : Loader} {file : Option String} {text : String} :
      Evolves options l → l.load file text = .ok later → Evolves options later
  | loadFiles {l later : Loader} {read : String → Except ReadFault String}
      {files : List String} :
      Evolves options l → l.loadFiles read files = .ok later → Evolves options later
  | merge {l : Loader} {before after : List TypeDefinition} {extension : TypeDefinition} :
      Evolves options l → l.extensions = before ++ extension :: after →
      Evolves options (l.mergeHeld before extension after)

/-- Loads and merges keep references apart. -/
theorem Evolves.distinguishes {options : Options} {l : Loader} (h : Evolves options l) :
  l.Distinguishes
  := by
  have visit (l : Loader) (file : String) (definition : Definition) (h : l.Distinguishes) :
      (l.visit file definition).Distinguishes :=
    h.visit file definition
  induction h with
  | start => apply distinguishes_start
  | @load l later file text _ loaded ih =>
    cases file with
    | some file => apply loadNamed_keeps visit ih loaded
    | none =>
      have unnamed : Distinguishes { l with unnamed := l.unnamed + 1 } := ih
      apply loadNamed_keeps visit unnamed loaded
  | loadFiles _ loaded ih => apply loadFiles_keeps visit ih loaded
  | merge _ held ih => apply ih.mergeHeld held

/-- Building a type or an extension keeps the declarations before it and numbers the references of
what it makes, each of them once and from the first free number on.  Hence, whatever loads and
merges a loader comes from, no two references that it holds have the same symbol, and the
declaration of each of them stands in the place that its symbol says. -/
theorem Evolves.symbols_one_to_one {options : Options} {l : Loader} (h : Evolves options l) :
  (∀ (file : Option String) (node : TypeNode) (registry : Registry),
      registry.declared <+: (node.build file registry).2.declared
        ∧ ∀ type, (node.build file registry).1 = .ok type →
          registry.Numbers (node.build file registry).2 type.references)
    ∧ (l.references.map Reference.symbol).Nodup
    ∧ ∀ r ∈ l.references, l.registry.Declares r
  := by
  have distinguished := h.distinguishes
  exact ⟨TypeNode.numbers_build, distinguished.distinct, distinguished.declared⟩

/-- A text with references within wrappers and in arguments, and with an extension that names an
interface again. -/
def textWithOccurrences : String :=
  "type Query implements Node{list(first:[Int!]! after:ID):[[Query!]]!}"
    ++ "extend type Query implements Node{more(of:[Node]):Node}interface Node{id:ID}"

/-- After that text is loaded and its extension merged, which drops a reference, the references
have distinct symbols, though arguments are declared before the type of their field and listed after
it. -/
theorem symbols_one_to_one_merged :
  ∃ l extension, (start {}).load none textWithOccurrences = .ok l ∧ l.extensions = [extension]
    ∧ (l.mergeHeld [] extension []).references.map Reference.symbol
      = [5, 8, 6, 7, 11, 10, 12, 0, 1, 2, 3, 4]
    ∧ ((l.mergeHeld [] extension []).references.map Reference.symbol).Nodup
    ∧ ∀ r ∈ (l.mergeHeld [] extension []).references,
      (l.mergeHeld [] extension []).registry.Declares r
  := by
  have run : ((start {}).load none textWithOccurrences).toOption.any fun l =>
      l.extensions[0]?.any fun extension => decide (l.extensions = [extension]
        ∧ (l.mergeHeld [] extension []).references.map Reference.symbol
          = [5, 8, 6, 7, 11, 10, 12, 0, 1, 2, 3, 4]) := by decide +kernel
  obtain ⟨l, loaded, run⟩ := Except.exists_ok_of_any run
  obtain ⟨extension, -, run⟩ := (Option.any_eq_true _ _).mp run
  obtain ⟨held, symbols⟩ := of_decide_eq_true run
  have evolved : Evolves {} l := .load .start loaded
  have first : l.extensions = [] ++ extension :: [] := held
  obtain ⟨-, distinct, declared⟩ := (evolved.merge first).symbols_one_to_one
  exact ⟨l, extension, loaded, held, symbols, distinct, declared⟩

end Loader

end LinkedSchema
