import LinkedSchema.Proofs.Linking.Phases
import LinkedSchema.Proofs.Loading.Reports

/-!
# Rejection

If there is no schema, the faults are those of exactly one phase, and there are some
(`Loader.History.rejected`).  Faults of taking up definitions and of merging extensions come first,
in the order in which they were found; nothing that can only be found later is among them.  If there
are none, every declared mention of an undefined type is a fault.  If there is none of these either,
the faults are those of the checks; if there is no type for queries, one of them says why
(`Loader.mem_operationFaults_of_none`).
-/

namespace LinkedSchema

open Document (Definition Operation)
open Fault (AllEarly)

/-! ### Merging -/

namespace TypeDefinition

theorem isOfMerging_of_mem_memberConflicts {δ : Type} (location : δ → Location)
    {conflict : String → Location → Location → Fault}
    (ofMerging : ∀ name first second, (conflict name first second).isOfMerging)
    (base extension : OrderedMap String δ) :
  ∀ fault ∈ memberConflicts location conflict base extension, fault.isOfMerging
  := by
  intro fault member
  obtain ⟨entry, -, found⟩ := List.mem_filterMap.mp member
  obtain ⟨other, -, rfl⟩ := Option.map_eq_some_iff.mp found
  apply ofMerging

theorem isOfMerging_of_mem_directiveConflicts (directives : DirectiveTable)
    (base extension : TypeDefinition) :
  ∀ fault ∈ directiveConflicts directives base extension, fault.isOfMerging
  := by
  intro fault member
  obtain ⟨mark, -, found⟩ := List.mem_filterMap.mp member
  split at found
  · cases found
  · obtain ⟨other, -, rfl⟩ := Option.map_eq_some_iff.mp found
    rfl

/-- All conflicts of an extension with a type are faults of merging. -/
theorem isOfMerging_of_mem_conflicts (directives : DirectiveTable)
    (base extension : TypeDefinition) :
  ∀ fault ∈ conflicts directives base extension, fault.isOfMerging
  := by
  simp only [conflicts, List.forall_mem_append]
  and_intros
  · apply isOfMerging_of_mem_directiveConflicts
  · apply isOfMerging_of_mem_memberConflicts _ fun _ _ _ => rfl
  · apply isOfMerging_of_mem_memberConflicts _ fun _ _ _ => rfl
  · apply isOfMerging_of_mem_memberConflicts _ fun _ _ _ => rfl

/-- A merge that fails reports faults of merging. -/
theorem isOfMerging_of_merge {directives : DirectiveTable} {base extension : TypeDefinition}
    {faults : List Fault} (failed : base.merge directives extension = .error faults) :
  ∀ fault ∈ faults, fault.isOfMerging
  := by
  rw [merge_eq] at failed
  split at failed
  · cases failed
    exact List.forall_mem_singleton.mpr rfl
  · split at failed
    · cases failed
      exact List.forall_mem_singleton.mpr rfl
    · split at failed
      · cases failed
      · cases failed
        apply isOfMerging_of_mem_conflicts

/-- No fault of merging an extension into a type is late. -/
theorem allEarly_of_merge {directives : DirectiveTable} {base extension : TypeDefinition}
    {faults : List Fault} (failed : base.merge directives extension = .error faults) :
  AllEarly faults
  := by
  intro fault member
  apply Fault.isLate_of_isOfMerging (isOfMerging_of_merge failed fault member)

end TypeDefinition

namespace Loader

section Merging

variable (directives : DirectiveTable) (failed : List String)

/-- What merging some extensions into a table reports, one after another. -/
def mergeReports : TypeTable → List TypeDefinition → List (List Fault)
  | _, [] => []
  | types, extension :: rest =>
    let merged := mergeExtension directives failed (types, []) extension
    merged.2 :: mergeReports merged.1 rest

/-- What merging an extension reports does not depend on the faults found before. -/
theorem mergeExtension_eq (types : TypeTable) (faults : List Fault) (extension : TypeDefinition) :
  mergeExtension directives failed (types, faults) extension
    = ((mergeExtension directives failed (types, []) extension).1,
      faults ++ (mergeExtension directives failed (types, []) extension).2)
  := by
  cases found : types.get? extension.name with
  | some base =>
    cases merged : base.merge directives extension with
    | ok type => simp [mergeExtension_of_ok _ merged found]
    | error conflicts => simp [mergeExtension_of_error _ merged found]
  | none =>
    rw [mergeExtension_of_none _ found, mergeExtension_of_none _ found]
    split <;> simp

/-- The faults of merging extensions are the reports, one after another. -/
theorem faults_foldl_mergeExtension (types : TypeTable) (faults : List Fault)
    (extensions : List TypeDefinition) :
  (extensions.foldl (mergeExtension directives failed) (types, faults)).2
    = faults ++ (mergeReports directives failed types extensions).flatten
  := by
  induction extensions generalizing types faults with
  | nil => exact (List.append_nil _).symm
  | cons extension rest ih =>
    rw [List.foldl_cons, mergeExtension_eq, ih, mergeReports, List.flatten_cons, List.append_assoc]

/-- Merging an extension reports no late fault. -/
theorem allEarly_mergeExtension (types : TypeTable) (extension : TypeDefinition) :
  AllEarly (mergeExtension directives failed (types, []) extension).2
  := by
  cases found : types.get? extension.name with
  | some base =>
    cases merged : base.merge directives extension with
    | ok type =>
      rw [mergeExtension_of_ok _ merged found]
      apply AllEarly.nil
    | error conflicts =>
      rw [mergeExtension_of_error _ merged found]
      apply TypeDefinition.allEarly_of_merge merged
  | none =>
    rw [mergeExtension_of_none _ found]
    split
    · apply AllEarly.nil
    · apply AllEarly.singleton rfl

theorem allEarly_of_mem_mergeReports (types : TypeTable) (extensions : List TypeDefinition) :
  ∀ report ∈ mergeReports directives failed types extensions, AllEarly report
  := by
  induction extensions generalizing types with
  | nil => nofun
  | cons extension rest ih =>
    intro report member
    rcases List.mem_cons.mp member with rfl | later
    · apply allEarly_mergeExtension
    · apply ih _ report later

end Merging

/-! ### Phases -/

/-- The phases of linking that can find faults. -/
inductive Phase where
  /-- Definitions are taken up, and extensions are merged. -/
  | definitions
  /-- References are bound. -/
  | references
  /-- Annotations, kinds and the types of operations are checked. -/
  | checks
deriving DecidableEq

/-- The faults of taking up the definitions of a history and of merging the extensions among
them. -/
def definitionFaults (options : Options) (ds : List (String × Definition)) (l : Loader) :
    List Fault :=
  ((Loader.start options).reports ds).flatten
    ++ (mergeReports l.directives l.failed l.types
      ((Loader.start options).builtExtensions ds)).flatten

/-- The declared mentions of types that are not there once all extensions are merged. -/
def dangling (l : Loader) : List Declaration :=
  l.registry.declared.filter fun declaration => declaration.name ∉ l.merged.1.keys

/-- Whether faults say why there is no type for queries. -/
def ExplainsQuery (l : Loader) (faults : List Fault) : Prop :=
  match l.roots.get? .query with
  | some root => .notRoot .query root.type root.location ∈ faults
  | none => .noQuery ∈ faults

/-- Whether faults are those of a phase, and it is the first one that finds any. -/
def RejectedIn (options : Options) (ds : List (String × Definition)) (l : Loader)
    (faults : List Fault) : Phase → Prop
  | .definitions =>
    definitionFaults options ds l ≠ [] ∧ faults = definitionFaults options ds l
      ∧ AllEarly faults
  | .references =>
    definitionFaults options ds l = [] ∧ l.dangling ≠ []
      ∧ faults = l.dangling.map fun declaration =>
        .undefinedType declaration.name declaration.location
  | .checks =>
    definitionFaults options ds l = [] ∧ l.dangling = []
      ∧ (∃ bindings, l.registry.bind l.merged.1 = .ok bindings
        ∧ faults = AnnotationCheck.faults l.directives l.options.misplacedDirective l.merged.1
          ++ KindCheck.faults l.merged.1 bindings l.directives
          ++ operationFaults l.merged.1 l.roots)
      ∧ (rootPlace? l.merged.1 l.roots .query = none → l.ExplainsQuery faults)

/-! ### What each phase finds -/

section History

variable {options : Options} {ds : List (String × Definition)} {l : Loader}
  (h : History options ds l)

include h

/-- The faults of a loader are the reports of the visits of its history. -/
theorem History.faults_eq :
  l.faults = ((Loader.start options).reports ds).flatten
  := by
  obtain ⟨n, rfl⟩ := h.eq_visitEach
  apply (Loader.start options).faults_visitEach ds

/-- The extensions of a loader are those of its history that can be built. -/
theorem History.extensions_eq :
  l.extensions = (Loader.start options).builtExtensions ds
  := by
  obtain ⟨n, rfl⟩ := h.eq_visitEach
  apply (Loader.start options).extensions_visitEach ds

/-- The faults of taking up and merging are those with which linking begins. -/
theorem History.definitionFaults_eq :
  definitionFaults options ds l = l.faults ++ l.merged.2
  := by
  rw [definitionFaults, ← h.faults_eq, ← h.extensions_eq, merged, faults_foldl_mergeExtension,
    List.nil_append]

end History

/-- No fault of taking up and merging is late. -/
theorem allEarly_definitionFaults (options : Options) (ds : List (String × Definition))
    (l : Loader) :
  AllEarly (definitionFaults options ds l)
  := by
  apply AllEarly.append
  · apply AllEarly.flatten (allEarly_of_mem_reports _ ds)
  · apply AllEarly.flatten (allEarly_of_mem_mergeReports _ _ _ _)

/-- The declarations that name no type are those that dangle. -/
theorem undefined_eq_dangling (l : Loader) :
  l.registry.undefined l.merged.1 = l.dangling
  := by
  rw [Registry.undefined, dangling]
  apply List.filter_congr
  intro declaration _
  rw [Bool.eq_iff_iff, Option.isNone_iff_eq_none, ← Option.not_isSome_iff_eq_none,
    OrderedMap.indexOf?_isSome_iff, decide_eq_true_eq]

/-- What holds of the faults of named types that are no object types, of types that operations share
and of there being no type for queries holds of all faults of the operations. -/
theorem forall_mem_operationFaults {P : Fault → Prop} (types : TypeTable)
    (roots : OrderedMap Operation Root)
    (unfit : ∀ operation type location, P (.notRoot operation type location))
    (shared : ∀ first second type, P (.sharedRoot first second type)) (absent : P .noQuery) :
  ∀ fault ∈ operationFaults types roots, P fault
  := by
  have all_shared (first second : Operation) :
      ∀ fault ∈ sharedFaults types roots first second, P fault := by
    rw [sharedFaults]
    split
    · split
      · apply List.forall_mem_singleton.mpr (shared _ _ _)
      · apply List.forall_mem_nil
    · apply List.forall_mem_nil
  have all_unfit : ∀ fault ∈ Operation.all.flatMap (rootFaults types roots), P fault := by
    intro fault member
    obtain ⟨operation, -, found⟩ := List.mem_flatMap.mp member
    rw [rootFaults] at found
    split at found
    · rw [List.mem_singleton.mp found]
      apply unfit
    · cases found
  have all_absent : ∀ fault ∈ queryFaults types roots, P fault := by
    rw [queryFaults]
    split
    · apply List.forall_mem_singleton.mpr absent
    · apply List.forall_mem_nil
  simp only [operationFaults, List.forall_mem_append]
  exact ⟨⟨⟨⟨all_unfit, all_shared _ _⟩, all_shared _ _⟩, all_shared _ _⟩, all_absent⟩

/-- If there is no type for queries, a fault of the operations says why. -/
theorem mem_operationFaults_of_none (l : Loader)
    (missing : rootPlace? l.merged.1 l.roots .query = none) :
  l.ExplainsQuery (operationFaults l.merged.1 l.roots)
  := by
  rw [ExplainsQuery]
  split
  · next root named =>
    have found : .notRoot .query root.type root.location
        ∈ rootFaults l.merged.1 l.roots .query := by
      rw [rootFaults, named, missing]
      apply List.mem_singleton_self
    simp only [operationFaults, List.mem_append, List.mem_flatMap]
    left; left; left; left
    use .query, by decide
  · next unnamed =>
    have found : .noQuery ∈ queryFaults l.merged.1 l.roots := by
      rw [queryFaults, missing, OrderedMap.contains, unnamed]
      apply List.mem_singleton_self
    apply List.mem_append_right _ found

/-- Faults that say why there is no type for queries still do so after others. -/
theorem ExplainsQuery.append_left {l : Loader} {faults : List Fault}
    (h : l.ExplainsQuery faults) (others : List Fault) :
  l.ExplainsQuery (others ++ faults)
  := by
  rw [ExplainsQuery] at h ⊢
  split at h
  all_goals apply List.mem_append_right _ h

theorem ExplainsQuery.ne_nil {l : Loader} {faults : List Fault} (h : l.ExplainsQuery faults) :
  faults ≠ []
  := by
  rw [ExplainsQuery] at h
  split at h
  all_goals apply List.ne_nil_of_mem h

/-- Faults of taking up and merging end the linking. -/
theorem link_of_found (l : Loader) (found : l.faults ++ l.merged.2 ≠ []) :
  l.link = .error (l.faults ++ l.merged.2)
  := by
  have some_fault : (!(l.faults ++ l.merged.2).isEmpty) = true := by simpa using found
  rw [link]
  simp only [some_fault, if_true]

/-- If there is no schema, the faults are those of the first phase that finds any, and in the last
phase there are some unless there is no type for queries. -/
theorem link_eq_error {l : Loader} {faults : List Fault} (rejected : l.link = .error faults) :
  (l.faults ++ l.merged.2 ≠ [] ∧ faults = l.faults ++ l.merged.2)
    ∨ (l.faults ++ l.merged.2 = [] ∧ l.registry.bind l.merged.1 = .error faults)
    ∨ (l.faults ++ l.merged.2 = [] ∧ ∃ bindings, l.registry.bind l.merged.1 = .ok bindings
      ∧ faults = l.checkFaults l.merged.1 bindings
      ∧ (rootPlace? l.merged.1 l.roots .query = none ∨ faults ≠ []))
  := by
  rw [link] at rejected
  simp only at rejected
  split at rejected
  · next some_fault =>
    cases rejected
    left
    simpa using some_fault
  · next no_fault =>
    right
    have clean : l.faults ++ l.merged.2 = [] := by simpa using no_fault
    split at rejected
    · next unbound failed =>
      cases rejected
      left
      exact ⟨clean, failed⟩
    · next bindings bound =>
      right
      use clean, bindings, bound
      split at rejected
      · next missing =>
        cases rejected
        exact ⟨rfl, .inl missing⟩
      · split at rejected
        · cases rejected
        · next found =>
          cases rejected
          exact ⟨rfl, .inr (mt List.isEmpty_iff.mpr found)⟩

/-- If references cannot be bound, the faults are those of the declarations that name no type. -/
theorem bind_eq_error {l : Loader} {faults : List Fault}
    (failed : l.registry.bind l.merged.1 = .error faults) :
  l.dangling ≠ [] ∧ faults = l.dangling.map fun declaration =>
    .undefinedType declaration.name declaration.location
  := by
  rw [Registry.bind, undefined_eq_dangling] at failed
  split at failed
  · cases failed
  · next found =>
    cases failed
    exact ⟨mt List.isEmpty_iff.mpr found, rfl⟩

/-- If references are bound, no declaration dangles. -/
theorem dangling_eq_nil_of_bind {l : Loader} {bindings : Bindings}
    (bound : l.registry.bind l.merged.1 = .ok bindings) :
  l.dangling = []
  := by
  rw [Registry.bind, undefined_eq_dangling] at bound
  split at bound
  · next none_found => apply List.isEmpty_iff.mp none_found
  · cases bound

/-- If there is no schema, there are faults, and they are those of one of the phases. -/
theorem History.exists_rejectedIn {options : Options} {ds : List (String × Definition)}
    {l : Loader} (h : History options ds l) {faults : List Fault}
    (rejected : l.link = .error faults) :
  faults ≠ [] ∧ ∃ phase, RejectedIn options ds l faults phase
  := by
  obtain ⟨found, rfl⟩ | ⟨clean, failed⟩ | ⟨clean, bindings, bound, rfl, reason⟩ :=
    link_eq_error rejected
  all_goals rw [← h.definitionFaults_eq] at *
  · use found, .definitions, found, rfl
    apply allEarly_definitionFaults
  · obtain ⟨found, rfl⟩ := bind_eq_error failed
    use mt List.map_eq_nil_iff.mp found, .references, clean, found
  · have explained (missing : rootPlace? l.merged.1 l.roots .query = none) :
        l.ExplainsQuery (l.checkFaults l.merged.1 bindings) :=
      (mem_operationFaults_of_none l missing).append_left _
    constructor
    · rcases reason with missing | found
      · apply (explained missing).ne_nil
      · apply found
    · use .checks, clean, dangling_eq_nil_of_bind bound, ⟨bindings, bound, rfl⟩, explained

/-- The faults of a history that makes no schema are not empty, and are those of exactly one
phase. -/
theorem History.rejected {options : Options} {ds : List (String × Definition)} {l : Loader}
    (h : History options ds l) {faults : List Fault} (failed : l.link = .error faults) :
  faults ≠ [] ∧ ∃! phase, RejectedIn options ds l faults phase
  := by
  obtain ⟨some_fault, phase, found⟩ := h.exists_rejectedIn failed
  use some_fault, phase, found
  intro other also
  cases phase <;> cases other
  all_goals grind [RejectedIn]

/-- A text in which a field is defined twice. -/
def textWithFailedBase : String :=
  "type Query{a:Missing a:Int}extend type Query{b:Int}extend type Other{c:Int}"

/-- The faults of that text: the extension of the type with faults is passed over, and that it
mentions a type that is not defined is not reported. -/
def faultsWithFailedBase : List Fault := [
  .duplicateField "Query" "a" (.source (some "s") ⟨1, 12⟩) (.source (some "s") ⟨1, 22⟩),
  .undefinedBase "Other" (.source (some "s") ⟨1, 59⟩)]

/-- The faults of a text with a type that has faults are those of exactly one phase. -/
theorem rejected_failed_base :
  ∃ ds l, History {} ds l ∧ l.link = .error faultsWithFailedBase
    ∧ faultsWithFailedBase ≠ [] ∧ ∃! phase, RejectedIn {} ds l faultsWithFailedBase phase
  := by
  have run : ((start {}).load (some "s") textWithFailedBase).toOption.any fun l =>
      match l.link with
      | .ok _ => false
      | .error faults => decide (faults = faultsWithFailedBase) := by decide +kernel
  obtain ⟨l, loaded, run⟩ := Except.exists_ok_of_any run
  split at run
  · cases run
  · next faults rejected =>
    rw [of_decide_eq_true run] at rejected
    obtain ⟨ds, n, parsed, -⟩ := load_eq_ok loaded
    have history := History.start.load parsed loaded
    exact ⟨_, l, history, rejected, history.rejected rejected⟩

end Loader

end LinkedSchema
