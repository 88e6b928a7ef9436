import LinkedSchema.Proofs.Linking.Rejection
import LinkedSchema.Proofs.Linking.Verdicts
import LinkedSchema.Proofs.Loading.Gathering

/-!
# Extensions of undefined types

The names that a loader knows are those of the types that it keeps and of the types of which a
definition had faults: the names of the built-in scalar types and of all types among the definitions
that were taken up (`Loader.knows_visitEach`).  An extension of any other name is reported as one of
an undefined type, and no other one is.  An extension of a name that is known is passed over only if
a definition of the name had faults, and these are then reported
(`Loader.History.reports_undefined_bases`).
-/

namespace LinkedSchema

open Document (Definition TypeNode)

/-! ### Faults of undefined bases -/

namespace Fault

/-- Whether a fault is that of an extension of an undefined type. -/
def isUndefinedBase : Fault → Bool
  | undefinedBase _ _ => true
  | _ => false

/-- No faults of taking up definitions, nor of merging an extension into a type, are those of
extensions of undefined types. -/
theorem filter_isUndefinedBase_eq_nil {faults : List Fault}
    (h : ∀ fault ∈ faults, fault.isOfLoading ∨ fault.isOfMerging) :
  faults.filter isUndefinedBase = []
  := by
  apply List.filter_eq_nil_iff.mpr
  intro fault member
  have kinds := h fault member
  cases fault with
  | undefinedBase => rcases kinds with ofLoading | ofMerging <;> contradiction
  | _ => exact Bool.false_ne_true

end Fault

open Fault (isUndefinedBase)

namespace Loader

/-! ### Names that are known -/

/-- Whether a loader keeps a type of a name, or a definition of one had faults. -/
def Knows (l : Loader) (name : String) : Prop := name ∈ l.types.keys ∨ name ∈ l.failed

/-- The names of the types among definitions. -/
def typeNames (ds : List (String × Definition)) : List String :=
  (Document.typeNodes (ds.map Prod.snd)).map TypeNode.name

/-- A visit of a type makes its name known, whether or not the type is kept. -/
theorem knows_visitType (l : Loader) (file : String) (node : TypeNode) (name : String) :
  (l.visitType file node).Knows name ↔ l.Knows name ∨ name = node.name
  := by
  obtain ⟨-, registry, faults, -, -, visited⟩ | ⟨-, existing, found, visited⟩ | ⟨-, new, visited⟩ :=
    l.visitType_cases file node
  · rw [visited, Knows, Knows, List.mem_append, List.mem_singleton, or_assoc]
    rfl
  · have known : node.name ∈ l.types.keys := by
      apply OrderedMap.mem_keys_of_get? found
    rw [visited]
    constructor
    · apply Or.inl
    · rintro (before | rfl)
      · apply before
      · left
        apply known
  · rw [visited, Knows, Knows]
    simp only [OrderedMap.keys_insert, if_neg new, List.mem_append, List.mem_singleton]
    exact or_right_comm

/-- A visit makes known the name of the type that it takes up, and no other one. -/
theorem knows_visit (l : Loader) (file : String) (d : Definition) (name : String) :
  (l.visit file d).Knows name ↔ l.Knows name ∨ name ∈ typeNames [(file, d)]
  := by
  cases d with
  | schema node =>
    obtain ⟨faults, roots, visited, -⟩ := l.visitSchema_cases file node
    rw [visit, visited]
    exact (or_iff_left List.not_mem_nil).symm
  | type node =>
    apply (l.knows_visitType file node name).trans
    rw [← List.mem_singleton]
    rfl
  | extension node =>
    obtain ⟨-, registry, faults, -, -, visited⟩ | ⟨-, visited⟩ := l.visitExtension_cases file node
    all_goals
      rw [visit, visited]
      exact (or_iff_left List.not_mem_nil).symm
  | directive node =>
    obtain ⟨-, fault, visited⟩ | ⟨-, -, registry, faults, -, -, visited⟩ | ⟨-, -, visited⟩ :=
      l.visitDirective_cases file node
    all_goals
      rw [visit, visited]
      exact (or_iff_left List.not_mem_nil).symm

/-- Visits make known the names of the types among their definitions, and no other ones. -/
theorem knows_visitEach (l : Loader) (ds : List (String × Definition)) (name : String) :
  (l.visitEach ds).Knows name ↔ l.Knows name ∨ name ∈ typeNames ds
  := by
  induction ds generalizing l with
  | nil => exact (or_iff_left List.not_mem_nil).symm
  | cons d rest ih =>
    have names : typeNames (d :: rest) = typeNames [d] ++ typeNames rest := by
      rw [typeNames, typeNames, typeNames, ← List.map_append, Document.typeNodes,
        Document.typeNodes, Document.typeNodes, ← List.filterMap_append]
      rfl
    rw [visitEach_cons, ih, knows_visit, names, List.mem_append, or_assoc]

/-! ### Definitions with faults -/

/-- Whether a definition of a type of some name had faults when it was visited, and these are among
some others. -/
def FailedWithin (visits : List (Visit TypeNode)) (name : String) (faults : List Fault) : Prop :=
  ∃ v ∈ visits, v.node.name = name ∧ ∃ found,
    (v.node.build (some v.file) v.registry).1 = .error found ∧ found ≠ [] ∧ found ⊆ faults

/-- A name that is new among those of failed types is that of a type whose definition is visited and
had faults, which are reported. -/
theorem mem_failed_visit {l : Loader} {file : String} {d : Definition} {name : String}
    (failed : name ∈ (l.visit file d).failed) :
  name ∈ l.failed ∨ FailedWithin (l.typeVisits [(file, d)]) name (l.visit file d).faults
  := by
  cases d with
  | schema node =>
    obtain ⟨faults, roots, visited, -⟩ := l.visitSchema_cases file node
    rw [visit, visited] at failed
    left
    apply failed
  | type node =>
    by_cases sound : node.Sound
    · left
      obtain ⟨unsound, -⟩ | ⟨-, existing, -, visited⟩ | ⟨-, -, visited⟩ :=
        l.visitType_cases file node
      · exact absurd sound unsound
      all_goals
        rw [visit, visited] at failed
        apply failed
    · obtain ⟨found, registry, built, some_found, -⟩ :=
        TypeNode.build_of_not_sound sound (some file) l.registry
      have visited : l.visit file (.type node)
          = { l.failedWith registry found with failed := l.failed ++ [node.name] } := by
        rw [visit, visitType, built]
        rfl
      rw [visited] at failed ⊢
      apply (List.mem_append.mp failed).imp_right
      intro same
      refine ⟨⟨file, node, l.registry⟩, List.mem_singleton_self _, ?_, found, ?_, some_found, ?_⟩
      · exact (List.mem_singleton.mp same).symm
      · rw [built]
      · apply List.subset_append_right
  | extension node =>
    left
    obtain ⟨-, registry, faults, -, -, visited⟩ | ⟨-, visited⟩ := l.visitExtension_cases file node
    all_goals
      rw [visit, visited] at failed
      apply failed
  | directive node =>
    left
    obtain ⟨-, fault, visited⟩ | ⟨-, -, registry, faults, -, -, visited⟩ | ⟨-, -, visited⟩ :=
      l.visitDirective_cases file node
    all_goals
      rw [visit, visited] at failed
      apply failed

/-- A name that is new among those of failed types after visits is that of a type whose definition
is visited and had faults, which are reported. -/
theorem mem_failed_visitEach {l : Loader} {ds : List (String × Definition)} {name : String}
    (failed : name ∈ (l.visitEach ds).failed) :
  name ∈ l.failed ∨ FailedWithin (l.typeVisits ds) name (l.visitEach ds).faults
  := by
  induction ds generalizing l with
  | nil => exact .inl failed
  | cons d rest ih =>
    have visits : l.typeVisits (d :: rest)
        = l.typeVisits [d] ++ (l.visit d.1 d.2).typeVisits rest := by
      rw [typeVisits, typeVisits, typeVisits, ← List.filterMap_append]
      rfl
    rw [visits, visitEach_cons]
    rcases ih failed with before | ⟨v, member, rest_failed⟩
    · apply (mem_failed_visit before).imp_right
      rintro ⟨v, member, same, found, built, some_found, reported⟩
      refine ⟨v, List.mem_append_left _ member, same, found, built, some_found, ?_⟩
      apply List.Subset.trans reported
      rw [faults_visitEach]
      apply List.subset_append_left
    · right
      exact ⟨v, List.mem_append_right _ member, rest_failed⟩

/-! ### Merging -/

section Merging

variable (directives : DirectiveTable) (failed : List String)

/-- Merging an extension keeps the names of the types. -/
theorem keys_mergeExtension (types : TypeTable) (faults : List Fault)
    (extension : TypeDefinition) :
  (mergeExtension directives failed (types, faults) extension).1.keys = types.keys
  := by
  obtain ⟨base, found, -, merged⟩ | ⟨-, -, -, conflicts, -, merged⟩ | ⟨-, merged⟩ :=
    mergeExtension_cases directives failed types faults extension
  · rw [merged, OrderedMap.keys_insert, if_pos]
    apply OrderedMap.mem_keys_of_get? found
  · rw [merged]
  · rw [merged]

/-- Merging an extension reports an undefined type if and only if its name is neither that of a type
nor that of a failed one. -/
theorem filter_mergeExtension (types : TypeTable) (extension : TypeDefinition) :
  (mergeExtension directives failed (types, []) extension).2.filter isUndefinedBase
    = if extension.name ∈ types.keys ∨ extension.name ∈ failed then []
      else [.undefinedBase extension.name extension.location]
  := by
  cases found : types.get? extension.name with
  | some base =>
    have known : extension.name ∈ types.keys := by
      apply OrderedMap.mem_keys_of_get? found
    rw [if_pos (Or.inl known)]
    cases merged : base.merge directives extension with
    | ok type =>
      rw [mergeExtension_of_ok _ merged found]
      rfl
    | error conflicts =>
      rw [mergeExtension_of_error _ merged found]
      apply Fault.filter_isUndefinedBase_eq_nil
      intro fault member
      right
      apply TypeDefinition.isOfMerging_of_merge merged fault member
  | none =>
    have unknown := (OrderedMap.get?_eq_none_iff _ _).mp found
    rw [mergeExtension_of_none _ found]
    simp only [unknown, false_or]
    split <;> rfl

/-- The undefined types that merging extensions reports are those of the extensions whose names are
neither those of types nor those of failed ones, in order. -/
theorem filter_mergeReports (types : TypeTable) (extensions : List TypeDefinition) :
  (mergeReports directives failed types extensions).flatten.filter isUndefinedBase
    = (extensions.filter fun extension =>
        extension.name ∉ types.keys ∧ extension.name ∉ failed).map fun extension =>
      .undefinedBase extension.name extension.location
  := by
  induction extensions generalizing types with
  | nil => rfl
  | cons extension rest ih =>
    rw [mergeReports, List.flatten_cons, List.filter_append, filter_mergeExtension, ih,
      keys_mergeExtension, List.filter_cons]
    by_cases known : extension.name ∈ types.keys ∨ extension.name ∈ failed
    · rw [if_pos known, if_neg (by simpa [imp_iff_not_or] using known)]
      rfl
    · rw [if_neg known, if_pos (by simpa using known)]
      rfl

end Merging

/-! ### Reports of undefined types -/

/-- What linking reports, which is nothing if there is a schema. -/
def reported (l : Loader) : List Fault :=
  match l.link with
  | .ok _ => []
  | .error faults => faults

/-- The faults of the extensions among definitions that can be built, but whose names are neither
those of built-in scalar types nor those of any types among the definitions. -/
def undefinedBases (options : Options) (ds : List (String × Definition)) : List Fault :=
  (((start options).extensionVisits ds).filter fun v =>
    (v.node.build (some v.file) v.registry).1.isOk
      && decide (v.node.name ∉ BuiltIn.scalars.keys ++ typeNames ds)).map fun v =>
    .undefinedBase v.node.name (.source (some v.file) v.node.position)

/-- No check reports an extension of an undefined type. -/
theorem filter_checkFaults (l : Loader) (types : TypeTable) (bindings : Bindings) :
  (l.checkFaults types bindings).filter isUndefinedBase = []
  := by
  rw [List.filter_eq_nil_iff, checkFaults]
  simp only [List.forall_mem_append]
  and_intros
  · apply AnnotationCheck.forall_mem_faults <;> simp [isUndefinedBase]
  · apply KindCheck.forall_mem_faults
    intro mentioner r
    cases mentioner <;> exact Bool.false_ne_true
  · apply forall_mem_operationFaults <;> simp [isUndefinedBase]

/-- The extensions of undefined types that are reported are those among the faults of taking up and
merging, since these are reported if there are any. -/
theorem filter_reported (l : Loader) :
  l.reported.filter isUndefinedBase = (l.faults ++ l.merged.2).filter isUndefinedBase
  := by
  rw [reported]
  split
  · next s linked =>
    obtain ⟨no_faults, no_conflicts, -⟩ := (link_eq_ok_iff l s).mp linked
    rw [no_faults, no_conflicts]
    rfl
  · next faults rejected =>
    obtain ⟨-, rfl⟩ | ⟨clean, failed⟩ | ⟨clean, bindings, -, rfl, -⟩ := link_eq_error rejected
    · rfl
    · obtain ⟨-, rfl⟩ := bind_eq_error failed
      rw [clean]
      apply List.filter_eq_nil_iff.mpr
      intro fault member
      obtain ⟨declaration, -, rfl⟩ := List.mem_map.mp member
      exact Bool.false_ne_true
    · rw [clean, filter_checkFaults]
      rfl

/-- The extensions that can be built have the names and the places of their nodes. -/
theorem undefinedBases_eq (options : Options) (ds : List (String × Definition)) :
  undefinedBases options ds
    = (((start options).builtExtensions ds).filter fun extension =>
        extension.name ∉ BuiltIn.scalars.keys ++ typeNames ds).map fun extension =>
      .undefinedBase extension.name extension.location
  := by
  rw [undefinedBases, builtExtensions]
  induction (start options).extensionVisits ds with
  | nil => rfl
  | cons v rest ih =>
    rw [List.filter_cons, List.filterMap_cons]
    cases built : (v.node.build (some v.file) v.registry).1 with
    | error faults => exact ih
    | ok extension =>
      obtain ⟨-, rfl⟩ := Visit.Builds.eq_define built
      have isOk (type : TypeDefinition) :
          (Except.ok type : Except (List Fault) TypeDefinition).isOk = true := rfl
      have toOption (type : TypeDefinition) :
          (Except.ok type : Except (List Fault) TypeDefinition).toOption = some type := rfl
      have name : (v.node.define (some v.file) v.registry.size).name = v.node.name := rfl
      simp only [isOk, toOption, Bool.true_and, List.filter_cons, name]
      split
      · rw [List.map_cons, List.map_cons, ih]
        rfl
      · exact ih

section History

variable {options : Options} {ds : List (String × Definition)} {l : Loader}
  (h : History options ds l)

include h

/-- A loader knows the built-in scalar types and the types among the definitions of its history. -/
theorem History.knows_iff (name : String) :
  l.Knows name ↔ name ∈ BuiltIn.scalars.keys ++ typeNames ds
  := by
  obtain ⟨n, rfl⟩ := h.eq_visitEach
  have atStart : (Loader.start options).Knows name ↔ name ∈ BuiltIn.scalars.keys :=
    or_iff_left List.not_mem_nil
  rw [List.mem_append, ← atStart]
  apply knows_visitEach

/-- A failed type of a loader has a definition in its history with faults, which the loader has. -/
theorem History.failedWithin_of_mem_failed {name : String} (failed : name ∈ l.failed) :
  FailedWithin ((Loader.start options).typeVisits ds) name l.faults
  := by
  obtain ⟨n, rfl⟩ := h.eq_visitEach
  apply (mem_failed_visitEach failed).resolve_left List.not_mem_nil

end History

/-- Whether, after some extensions have been merged, the next one is passed over: there is no type
of its name, and no fault is added. -/
def PassesOver (l : Loader) (done : List TypeDefinition) (extension : TypeDefinition) : Prop :=
  let merged := done.foldl (mergeExtension l.directives l.failed) (l.types, [])
  merged.1.get? extension.name = none
    ∧ (mergeExtension l.directives l.failed merged extension).2 = merged.2

instance (l : Loader) (done : List TypeDefinition) (extension : TypeDefinition) :
    Decidable (l.PassesOver done extension) :=
  inferInstanceAs (Decidable (_ ∧ _))

/-- An extension that is passed over has the name of a failed type. -/
theorem PassesOver.mem_failed {l : Loader} {done : List TypeDefinition}
    {extension : TypeDefinition} (passed : l.PassesOver done extension) :
  extension.name ∈ l.failed
  := by
  obtain ⟨missing, unchanged⟩ := passed
  by_contra fresh
  generalize done.foldl (mergeExtension l.directives l.failed) (l.types, []) = merged at *
  obtain ⟨types, faults⟩ := merged
  obtain ⟨base, found, -⟩ | ⟨base, found, -⟩ | ⟨-, merges⟩ :=
    mergeExtension_cases l.directives l.failed types faults extension
  · simp [missing] at found
  · simp [missing] at found
  · rw [merges, if_neg fresh] at unchanged
    simp at unchanged

/-- The extensions of undefined types that are reported are those that can be built and whose names
are neither those of built-in scalar types nor those of any types that are defined, one fault for
each, in order.  If an extension is passed over, a definition of its type had faults, and these are
reported. -/
theorem History.reports_undefined_bases {options : Options} {ds : List (String × Definition)}
    {l : Loader} (h : History options ds l) :
  l.reported.filter isUndefinedBase = undefinedBases options ds
    ∧ ∀ done extension rest, l.extensions = done ++ extension :: rest →
      l.PassesOver done extension →
      FailedWithin ((Loader.start options).typeVisits ds) extension.name l.reported
  := by
  constructor
  · have loading : l.faults.filter isUndefinedBase = [] := by
      apply Fault.filter_isUndefinedBase_eq_nil
      rw [h.faults_eq]
      intro fault member
      obtain ⟨report, reported, found⟩ := List.mem_flatten.mp member
      left
      apply allOfLoading_of_mem_reports _ ds report reported fault found
    rw [filter_reported, List.filter_append, loading, List.nil_append, merged,
      faults_foldl_mergeExtension, List.nil_append, filter_mergeReports, undefinedBases_eq,
      ← h.extensions_eq]
    congr 2
    funext extension
    rw [Bool.eq_iff_iff, decide_eq_true_eq, decide_eq_true_eq, ← h.knows_iff, Knows, not_or]
  · intro done extension rest _ passed
    obtain ⟨v, member, name, found, built, some_found, among⟩ :=
      h.failedWithin_of_mem_failed passed.mem_failed
    use v, member, name, found, built, some_found
    have early : found ⊆ l.faults ++ l.merged.2 :=
      List.Subset.trans among (List.subset_append_left _ _)
    have reported : l.reported = l.faults ++ l.merged.2 := by
      rw [reported, link_of_found l]
      intro nothing
      apply some_found
      apply List.subset_nil.mp
      rw [← nothing]
      apply early
    rw [reported]
    apply early

/-- A text with extensions of a type that is defined after them and then again, of one that has
faults, and of one that is not defined; an extension of another one that is not defined has faults
itself. -/
def textWithPassedOver : String :=
  "extend type Late{a:Int}type Late{b:Int}type Late{c:Int}type Twice{a:Int a:Int}"
    ++ "extend type Twice{b:Int}extend type Other{c:Int}extend type Wrong{d:Int d:Int}"

/-- In that text one extension is of an undefined type, and the one of the type with faults is
passed over. -/
theorem reports_undefined_bases_passed_over :
  ∃ ds l, History {} ds l
    ∧ undefinedBases {} ds = [.undefinedBase "Other" (.source (some "s") ⟨1, 110⟩)]
    ∧ ∃ done second rest, l.extensions = done ++ second :: rest ∧ l.PassesOver done second
      ∧ FailedWithin ((Loader.start {}).typeVisits ds) "Twice" l.reported
  := by
  have run : ((Loader.start {}).load (some "s") textWithPassedOver).toOption.any fun l =>
      (l.extensions.drop 1).head?.any fun second =>
        decide (second.name = "Twice" ∧ l.PassesOver (l.extensions.take 1) second
          ∧ l.reported.filter isUndefinedBase
            = [.undefinedBase "Other" (.source (some "s") ⟨1, 110⟩)]) := by decide +kernel
  obtain ⟨l, loaded, run⟩ := Except.exists_ok_of_any run
  obtain ⟨second, head, run⟩ := (Option.any_eq_true _ _).mp run
  obtain ⟨name, passed, reported⟩ := of_decide_eq_true run
  obtain ⟨rest, others⟩ := List.head?_eq_some_iff.mp head
  have extensions := (List.take_append_drop 1 l.extensions).symm
  rw [others] at extensions
  obtain ⟨ds, n, parsed, -⟩ := load_eq_ok loaded
  have history := History.start.load parsed loaded
  obtain ⟨undefined, failed⟩ := history.reports_undefined_bases
  refine ⟨_, l, history, ?_, _, second, rest, extensions, passed, ?_⟩
  · rw [← undefined, reported]
  · rw [← name]
    apply failed _ second rest extensions passed

end Loader

end LinkedSchema
