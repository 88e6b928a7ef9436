import LinkedSchema.Proofs.Linking.Rejection
import LinkedSchema.Proofs.Linking.Verdicts
import LinkedSchema.Proofs.Loading.Sequences

/-!
# Downgrading

Misplaced directives fail a schema or do not count, as the options say.  Two loaders that differ in
that option alone take up the same definitions, and linking them differs in the faults of misplaced
directives alone (`Loader.downgrades_of_loadEach`): if these are all the faults, there is a schema
once they do not count.  Only the check of annotations reports misplaced directives, and it
remembers a misplaced directive like any other, so that the faults of the other checks stay as they
are (`AnnotationCheck.faults_warn`).
-/

namespace LinkedSchema

open Document (Operation)

/-- The options under which misplaced directives fail a schema. -/
def Options.strict : Options := { misplacedDirective := .error }

/-- The options under which misplaced directives do not count. -/
def Options.lenient : Options := { misplacedDirective := .warn }

open Options (strict lenient)

/-! ### Faults of misplaced directives -/

namespace Fault

/-- Whether a fault is that of a misplaced directive. -/
def isMisplaced : Fault → Bool
  | misplacedDirective _ _ _ _ _ => true
  | _ => false

/-- The faults but those of misplaced directives, in order. -/
def dropMisplaced (faults : List Fault) : List Fault :=
  faults.filter fun fault => !fault.isMisplaced

/-- Whether no fault in a list is that of a misplaced directive. -/
def NoneMisplaced (faults : List Fault) : Prop := ∀ fault ∈ faults, fault.isMisplaced = false

theorem dropMisplaced_append (faults more : List Fault) :
  dropMisplaced (faults ++ more) = dropMisplaced faults ++ dropMisplaced more
  := List.filter_append _ _

theorem NoneMisplaced.dropMisplaced_eq {faults : List Fault} (h : NoneMisplaced faults) :
  dropMisplaced faults = faults
  := by
  apply List.filter_eq_self.mpr
  intro fault member
  rw [h fault member, Bool.not_false]

theorem noneMisplaced_dropMisplaced (faults : List Fault) :
  NoneMisplaced (dropMisplaced faults)
  := by
  intro fault member
  simpa using (List.mem_filter.mp member).2

/-- The fault of a misplaced directive is late. -/
theorem AllEarly.noneMisplaced {faults : List Fault} (h : AllEarly faults) :
  NoneMisplaced faults
  := by
  intro fault member
  have early := h fault member
  cases fault with
  | misplacedDirective => cases early
  | _ => rfl

end Fault

open Fault (dropMisplaced NoneMisplaced)

/-! ### Checks -/

namespace AnnotationCheck

variable (directives : DirectiveTable)

theorem dropMisplaced_misplaced (directive : DirectiveDefinition) (applied : Annotation) :
  dropMisplaced (misplaced .error directive applied) = []
  := by
  rw [misplaced]
  split <;> rfl

theorem misplaced_warn (directive : DirectiveDefinition) (applied : Annotation) :
  misplaced .warn directive applied = []
  := by
  rw [misplaced]
  split <;> rfl

/-- If misplaced directives do not count, the other faults of the annotations of one definition are
those that are found. -/
theorem definitionFaults_warn (seen : List String) (list : List Annotation) :
  definitionFaults directives .warn seen list
    = dropMisplaced (definitionFaults directives .error seen list)
  := by
  induction list generalizing seen with
  | nil => rfl
  | cons applied rest ih =>
    rw [definitionFaults, definitionFaults]
    cases directives.get? applied.name with
    | none => exact congrArg _ (ih seen)
    | some directive =>
      simp only [Fault.dropMisplaced_append, dropMisplaced_misplaced, misplaced_warn,
        List.nil_append]
      -- Misplaced or not, the directive is remembered: both sides go on with the same names.
      split
      · apply ih
      · split
        · exact congrArg _ (ih seen)
        · apply ih

/-- If misplaced directives do not count, the other faults of all annotations are those that are
found. -/
theorem faults_warn (types : TypeTable) :
  faults directives .warn types = dropMisplaced (faults directives .error types)
  := by
  rw [faults, faults, dropMisplaced, List.filter_flatMap]
  apply List.flatMap_congr
  intro list _
  apply definitionFaults_warn

end AnnotationCheck

namespace KindCheck

variable (types : TypeTable) (bindings : Bindings)

/-- The check of kinds finds no misplaced directive. -/
theorem noneMisplaced_faults (directives : DirectiveTable) :
  NoneMisplaced (faults types bindings directives)
  := by
  apply forall_mem_faults
  intro mentioner r
  cases mentioner <;> rfl

end KindCheck

namespace Loader

/-- The choice of the types of operations finds no misplaced directive. -/
theorem noneMisplaced_operationFaults (types : TypeTable) (roots : OrderedMap Operation Root) :
  NoneMisplaced (operationFaults types roots)
  := forall_mem_operationFaults types roots (fun _ _ _ => rfl) (fun _ _ _ => rfl) rfl

/-! ### Linking -/

/-- Whether the second of two results of linking is the first one without the faults of misplaced
directives: a schema stays the same, and there is one if no other faults are there. -/
structure Downgrades (first second : Except (List Fault) Schema) : Prop where
  same : ∀ s, first = .ok s → second = .ok s
  kept : ∀ faults, first = .error faults → dropMisplaced faults ≠ [] →
    second = .error (dropMisplaced faults)
  cleared : ∀ faults, first = .error faults → dropMisplaced faults = [] → ∃ s, second = .ok s
  silent : ∀ faults, second = .error faults → NoneMisplaced faults
  fewer : ∀ faults, second = .error faults → ∃ more, first = .error more ∧ faults ⊆ more

theorem Downgrades.ok (s : Schema) :
  Downgrades (.ok s) (.ok s)
  where
  same _ h := h
  kept := nofun
  cleared := nofun
  silent := nofun
  fewer := nofun

theorem Downgrades.error {faults : List Fault} {second : Except (List Fault) Schema}
    (kept : dropMisplaced faults ≠ [] → second = .error (dropMisplaced faults))
    (cleared : dropMisplaced faults = [] → ∃ s, second = .ok s) :
  Downgrades (.error faults) second
  := by
  have dropped : ∀ others, second = .error others → others = dropMisplaced faults := by
    intro others failed
    by_cases found : dropMisplaced faults = []
    · obtain ⟨s, linked⟩ := cleared found
      rw [linked] at failed
      cases failed
    · rw [kept found] at failed
      cases failed
      rfl
  constructor
  · nofun
  · rintro _ ⟨⟩
    apply kept
  · rintro _ ⟨⟩
    apply cleared
  · intro others failed
    rw [dropped others failed]
    apply Fault.noneMisplaced_dropMisplaced
  · intro others failed
    rw [dropped others failed]
    use faults, rfl
    intro fault member
    apply (List.mem_filter.mp member).1

/-- Faults none of which is that of a misplaced directive are there in either case. -/
theorem Downgrades.of_noneMisplaced {faults : List Fault} (found : faults ≠ [])
    (none : NoneMisplaced faults) :
  Downgrades (.error faults) (.error faults)
  := by
  apply Downgrades.error
  · intro _
    rw [none.dropMisplaced_eq]
  · intro nothing
    rw [none.dropMisplaced_eq] at nothing
    exact absurd nothing found

section Forward

variable (l : Loader) (clean : l.faults ++ l.merged.2 = [])

include clean

/-- References that cannot be bound end the linking. -/
theorem link_of_unbound {unbound : List Fault}
    (failed : l.registry.bind l.merged.1 = .error unbound) :
  l.link = .error unbound
  := by
  rw [link]
  simp only [clean, failed, List.isEmpty_nil, Bool.not_true, Bool.false_eq_true, if_false]

/-- Faults of the checks end the linking. -/
theorem link_of_checked {bindings : Bindings} (bound : l.registry.bind l.merged.1 = .ok bindings)
    (found : l.checkFaults l.merged.1 bindings ≠ []) :
  l.link = .error (l.checkFaults l.merged.1 bindings)
  := by
  have some_fault := mt List.isEmpty_iff.mp found
  rw [link]
  simp only [clean, bound, List.isEmpty_nil, Bool.not_true, Bool.false_eq_true, if_false,
    some_fault]
  split <;> rfl

end Forward

section Lenient

variable {l : Loader} (counts : l.options = strict)

include counts

/-- If misplaced directives do not count, the other faults of the checks are those that are
found. -/
theorem checkFaults_lenient (types : TypeTable) (bindings : Bindings) :
  (l.withOptions lenient).checkFaults types bindings
    = dropMisplaced (l.checkFaults types bindings)
  := by
  rw [checkFaults, checkFaults, counts, Fault.dropMisplaced_append, Fault.dropMisplaced_append,
    (KindCheck.noneMisplaced_faults types bindings l.directives).dropMisplaced_eq,
    (noneMisplaced_operationFaults types l.roots).dropMisplaced_eq, strict,
    ← AnnotationCheck.faults_warn]
  rfl

/-- If the checks find nothing but misplaced directives, there is a schema once these do not
count: were there no type for queries, another fault would say why. -/
theorem exists_link_lenient (clean : l.faults ++ l.merged.2 = []) {bindings : Bindings}
    (bound : l.registry.bind l.merged.1 = .ok bindings)
    (nothing : dropMisplaced (l.checkFaults l.merged.1 bindings) = []) :
  ∃ s, (l.withOptions lenient).link = .ok s
  := by
  rw [← checkFaults_lenient counts] at nothing
  have placed : rootPlace? l.merged.1 l.roots .query ≠ none := by
    intro missing
    apply (mem_operationFaults_of_none l missing).ne_nil
    apply (List.append_eq_nil_iff.mp nothing).2
  obtain ⟨no_faults, no_conflicts⟩ := List.append_eq_nil_iff.mp clean
  have linked : (l.withOptions lenient).link.isOk := by
    apply (link_isOk_iff _).mpr
    exact ⟨no_faults, no_conflicts, bindings, bound, nothing, Option.isSome_iff_ne_none.mpr placed⟩
  cases link : (l.withOptions lenient).link with
  | error faults =>
    rw [link] at linked
    cases linked
  | ok s => use s

/-- Linking with misplaced directives not counting differs in their faults alone. -/
theorem downgrades_link (early : Fault.AllEarly (l.faults ++ l.merged.2)) :
  Downgrades l.link (l.withOptions lenient).link
  := by
  cases linked : l.link with
  | ok s =>
    obtain ⟨loaded, merged, bound, checked, rest⟩ := (link_eq_ok_iff l s).mp linked
    have link : (l.withOptions lenient).link = .ok s := by
      apply (link_eq_ok_iff _ s).mpr
      use loaded, merged, bound
      rw [checkFaults_lenient counts]
      use congrArg dropMisplaced checked
      exact rest
    rw [link]
    apply Downgrades.ok
  | error faults =>
    obtain ⟨found, rfl⟩ | ⟨clean, failed⟩ | ⟨clean, bindings, bound, rfl, -⟩ := link_eq_error linked
    · have link : (l.withOptions lenient).link = .error (l.faults ++ l.merged.2) :=
        link_of_found (l.withOptions lenient) found
      rw [link]
      apply Downgrades.of_noneMisplaced found early.noneMisplaced
    · have link : (l.withOptions lenient).link = .error faults :=
        link_of_unbound (l.withOptions lenient) clean failed
      obtain ⟨found, rfl⟩ := bind_eq_error failed
      rw [link]
      apply Downgrades.of_noneMisplaced (mt List.map_eq_nil_iff.mp found)
      intro fault member
      obtain ⟨declaration, -, rfl⟩ := List.mem_map.mp member
      rfl
    · apply Downgrades.error
      · intro found
        rw [← checkFaults_lenient counts] at found ⊢
        exact link_of_checked (l.withOptions lenient) clean bound found
      · apply exists_link_lenient counts clean bound

end Lenient

/-- A reachable loader has the options of the start. -/
theorem Reachable.options_eq {options : Options} {l : Loader} (h : Reachable options l) :
  l.options = options
  := by
  obtain ⟨ds, loads⟩ := h.exists_loads
  apply loads.accounts.options

/-- If misplaced directives do not count, loads stop with the same fault or take up the same
definitions, and linking these differs in the faults of misplaced directives alone. -/
theorem downgrades_of_loadEach (loads : List Load) :
  (start lenient).loadEach loads = ((start strict).loadEach loads).map (withOptions lenient)
    ∧ ∀ l l', (start strict).loadEach loads = .ok l → (start lenient).loadEach loads = .ok l' →
      Downgrades l.link l'.link
  := by
  have same := loadEach_withOptions lenient (start strict) loads
  use same
  intro l l' loaded loaded'
  have reached := Reachable.start.loadEach loaded
  change (start lenient).loadEach loads = _ at same
  rw [loaded', loaded] at same
  cases same
  apply downgrades_link reached.options_eq
  obtain ⟨ds, history⟩ := reached.exists_history
  rw [← history.definitionFaults_eq]
  apply allEarly_definitionFaults

/-- The load of a text in which one directive is misplaced and another one is not defined. -/
def misplacedLoad : Load := .text (some "s") "type Query@deprecated@x{a:Int}"

/-- If misplaced directives do not count, the directive that is not defined is the only fault of
that text. -/
theorem downgrades_misplaced :
  ∃ l l', (start strict).loadEach [misplacedLoad] = .ok l
    ∧ (start lenient).loadEach [misplacedLoad] = .ok l'
    ∧ l.link = .error [
      .misplacedDirective "deprecated" .object []
        [.fieldDefinition, .argumentDefinition, .inputFieldDefinition, .enumValue]
        (.source (some "s") ⟨1, 11⟩),
      .undefinedDirective "x" (.source (some "s") ⟨1, 22⟩)]
    ∧ l'.link = .error [.undefinedDirective "x" (.source (some "s") ⟨1, 22⟩)]
  := by
  have run : ((start strict).loadEach [misplacedLoad]).toOption.any fun l =>
      match l.link with
      | .ok _ => false
      | .error faults => decide (faults = [
        .misplacedDirective "deprecated" .object []
          [.fieldDefinition, .argumentDefinition, .inputFieldDefinition, .enumValue]
          (.source (some "s") ⟨1, 11⟩),
        .undefinedDirective "x" (.source (some "s") ⟨1, 22⟩)]) := by decide +kernel
  obtain ⟨l, loaded, run⟩ := Except.exists_ok_of_any run
  split at run
  · cases run
  · next faults failed =>
    rw [of_decide_eq_true run] at failed
    obtain ⟨same, downgrades⟩ := downgrades_of_loadEach [misplacedLoad]
    rw [loaded] at same
    use l, l.withOptions lenient, loaded, same, failed
    exact (downgrades l _ loaded same).kept _ failed (List.cons_ne_nil _ _)

end Loader

end LinkedSchema
