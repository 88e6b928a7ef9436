import LinkedSchema.Proofs.Linking.Merging
import LinkedSchema.Schema.AnnotationCheck

/-!
# Annotations

The check of annotations finds nothing if and only if the annotations of everything defined are
well marked: each names a directive that is defined and may stand at its site, and those that may
not be repeated are not (`AnnotationCheck.faults_eq_nil_iff`).
-/

namespace LinkedSchema.AnnotationCheck

open TypeDefinition (mayRepeat)

variable (directives : DirectiveTable) (severity : Severity)

/-- Whether a directive with a name is defined and may stand at a site. -/
def Placed (mark : String × Site) : Prop :=
  ∃ directive, directives.get? mark.1 = some directive
    ∧ (mark.2 ∈ directive.sites ∨ severity = .warn)

/-- Those of some names that may not be applied again. -/
def once (names : List String) : List String := names.filter fun name => !mayRepeat directives name

/-- Whether annotations of one thing with these names and sites are in order. -/
structure WellMarked (marks : List (String × Site)) : Prop where
  placed : ∀ mark ∈ marks, Placed directives severity mark
  once : (once directives (marks.map Prod.fst)).Nodup

/-- A directive that is defined is not found misplaced if and only if it may stand at its site. -/
theorem misplaced_eq_nil_iff (directive : DirectiveDefinition) (applied : Annotation) :
  misplaced severity directive applied = []
    ↔ applied.site ∈ directive.sites ∨ severity = .warn
  := by
  cases severity <;> simp [misplaced, DirectiveDefinition.allows]

/-- The annotations of one definition are found in order if and only if all are placed, and those
that may not be applied again are distinct and not among those seen. -/
theorem definitionFaults_eq_nil_iff (seen : List String) (list : List Annotation) :
  definitionFaults directives severity seen list = []
    ↔ (∀ applied ∈ list, Placed directives severity applied.mark)
      ∧ (once directives (list.map Annotation.name)).Nodup
      ∧ ∀ name ∈ once directives (list.map Annotation.name), name ∉ seen
  := by
  induction list generalizing seen with
  | nil => simp [definitionFaults, once]
  | cons applied rest ih =>
    rw [definitionFaults, List.forall_mem_cons, List.map_cons, once, List.filter_cons, ← once]
    cases found : directives.get? applied.name with
    | none =>
      have unplaced : ¬ Placed directives severity applied.mark := by
        rintro ⟨directive, defined, -⟩
        change directives.get? applied.name = some directive at defined
        rw [found] at defined
        cases defined
      simp [unplaced]
    | some directive =>
      have placed : Placed directives severity applied.mark
          ↔ applied.site ∈ directive.sites ∨ severity = .warn := by
        simp [Placed, Annotation.mark, found]
      have repeats : mayRepeat directives applied.name = directive.repeatable := by
        rw [mayRepeat, found]
      simp only [List.append_eq_nil_iff, misplaced_eq_nil_iff, placed, repeats]
      cases directive.repeatable with
      | true =>
        simp only [if_true, ih, Bool.not_true, Bool.false_eq_true, if_false]
        tauto
      | false =>
        simp only [Bool.false_eq_true, if_false, Bool.not_false, if_true, List.nodup_cons,
          List.forall_mem_cons, List.contains_iff_mem]
        split
        · next there => simp [there]
        · next new =>
          rw [ih]
          simp only [List.mem_append, List.mem_singleton, not_or, forall_and]
          grind

/-- The annotations of one definition are found in order if and only if they are well marked. -/
theorem definitionFaults_nil_eq_nil_iff (list : List Annotation) :
  definitionFaults directives severity [] list = []
    ↔ WellMarked directives severity (list.map Annotation.mark)
  := by
  have names : (list.map Annotation.mark).map Prod.fst = list.map Annotation.name := by
    rw [List.map_map]
    rfl
  rw [definitionFaults_eq_nil_iff]
  constructor
  · rintro ⟨placed, distinct, -⟩
    constructor
    · apply List.forall_mem_map.mpr placed
    · rw [names]
      apply distinct
  · rintro ⟨placed, distinct⟩
    rw [names] at distinct
    exact ⟨List.forall_mem_map.mp placed, distinct, by simp⟩

/-- The annotations of a type are those of the type itself and of each of its members. -/
theorem map_mark_annotationLists (type : TypeDefinition) :
  (annotationLists type).map (fun list => list.map Annotation.mark)
    = type.marks :: type.memberMarks
  := by
  simp only [annotationLists, TypeDefinition.memberMarks, List.map_append, List.map_cons,
    List.map_flatMap, List.map_map, List.cons_append]
  rfl

/-- The check of annotations finds nothing if and only if those of all types, of all their members
and of all arguments of directives are well marked. -/
theorem faults_eq_nil_iff (types : TypeTable) :
  faults directives severity types = []
    ↔ (∀ type ∈ types.values, WellMarked directives severity type.marks
        ∧ ∀ list ∈ type.memberMarks, WellMarked directives severity list)
      ∧ ∀ directive ∈ directives.values, ∀ list ∈ directive.marks,
        WellMarked directives severity list
  := by
  have of_type : ∀ type, (∀ list ∈ annotationLists type,
      WellMarked directives severity (list.map Annotation.mark))
        ↔ WellMarked directives severity type.marks
          ∧ ∀ list ∈ type.memberMarks, WellMarked directives severity list := by
    intro type
    rw [← List.forall_mem_cons, ← map_mark_annotationLists, List.forall_mem_map]
  simp only [faults, List.flatMap_eq_nil_iff, List.forall_mem_append, List.forall_mem_flatMap,
    definitionFaults_nil_eq_nil_iff, of_type, DirectiveDefinition.marks, InputDefinition.marks,
    List.forall_mem_map]

end LinkedSchema.AnnotationCheck
