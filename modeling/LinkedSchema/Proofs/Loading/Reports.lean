import LinkedSchema.Proofs.Building.Faults
import LinkedSchema.Proofs.Loading.Histories

/-!
# Reports

What a visit reports does not depend on the faults found before it (`Loader.faults_visit_eq`), so
that the faults of a loader are the reports of its visits, one after another
(`Loader.faults_visitEach`).  A visit reports nothing but faults of loading, none of which is late
(`Loader.allOfLoading_of_mem_reports`, `Loader.allEarly_of_mem_reports`).  Whatever is reported, the
extensions held back are those that could be built, in the order of their visits
(`Loader.extensions_visitEach`).
-/

namespace LinkedSchema.Loader

open Document (Definition SchemaNode TypeNode DirectiveNode Operation)
open Fault (AllEarly AllOfLoading)

/-! ### Reports of visits -/

/-- What a visit of a definition reports. -/
def reportOf (l : Loader) (file : String) (d : Definition) : List Fault :=
  ({ l with faults := [] }.visit file d).faults

/-- What the visits of definitions report, from a loader on. -/
def reports (l : Loader) : List (String × Definition) → List (List Fault)
  | [] => []
  | d :: rest => l.reportOf d.1 d.2 :: (l.visit d.1 d.2).reports rest

/-- A visit adds its report to the faults. -/
theorem faults_visit_eq (l : Loader) (file : String) (d : Definition) :
  (l.visit file d).faults = l.faults ++ l.reportOf file d
  := by
  have same : l = following { l with faults := [] } l.faults l.unnamed := by
    rw [following, List.append_nil]
  have visited := visit_following { l with faults := [] } l.faults l.unnamed file d
  rw [← same] at visited
  rw [visited]
  rfl

/-- The faults after visits are those before them and the reports, one after another. -/
theorem faults_visitEach (l : Loader) (ds : List (String × Definition)) :
  (l.visitEach ds).faults = l.faults ++ (l.reports ds).flatten
  := by
  induction ds generalizing l with
  | nil => exact (List.append_nil _).symm
  | cons d rest ih =>
    apply (ih _).trans
    rw [faults_visit_eq, reports, List.flatten_cons, List.append_assoc]

/-! ### Faults of loading -/

theorem allOfLoading_report {l : Loader} (h : AllOfLoading l.faults) {fault : Fault}
    (ofLoading : fault.isOfLoading) :
  AllOfLoading (l.report [fault]).faults
  := List.forall_mem_append.mpr ⟨h, List.forall_mem_singleton.mpr ofLoading⟩

theorem allOfLoading_visitRoot {l : Loader} (h : AllOfLoading l.faults) (operation : Operation)
    (root : Root) :
  AllOfLoading (l.visitRoot operation root).faults
  := by
  rw [visitRoot]
  split
  · apply allOfLoading_report h rfl
  · apply h

theorem allOfLoading_visitSchema {l : Loader} (h : AllOfLoading l.faults) (file : String)
    (node : SchemaNode) :
  AllOfLoading (l.visitSchema file node).faults
  := by
  rw [visitSchema]
  induction Operation.all generalizing l with
  | nil => apply h
  | cons operation rest ih =>
    apply ih
    simp only
    split
    · apply h
    · apply allOfLoading_visitRoot h

/-- A visit adds nothing but faults of loading. -/
theorem allOfLoading_visit {l : Loader} (h : AllOfLoading l.faults) (file : String)
    (d : Definition) :
  AllOfLoading (l.visit file d).faults
  := by
  cases d with
  | schema node => apply allOfLoading_visitSchema h
  | type node =>
    simp only [visit, visitType]
    split
    · next failed =>
      exact List.forall_mem_append.mpr ⟨h, TypeNode.allOfLoading_of_build failed⟩
    · split
      · apply allOfLoading_report h rfl
      · apply h
  | extension node =>
    simp only [visit, visitExtension]
    split
    · next failed =>
      exact List.forall_mem_append.mpr ⟨h, TypeNode.allOfLoading_of_build failed⟩
    · apply h
  | directive node =>
    simp only [visit, visitDirective]
    split
    · split
      · apply allOfLoading_report h rfl
      · apply allOfLoading_report h rfl
    · split
      · next failed =>
        exact List.forall_mem_append.mpr ⟨h, DirectiveNode.allOfLoading_of_build failed⟩
      · apply h

/-- Visits report nothing but faults of loading. -/
theorem allOfLoading_of_mem_reports (l : Loader) (ds : List (String × Definition)) :
  ∀ report ∈ l.reports ds, AllOfLoading report
  := by
  induction ds generalizing l with
  | nil => nofun
  | cons d rest ih =>
    intro report member
    rcases List.mem_cons.mp member with rfl | later
    · have none_before : AllOfLoading ({ l with faults := [] } : Loader).faults := nofun
      apply allOfLoading_visit none_before
    · apply ih _ report later

/-- No visit reports a late fault. -/
theorem allEarly_of_mem_reports (l : Loader) (ds : List (String × Definition)) :
  ∀ report ∈ l.reports ds, AllEarly report
  := by
  intro report member fault found
  apply Fault.isLate_of_isOfLoading (allOfLoading_of_mem_reports l ds report member fault found)

/-! ### Extensions -/

/-- The extensions among definitions that can be built, in the order of their visits. -/
def builtExtensions (l : Loader) (ds : List (String × Definition)) : List TypeDefinition :=
  (l.extensionVisits ds).filterMap fun v =>
    (v.node.build (some v.file) v.registry).1.toOption

/-- Only a visit of an extension changes the extensions that are held back. -/
theorem extensions_visit (l : Loader) (file : String) {d : Definition}
    (other : d.extension? = none) :
  (l.visit file d).extensions = l.extensions
  := by
  cases d with
  | schema node =>
    obtain ⟨faults, roots, visited, -⟩ := l.visitSchema_cases file node
    rw [visit, visited]
  | type node =>
    obtain ⟨-, registry, faults, -, -, visited⟩ | ⟨-, existing, -, visited⟩ | ⟨-, -, visited⟩ :=
      l.visitType_cases file node
    all_goals
      rw [visit, visited]
      rfl
  | extension node => cases other
  | directive node =>
    obtain ⟨-, fault, visited⟩ | ⟨-, -, registry, faults, -, -, visited⟩ | ⟨-, -, visited⟩ :=
      l.visitDirective_cases file node
    all_goals
      rw [visit, visited]
      rfl

/-- A visit of an extension holds it back if it can be built. -/
theorem extensions_visitExtension (l : Loader) (file : String) (node : TypeNode) :
  (l.visitExtension file node).extensions
    = l.extensions ++ (node.build (some file) l.registry).1.toOption.toList
  := by
  simp only [visitExtension]
  cases (node.build (some file) l.registry).1 with
  | error faults => exact (List.append_nil _).symm
  | ok extension => rfl

/-- The extensions that are held back are those that can be built, whatever is reported. -/
theorem extensions_visitEach (l : Loader) (ds : List (String × Definition)) :
  (l.visitEach ds).extensions = l.extensions ++ l.builtExtensions ds
  := by
  induction ds generalizing l with
  | nil => exact (List.append_nil _).symm
  | cons d rest ih =>
    obtain ⟨file, d⟩ := d
    apply (ih _).trans
    cases d with
    | extension node =>
      have first := extensions_visitExtension l file node
      have more : l.builtExtensions ((file, .extension node) :: rest)
          = (node.build (some file) l.registry).1.toOption.toList
            ++ (l.visitExtension file node).builtExtensions rest := by
        change List.filterMap _ (_ :: (l.visitExtension file node).extensionVisits rest) = _
        rw [List.filterMap_cons]
        cases (node.build (some file) l.registry).1 <;> rfl
      rw [more, ← List.append_assoc, ← first]
      rfl
    | schema node => rw [extensions_visit l file rfl]; rfl
    | type node => rw [extensions_visit l file rfl]; rfl
    | directive node => rw [extensions_visit l file rfl]; rfl

end LinkedSchema.Loader
