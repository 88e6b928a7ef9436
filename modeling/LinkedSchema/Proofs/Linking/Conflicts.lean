import LinkedSchema.Proofs.Linking.Merging
import LinkedSchema.Proofs.Linking.Rejection

/-!
# Conflicts

What stands against merging an extension into a type is a list of faults
(`TypeDefinition.Obstacles`): that the names differ, or else that the kinds differ, or else one
fault for each annotation and each member of the extension that conflicts with the type.  There is
exactly one such list, and a merge fails with it if and only if it is not empty
(`TypeDefinition.merge_eq_error_iff`).  An extension that cannot be merged leaves the type and the
table of types as they were, and the extensions after it are merged as if it had not been there
(`Loader.merge_fails_as_a_whole`).
-/

namespace LinkedSchema

/-! ### Reports -/

/-- Whether faults report those members of a list that conflict, one fault for each of them and in
their order; `conflict` relates a member that conflicts to its fault. -/
inductive Fault.ReportsEach {α : Type} (conflict : α → Fault → Prop) :
    List α → List Fault → Prop where
  | nil : ReportsEach conflict [] []
  | conflicting {a : α} {fault : Fault} {rest : List α} {faults : List Fault} :
      conflict a fault → ReportsEach conflict rest faults →
      ReportsEach conflict (a :: rest) (fault :: faults)
  | clear {a : α} {rest : List α} {faults : List Fault} :
      (∀ fault, ¬ conflict a fault) → ReportsEach conflict rest faults →
      ReportsEach conflict (a :: rest) faults

/-- The faults that a function finds report the members that conflict, and no others do, if it finds
the fault of every member that conflicts. -/
theorem Fault.reportsEach_iff {α : Type} {conflict : α → Fault → Prop} {find : α → Option Fault}
    (finds : ∀ a fault, find a = some fault ↔ conflict a fault) (list : List α)
    (faults : List Fault) :
  ReportsEach conflict list faults ↔ faults = list.filterMap find
  := by
  constructor
  · intro reports
    induction reports with
    | nil => rfl
    | conflicting here _ ih => rw [List.filterMap_cons_some ((finds _ _).mpr here), ih]
    | @clear a _ _ no_fault _ ih =>
      have missed : find a = none := by
        apply Option.eq_none_iff_forall_ne_some.mpr
        intro fault found
        apply no_fault fault ((finds a fault).mp found)
      rw [List.filterMap_cons_none missed, ih]
  · rintro rfl
    induction list with
    | nil => apply ReportsEach.nil
    | cons a rest ih =>
      cases found : find a with
      | none =>
        rw [List.filterMap_cons_none found]
        apply ReportsEach.clear _ ih
        intro fault conflicts
        rw [(finds a fault).mpr conflicts] at found
        cases found
      | some fault =>
        rw [List.filterMap_cons_some found]
        apply ReportsEach.conflicting ((finds a fault).mp found) ih

namespace TypeDefinition

/-! ### What stands against a merge -/

/-- Whether an annotation of an extension applies a directive that is defined, may not be repeated
and is applied to the type too; the fault says where the type applies it first. -/
def ConflictsOnDirective (directives : DirectiveTable) (base : TypeDefinition)
    (applied : Annotation) (fault : Fault) : Prop :=
  ∃ directive, directives.get? applied.name = some directive ∧ directive.repeatable = false
    ∧ ∃ before first after, base.directives = before ++ first :: after
      ∧ (∀ other ∈ before, other.name ≠ applied.name) ∧ first.name = applied.name
      ∧ fault = .directiveConflict base.name applied.name first.location applied.location

/-- Whether a member of an extension has the name of one of the type; the fault says where both
stand. -/
def ConflictsOnName {δ : Type} (location : δ → Location)
    (conflict : String → Location → Location → Fault) (own : OrderedMap String δ)
    (added : String × δ) (fault : Fault) : Prop :=
  ∃ member, own.get? added.1 = some member
    ∧ fault = conflict added.1 (location member) (location added.2)

/-- Whether faults are all that stands against merging an extension into a type. -/
inductive Obstacles (directives : DirectiveTable) (base extension : TypeDefinition) :
    List Fault → Prop where
  | name :
      base.name ≠ extension.name →
      Obstacles directives base extension
        [.nameMismatch base.name extension.name extension.location]
  | kind :
      base.name = extension.name → base.kind ≠ extension.kind →
      Obstacles directives base extension
        [.kindMismatch base.name base.kind extension.kind extension.location]
  | conflicts {onDirectives onFields onInputFields onValues : List Fault} :
      base.name = extension.name → base.kind = extension.kind →
      Fault.ReportsEach (ConflictsOnDirective directives base) extension.directives
        onDirectives →
      Fault.ReportsEach
        (ConflictsOnName FieldDefinition.location (.fieldConflict base.name) base.fields)
        extension.fields.entries onFields →
      Fault.ReportsEach
        (ConflictsOnName InputDefinition.location (.fieldConflict base.name) base.inputFields)
        extension.inputFields.entries onInputFields →
      Fault.ReportsEach
        (ConflictsOnName EnumValueDefinition.location (.enumValueConflict base.name)
          base.enumValues)
        extension.enumValues.entries onValues →
      Obstacles directives base extension
        (onDirectives ++ onFields ++ onInputFields ++ onValues)

/-- The conflicts of directives report the annotations that conflict. -/
theorem reportsEach_directiveConflicts_iff (directives : DirectiveTable)
    (base extension : TypeDefinition) (faults : List Fault) :
  Fault.ReportsEach (ConflictsOnDirective directives base) extension.directives faults
    ↔ faults = directiveConflicts directives base extension
  := by
  apply Fault.reportsEach_iff
  intro applied fault
  rw [ConflictsOnDirective]
  cases may : mayRepeat directives applied.name with
  | true =>
    rw [if_pos rfl]
    constructor
    · nofun
    · rintro ⟨directive, defined, once, -⟩
      rw [(mayRepeat_eq_false_iff directives applied.name).mpr ⟨directive, defined, once⟩] at may
      cases may
  | false =>
    obtain ⟨directive, defined, once⟩ := (mayRepeat_eq_false_iff directives applied.name).mp may
    rw [if_neg Bool.false_ne_true, Option.map_eq_some_iff]
    constructor
    · rintro ⟨first, found, rfl⟩
      obtain ⟨same, before, after, split, others⟩ := List.find?_eq_some_iff_append.mp found
      use directive, defined, once, before, first, after, split
      exact ⟨by simpa using others, by simpa using same, rfl⟩
    · rintro ⟨-, -, -, before, first, after, split, others, same, rfl⟩
      refine ⟨first, ?_, rfl⟩
      apply List.find?_eq_some_iff_append.mpr
      exact ⟨by simpa using same, before, after, split, by simpa using others⟩

/-- The conflicts of members report the members that conflict. -/
theorem reportsEach_memberConflicts_iff {δ : Type} (location : δ → Location)
    (conflict : String → Location → Location → Fault) (own added : OrderedMap String δ)
    (faults : List Fault) :
  Fault.ReportsEach (ConflictsOnName location conflict own) added.entries faults
    ↔ faults = memberConflicts location conflict own added
  := by
  apply Fault.reportsEach_iff
  intro entry fault
  rw [ConflictsOnName, Option.map_eq_some_iff]
  simp only [eq_comm]

/-- If an extension has the name and the kind of a type, its conflicts are all that stands against
the merge. -/
theorem obstacles_iff_of_heading {directives : DirectiveTable} {base extension : TypeDefinition}
    (name : base.name = extension.name) (kind : base.kind = extension.kind)
    (faults : List Fault) :
  Obstacles directives base extension faults ↔ faults = conflicts directives base extension
  := by
  constructor
  · intro obstacles
    cases obstacles with
    | name other => exact absurd name other
    | kind _ other => exact absurd kind other
    | conflicts _ _ onDirectives onFields onInputFields onValues =>
      rw [reportsEach_directiveConflicts_iff] at onDirectives
      rw [reportsEach_memberConflicts_iff] at onFields onInputFields onValues
      rw [conflicts, onDirectives, onFields, onInputFields, onValues]
  · rintro rfl
    apply Obstacles.conflicts name kind
    · apply (reportsEach_directiveConflicts_iff ..).mpr rfl
    · apply (reportsEach_memberConflicts_iff ..).mpr rfl
    · apply (reportsEach_memberConflicts_iff ..).mpr rfl
    · apply (reportsEach_memberConflicts_iff ..).mpr rfl

/-- There is exactly one list of all that stands against a merge. -/
theorem existsUnique_obstacles (directives : DirectiveTable) (base extension : TypeDefinition) :
  ∃! faults, Obstacles directives base extension faults
  := by
  by_cases name : base.name = extension.name
  · by_cases kind : base.kind = extension.kind
    · use conflicts directives base extension
      constructor
      · apply (obstacles_iff_of_heading name kind _).mpr rfl
      · intro faults obstacles
        apply (obstacles_iff_of_heading name kind faults).mp obstacles
    · use [.kindMismatch base.name base.kind extension.kind extension.location], .kind name kind
      intro faults obstacles
      cases obstacles with
      | name other => exact absurd name other
      | kind => rfl
      | conflicts _ same => exact absurd same kind
  · use [.nameMismatch base.name extension.name extension.location], .name name
    intro faults obstacles
    cases obstacles with
    | name => rfl
    | kind same => exact absurd same name
    | conflicts same => exact absurd same name

/-- A merge fails with all that stands against it, if there is anything. -/
theorem merge_eq_error_iff (directives : DirectiveTable) (base extension : TypeDefinition)
    (faults : List Fault) :
  base.merge directives extension = .error faults
    ↔ Obstacles directives base extension faults ∧ faults ≠ []
  := by
  have fails {list : List Fault} (obstacles : Obstacles directives base extension list)
      (failed : base.merge directives extension = .error list) (some : list ≠ []) :
      base.merge directives extension = .error faults
        ↔ Obstacles directives base extension faults ∧ faults ≠ [] := by
    rw [failed, Except.error.injEq]
    constructor
    · rintro rfl
      exact ⟨obstacles, some⟩
    · rintro ⟨also, -⟩
      apply (existsUnique_obstacles directives base extension).unique obstacles also
  by_cases name : base.name = extension.name
  · by_cases kind : base.kind = extension.kind
    · by_cases clear : conflicts directives base extension = []
      · rw [merge_of_accepts ⟨name, kind, clear⟩, obstacles_iff_of_heading name kind, clear]
        simp
      · apply fails ((obstacles_iff_of_heading name kind _).mpr rfl) _ clear
        rw [merge_eq, if_neg (not_not_intro name), if_neg (not_not_intro kind),
          if_neg (mt List.isEmpty_iff.mp clear)]
    · apply fails (.kind name kind) _ (List.cons_ne_nil _ _)
      rw [merge_eq, if_neg (not_not_intro name), if_pos kind]
  · apply fails (.name name) _ (List.cons_ne_nil _ _)
    rw [merge_eq, if_pos name]

end TypeDefinition

/-! ### Merges that fail -/

namespace Loader

variable {directives : DirectiveTable} {failed : List String}

/-- What merging extensions makes of a table does not depend on the faults found before, and these
stand before those that it finds. -/
theorem foldl_mergeExtension_eq (types : TypeTable) (found : List Fault)
    (extensions : List TypeDefinition) :
  extensions.foldl (mergeExtension directives failed) (types, found)
    = ((extensions.foldl (mergeExtension directives failed) (types, [])).1,
      found ++ (extensions.foldl (mergeExtension directives failed) (types, [])).2)
  := by
  induction extensions generalizing types found with
  | nil => simp
  | cons extension rest ih =>
    rw [List.foldl_cons, List.foldl_cons, mergeExtension_eq, ih]
    obtain ⟨merged, more⟩ := mergeExtension directives failed (types, []) extension
    rw [ih merged more, List.append_assoc]

/-- A merge fails with all that stands against it, if there is anything, and then leaves the type as
it is.  An extension that cannot be merged leaves all types as they are, and those after it are
merged as if it had not been there; its faults stand between those found before it and those found
after it. -/
theorem merge_fails_as_a_whole (directives : DirectiveTable) (base extension : TypeDefinition) :
  (∃! faults, base.Obstacles directives extension faults)
    ∧ (∀ faults, base.merge directives extension = .error faults
      ↔ base.Obstacles directives extension faults ∧ faults ≠ [])
    ∧ ∀ faults, base.merge directives extension = .error faults →
      base.absorb directives extension = (base, .error faults)
        ∧ ∀ (failed : List String) (start : TypeTable × List Fault)
          (before after : List TypeDefinition),
          let merging := List.foldl (mergeExtension directives failed) start
          (merging before).1.get? extension.name = some base →
          merging (before ++ [extension]) = ((merging before).1, (merging before).2 ++ faults)
            ∧ ∃ more, (merging (before ++ after)).2 = (merging before).2 ++ more
              ∧ merging (before ++ extension :: after)
                = ((merging (before ++ after)).1, (merging before).2 ++ faults ++ more)
  := by
  use TypeDefinition.existsUnique_obstacles directives base extension,
    TypeDefinition.merge_eq_error_iff directives base extension
  intro faults refused
  use TypeDefinition.absorb_of_error refused
  intro failed start before after merging there
  have step : mergeExtension directives failed (merging before) extension
      = ((merging before).1, (merging before).2 ++ faults) :=
    mergeExtension_of_error _ refused there
  have after_others (extensions : List TypeDefinition) : merging (before ++ extensions)
      = extensions.foldl (mergeExtension directives failed) (merging before) := List.foldl_append
  have without : merging (before ++ after)
      = ((after.foldl (mergeExtension directives failed) ((merging before).1, [])).1,
        (merging before).2
          ++ (after.foldl (mergeExtension directives failed) ((merging before).1, [])).2) := by
    rw [after_others]
    apply foldl_mergeExtension_eq
  constructor
  · rw [after_others]
    apply step
  · use (after.foldl (mergeExtension directives failed) ((merging before).1, [])).2
    constructor
    · rw [without]
    · rw [after_others, List.foldl_cons, step, foldl_mergeExtension_eq, without]

/-- A text with an extension that conflicts with a type and with an extension before it. -/
def textWithConflicts : String :=
  "directive@key on OBJECT type Query@key{a:Int}extend type Query{b:Int}"
    ++ "extend type Query@key{a:Int c:Int b:Int}extend type Query{c:Int}"

/-- What stands against merging that extension. -/
def conflictsOfText : List Fault := [
  .directiveConflict "Query" "key" (.source (some "s") ⟨1, 35⟩) (.source (some "s") ⟨1, 87⟩),
  .fieldConflict "Query" "a" (.source (some "s") ⟨1, 40⟩) (.source (some "s") ⟨1, 92⟩),
  .fieldConflict "Query" "b" (.source (some "s") ⟨1, 64⟩) (.source (some "s") ⟨1, 104⟩)]

/-- The extension of that text fails as a whole: the field that only it and the last extension add
comes from the last one. -/
theorem merge_fails_as_a_whole_between :
  ∃ l first refused last base, (start {}).load (some "s") textWithConflicts = .ok l
    ∧ l.extensions = [first, refused, last]
    ∧ ([first].foldl (mergeExtension l.directives l.failed) (l.types, [])).1.get? refused.name
      = some base
    ∧ base.merge l.directives refused = .error conflictsOfText
    ∧ base.absorb l.directives refused = (base, .error conflictsOfText)
    ∧ base.Obstacles l.directives refused conflictsOfText
    ∧ l.merged
      = (([first, last].foldl (mergeExtension l.directives l.failed) (l.types, [])).1,
        conflictsOfText)
  := by
  have run : ((start {}).load (some "s") textWithConflicts).toOption.any fun l =>
      l.extensions[0]?.any fun first => l.extensions[1]?.any fun refused =>
      l.extensions[2]?.any fun last =>
        (([first].foldl (mergeExtension l.directives l.failed) (l.types, [])).1.get?
            refused.name).any fun base =>
          decide (l.extensions = [first, refused, last]
            ∧ base.merge l.directives refused = .error conflictsOfText
            ∧ ([first].foldl (mergeExtension l.directives l.failed) (l.types, [])).2 = []
            ∧ ([first, last].foldl (mergeExtension l.directives l.failed) (l.types, [])).2 = []) :=
    by decide +kernel
  obtain ⟨l, loaded, run⟩ := Except.exists_ok_of_any run
  obtain ⟨first, -, run⟩ := (Option.any_eq_true _ _).mp run
  obtain ⟨refused, -, run⟩ := (Option.any_eq_true _ _).mp run
  obtain ⟨last, -, run⟩ := (Option.any_eq_true _ _).mp run
  obtain ⟨base, there, run⟩ := (Option.any_eq_true _ _).mp run
  obtain ⟨held, conflicts, none_before, none_after⟩ := of_decide_eq_true run
  obtain ⟨-, fails, refusing⟩ := merge_fails_as_a_whole l.directives base refused
  obtain ⟨unchanged, merging⟩ := refusing conflictsOfText conflicts
  obtain ⟨-, more, without, together⟩ := merging l.failed (l.types, []) [first] [last] there
  refine ⟨l, first, refused, last, base, loaded, held, there, conflicts, unchanged,
    ((fails conflictsOfText).mp conflicts).1, ?_⟩
  have no_more : more = [] := by
    rw [none_before, List.nil_append] at without
    apply without.symm.trans none_after
  rw [none_before, no_more, List.nil_append, List.append_nil] at together
  rw [merged, held]
  apply together

end Loader

end LinkedSchema
