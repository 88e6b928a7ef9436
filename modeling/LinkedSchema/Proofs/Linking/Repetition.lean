import LinkedSchema.Proofs.Linking.Annotations
import LinkedSchema.Proofs.Loading.Histories

/-!
# Repetition

A directive that is defined, and not as repeatable, is to be applied to a type at most once
(`TypeDefinition.AppliesOnce`).  A merge compares an extension with the type and not with itself:
the extended type applies every such directive at most once if and only if the type and the
extension both did (`TypeDefinition.appliesOnce_merge_iff`).  What an extension repeats is thus in
the merged type (`TypeDefinition.merge_repeats_within_extension`).
-/

namespace LinkedSchema

namespace TypeDefinition

/-- Whether every directive that is defined, and not as repeatable, is applied to a type at most
once. -/
def AppliesOnce (directives : DirectiveTable) (type : TypeDefinition) : Prop :=
  ∀ name directive, directives.get? name = some directive → directive.repeatable = false →
    (type.directives.map Annotation.name).count name ≤ 1

variable {directives : DirectiveTable}

/-- Directives are applied at most once if and only if those that may not be repeated are
distinct. -/
theorem appliesOnce_iff (type : TypeDefinition) :
  type.AppliesOnce directives ↔ (type.onceApplied directives).Nodup
  := by
  rw [onceApplied, nodup_filter_iff]
  constructor
  · intro once name may_not
    obtain ⟨directive, defined, not_repeatable⟩ :=
      (mayRepeat_eq_false_iff directives name).mp ((Bool.not_eq_true' _).mp may_not)
    apply once name directive defined not_repeatable
  · intro once name directive defined not_repeatable
    apply once
    rw [(mayRepeat_eq_false_iff directives name).mpr ⟨directive, defined, not_repeatable⟩]
    rfl

instance (type : TypeDefinition) : Decidable (type.AppliesOnce directives) :=
  decidable_of_iff _ (appliesOnce_iff type).symm

/-- If two parts conflict in nothing, the extended type applies directives at most once if and only
if both parts do. -/
theorem appliesOnce_extendWith_iff {base extension : TypeDefinition}
    (apart : Apart directives base extension) :
  (base.extendWith extension).AppliesOnce directives
    ↔ base.AppliesOnce directives ∧ extension.AppliesOnce directives
  := by
  obtain ⟨disjoint, -⟩ := (apart_iff directives base extension).mp apart
  rw [appliesOnce_iff, appliesOnce_iff, appliesOnce_iff, onceApplied_extendWith, List.nodup_append']
  rw [and_iff_left disjoint]

/-- A merged type applies every directive that may not be repeated at most once if and only if the
type and the extension both did. -/
theorem appliesOnce_merge_iff {base extension type : TypeDefinition}
    (merged : base.merge directives extension = .ok type) :
  type.AppliesOnce directives
    ↔ base.AppliesOnce directives ∧ extension.AppliesOnce directives
  := by
  obtain ⟨accepted, rfl⟩ := merge_eq_ok_iff.mp merged
  apply appliesOnce_extendWith_iff accepted.conflicts

/-- A text with an extension that repeats a directive that may be, and applies one that is not
defined. -/
def textWithRepeatable : String :=
  "directive@key on OBJECT directive@tag repeatable on OBJECT type T@key{a:Int}"
    ++ "extend type T@tag@tag@other@other"

/-- The type of that text and its extension can be merged, and apply what may not be repeated at
most once. -/
theorem appliesOnce_merge_repeatable :
  ∃ l base extension type, (Loader.start {}).load none textWithRepeatable = .ok l
    ∧ l.types.get? "T" = some base ∧ l.extensions = [extension]
    ∧ base.merge l.directives extension = .ok type
    ∧ type.directives.map Annotation.name = ["key", "tag", "tag", "other", "other"]
    ∧ type.AppliesOnce l.directives
  := by
  have run : ((Loader.start {}).load none textWithRepeatable).toOption.any fun l =>
      (l.types.get? "T").any fun base => l.extensions[0]?.any fun extension =>
        (base.merge l.directives extension).toOption.any fun type =>
          decide (l.extensions = [extension] ∧ base.AppliesOnce l.directives
            ∧ extension.AppliesOnce l.directives
            ∧ type.directives.map Annotation.name = ["key", "tag", "tag", "other", "other"]) := by
    decide +kernel
  obtain ⟨l, loaded, run⟩ := Except.exists_ok_of_any run
  obtain ⟨base, there, run⟩ := (Option.any_eq_true _ _).mp run
  obtain ⟨extension, -, run⟩ := (Option.any_eq_true _ _).mp run
  obtain ⟨type, merged, run⟩ := Except.exists_ok_of_any run
  obtain ⟨held, once, extension_once, names⟩ := of_decide_eq_true run
  exact ⟨l, base, extension, type, loaded, there, held, merged, names,
    (appliesOnce_merge_iff merged).mpr ⟨once, extension_once⟩⟩

/-- A text with an extension that repeats a directive that may not be. -/
def textWithRepetition : String :=
  "directive @key on OBJECT\ntype T { a: Int }\nextend type T @key @key"

/-- The type of that text and its extension can be merged, though the merged type repeats what the
type did not. -/
theorem merge_repeats_within_extension :
  ∃ l base extension type, (Loader.start {}).load none textWithRepetition = .ok l
    ∧ l.types.get? "T" = some base ∧ l.extensions = [extension]
    ∧ base.AppliesOnce l.directives ∧ base.merge l.directives extension = .ok type
    ∧ ¬ type.AppliesOnce l.directives
  := by
  have run : ((Loader.start {}).load none textWithRepetition).toOption.any fun l =>
      (l.types.get? "T").any fun base => l.extensions[0]?.any fun extension =>
        (base.merge l.directives extension).toOption.any fun type =>
          decide (l.extensions = [extension] ∧ base.AppliesOnce l.directives
            ∧ ¬ type.AppliesOnce l.directives) := by
    decide +kernel
  obtain ⟨l, loaded, run⟩ := Except.exists_ok_of_any run
  obtain ⟨base, there, run⟩ := (Option.any_eq_true _ _).mp run
  obtain ⟨extension, -, run⟩ := (Option.any_eq_true _ _).mp run
  obtain ⟨type, merged, run⟩ := Except.exists_ok_of_any run
  obtain ⟨held, once, repeats⟩ := of_decide_eq_true run
  exact ⟨l, base, extension, type, loaded, there, held, once, merged, repeats⟩

end TypeDefinition

end LinkedSchema
