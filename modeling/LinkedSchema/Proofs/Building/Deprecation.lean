import LinkedSchema.Proofs.Building.Mirrors

/-!
# Reasons for deprecation

A definition has a reason for deprecation and annotations, and both are made of the directives that
are applied to it.  The reason that annotations give (`recordedDeprecation`) is that of the first
deprecation among them.  If `reason` is given there several times, the annotation keeps the last
one, and the definition has the first one for its reason (`deprecationOf`).  So the two agree if and
only if these say the same (`ReasonsAgree`), as they do if no deprecation is given several
(`TypeNode.deprecation_agrees`).
-/

namespace LinkedSchema

open Annotation (ofDirectives leave_ofDirectives)
open Document (AppliedDirective InputNode FieldNode EnumValueNode TypeNode)

/-! ### The reason that annotations give -/

/-- The reason for deprecation that one reads off annotations: that of the first deprecation among
them. -/
def recordedDeprecation (annotations : List Annotation) : Option String :=
  match annotations.find? (fun a => a.name == deprecatedName) with
  | none => none
  | some a =>
    match a.arguments.get? "reason" with
    | none | some .null => some defaultReason
    | some (.string text) => if text = "" then none else some text
    | some _ => none

/-- Whether the first and the last reason given in the first deprecation among directives say the
same. -/
def ReasonsAgree (directives : List AppliedDirective) : Prop :=
  ∀ d, directives.find? (fun d => d.name == deprecatedName) = some d →
    reasonOf (OrderedMap.lookup "reason" d.arguments)
      = reasonOf (OrderedMap.lookup "reason" d.arguments.reverse)

/-- Reasons agree if no deprecation is given several. -/
theorem reasonsAgree_of_once {directives : List AppliedDirective}
    (once : ∀ d ∈ directives, d.name = deprecatedName →
      (d.arguments.map Prod.fst).count "reason" ≤ 1) :
  ReasonsAgree directives
  := by
  intro d found
  have deprecated : d.name = deprecatedName := by simpa using List.find?_some found
  rw [OrderedMap.lookup_reverse (once d (List.mem_of_find?_eq_some found) deprecated)]

/-- Annotations give the reason of the first deprecation among them. -/
theorem recordedDeprecation_eq_bind (annotations : List Annotation) :
  recordedDeprecation annotations
    = ((annotations.find? fun a => a.name == deprecatedName).map Annotation.arguments).bind
      fun arguments => reasonOf (arguments.get? "reason")
  := by
  rw [recordedDeprecation]
  cases annotations.find? fun a => a.name == deprecatedName <;> rfl

/-- The first deprecation among annotations is that among the directives that leave them. -/
theorem Leave.map_arguments_find? {location : Location} {directives : List AppliedDirective}
    {annotations : List Annotation} (left : Leave location directives annotations) :
  (annotations.find? fun a => a.name == deprecatedName).map Annotation.arguments
    = (directives.find? fun d => d.name == deprecatedName).map fun d =>
      OrderedMap.ofList d.arguments
  := by
  rw [← find?_deprecated_filter]
  rw [Leave] at left
  -- The annotations are paired with the directives that are kept, and with no others.
  generalize directives.filter (fun d => d.name != bindName) = kept at left
  induction left with
  | nil => rfl
  | cons same _ ih =>
    obtain ⟨name, arguments, -⟩ := same
    rw [List.find?_cons, List.find?_cons, name]
    split
    · rw [Option.map_some, Option.map_some, arguments]
    · apply ih

/-- The reason for deprecation that directives say is the one that the annotations that they leave
give if and only if the reasons agree. -/
theorem Leave.deprecation_iff {location : Location} {directives : List AppliedDirective}
    {annotations : List Annotation} (left : Leave location directives annotations)
    {deprecation : Option String} (said : deprecation = deprecationOf directives) :
  deprecation = recordedDeprecation annotations ↔ ReasonsAgree directives
  := by
  rw [said, recordedDeprecation_eq_bind, left.map_arguments_find?, deprecationOf, ReasonsAgree]
  cases directives.find? fun d => d.name == deprecatedName with
  | none => simp
  | some d => simp [OrderedMap.get?_ofList]

/-! ### The reasons in a type -/

/-- Whether the reason for deprecation of everything in a type that may be deprecated is the one
that its annotations give. -/
structure TypeDefinition.DeprecationsAgree (type : TypeDefinition) : Prop where
  fields : ∀ field ∈ type.fields.values,
    field.deprecation = recordedDeprecation field.directives
  arguments : ∀ field ∈ type.fields.values, ∀ argument ∈ field.arguments.values,
    argument.deprecation = recordedDeprecation argument.directives
  inputFields : ∀ field ∈ type.inputFields.values,
    field.deprecation = recordedDeprecation field.directives
  values : ∀ value ∈ type.enumValues.values,
    value.deprecation = recordedDeprecation value.directives

namespace Document

/-- The deprecations in a type that mirrors a node agree if and only if the reasons do wherever the
node applies directives to something in it. -/
theorem TypeNode.Mirrors.deprecationsAgree_iff {file : Option String} {node : TypeNode}
    {type : TypeDefinition} (mirrors : node.Mirrors file type) :
  type.DeprecationsAgree
    ↔ ∀ site directives, node.Applies site directives → site ≠ node.kind.site →
      ReasonsAgree directives
  := by
  have input_iff (parent : Location) (node : InputNode) (input : InputDefinition)
      (same : node.Mirrors parent input) :=
    same.directives.deprecation_iff same.deprecation
  have fields := mirrors.fields.forall_values_iff fun _ _ same =>
    same.directives.deprecation_iff same.deprecation
  have arguments := mirrors.fields.forall_values_iff fun _ _ same =>
    same.arguments.forall_values_iff (input_iff _)
  have inputFields := mirrors.inputFields.forall_values_iff (input_iff _)
  have values := mirrors.values.forall_values_iff fun _ _ same =>
    same.directives.deprecation_iff same.deprecation
  constructor
  · intro agree site directives applied within
    cases applied with
    | self => contradiction
    | field member => apply fields.mp agree.fields _ member
    | argument member given => apply arguments.mp agree.arguments _ member _ given
    | inputField member => apply inputFields.mp agree.inputFields _ member
    | enumValue member => apply values.mp agree.values _ member
  · intro reasons
    constructor
    · apply fields.mpr
      intro field member
      apply reasons _ _ (.field member)
      cases node.kind <;> nofun
    · apply arguments.mpr
      intro field member argument given
      apply reasons _ _ (.argument member given)
      cases node.kind <;> nofun
    · apply inputFields.mpr
      intro field member
      apply reasons _ _ (.inputField member)
      cases node.kind <;> nofun
    · apply values.mpr
      intro value member
      apply reasons _ _ (.enumValue member)
      cases node.kind <;> nofun

/-- The reason for deprecation that directives say is the one that the annotations made of them give
if and only if the first and the last reason in the first deprecation say the same, as they do if
none is given several; and the deprecations in what is built agree if and only if they do wherever
the node applies directives to something in it. -/
theorem TypeNode.deprecation_agrees (owner : Location) (site : Site) (ancestry : Path)
    (directives : List AppliedDirective) (file : Option String) (node : TypeNode)
    (registry : Registry) :
  (deprecationOf directives = recordedDeprecation (ofDirectives owner site ancestry directives)
      ↔ ReasonsAgree directives)
    ∧ ((∀ d ∈ directives, d.name = deprecatedName →
      (d.arguments.map Prod.fst).count "reason" ≤ 1) → ReasonsAgree directives)
    ∧ ∀ type, (node.build file registry).1 = .ok type →
      (type.DeprecationsAgree ↔ ∀ site directives, node.Applies site directives →
        site ≠ node.kind.site → ReasonsAgree directives)
  := by
  and_intros
  · apply (leave_ofDirectives owner site ancestry directives).deprecation_iff rfl
  · apply reasonsAgree_of_once
  · intro type built
    obtain ⟨sound, rfl⟩ := eq_define_of_build built
    apply (sound.mirrors_define file registry.size).deprecationsAgree_iff

/-- A text with a field that is deprecated for two reasons at once. -/
def textWithTwoReasons : String :=
  "type T \x7b\n  f: Int @deprecated(reason: \"a\", reason: \"b\")\n\x7d"

/-- The directives of that field. -/
def directivesWithTwoReasons : List AppliedDirective :=
  [⟨⟨2, 10⟩, deprecatedName, [("reason", .string "a"), ("reason", .string "b")]⟩]

/-- The field in that text. -/
def fieldWithTwoReasons : FieldNode where
  position := ⟨2, 3⟩
  description := none
  name := "f"
  arguments := []
  type := .named "Int"
  directives := directivesWithTwoReasons

/-- The node of that text. -/
def nodeWithTwoReasons : TypeNode where
  position := ⟨1, 1⟩
  description := none
  name := "T"
  directives := []
  body := .object [] [fieldWithTwoReasons]

/-- That field is built with one of the reasons, and its annotation gives the other. -/
theorem deprecation_of_two_reasons :
  parseSchema textWithTwoReasons = .ok [.type nodeWithTwoReasons]
    ∧ deprecationOf directivesWithTwoReasons = some "a"
    ∧ (∀ owner site ancestry, recordedDeprecation
      (ofDirectives owner site ancestry directivesWithTwoReasons) = some "b")
    ∧ ∃ type field, (nodeWithTwoReasons.build none .empty).1 = .ok type
      ∧ type.fields.get? "f" = some field ∧ field.deprecation = some "a"
      ∧ recordedDeprecation field.directives = some "b"
  := by
  and_intros
  · decide +kernel
  · rfl
  · intro owner site ancestry
    rfl
  · have run : (nodeWithTwoReasons.build none .empty).1.toOption.any fun type =>
        (type.fields.get? "f").any fun field => decide (field.deprecation = some "a"
          ∧ recordedDeprecation field.directives = some "b") := by decide +kernel
    obtain ⟨type, built, run⟩ := Except.exists_ok_of_any run
    obtain ⟨field, found, run⟩ := (Option.any_eq_true _ _).mp run
    exact ⟨type, field, built, found, of_decide_eq_true run⟩

end Document

end LinkedSchema
