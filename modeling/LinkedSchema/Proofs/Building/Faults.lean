import LinkedSchema.Proofs.Building.Nodes

/-!
# Faults of building

A fault is late if it can only be found once all types are there: a mention of something that is not
defined or of the wrong kind, a directive that is undefined or misplaced, and what is wrong with the
types of operations.  Other faults are found while definitions are taken up one after another, or
when extensions are merged.  Building a node reports nothing but faults of the first of these sorts
(`TypeNode.allOfLoading_of_build`, `DirectiveNode.allOfLoading_of_build`).
-/

namespace LinkedSchema

open Document (AppliedDirective InputNode FieldNode EnumValueNode TypeNode DirectiveNode)

/-- Whether a fault can only be found once all types are there. -/
def Fault.isLate : Fault → Bool
  | undefinedType _ _ | notInterface _ _ _ | notMember _ _ _ | notInput _ _ _ | notOutput _ _ _
  | undefinedDirective _ _ | misplacedDirective _ _ _ _ _
  | notRoot _ _ _ | sharedRoot _ _ _ | noQuery => true
  | duplicateArgument _ _ _ _ | duplicateDirective _ _ _ | duplicateEnumValue _ _ _ _
  | duplicateField _ _ _ _ | duplicateInterface _ _ _ | duplicateMember _ _ _
  | duplicateRoot _ _ _ | duplicateType _ _ _ | repeatedDirective _ _
  | directiveConflict _ _ _ _ | enumValueConflict _ _ _ _ | fieldConflict _ _ _ _
  | nameMismatch _ _ _ | kindMismatch _ _ _ _ | undefinedBase _ _ | invalidBinding _
  | reservedName _ _ | redefinedBuiltIn _ _ => false

/-- Whether a fault can be found while definitions are taken up one after another. -/
def Fault.isOfLoading : Fault → Bool
  | duplicateArgument _ _ _ _ | duplicateDirective _ _ _ | duplicateEnumValue _ _ _ _
  | duplicateField _ _ _ _ | duplicateInterface _ _ _ | duplicateMember _ _ _
  | duplicateRoot _ _ _ | duplicateType _ _ _ | repeatedDirective _ _ | invalidBinding _
  | reservedName _ _ | redefinedBuiltIn _ _ => true
  | _ => false

/-- Whether a fault can be found when an extension is merged into a type. -/
def Fault.isOfMerging : Fault → Bool
  | directiveConflict _ _ _ _ | enumValueConflict _ _ _ _ | fieldConflict _ _ _ _
  | nameMismatch _ _ _ | kindMismatch _ _ _ _ => true
  | _ => false

namespace Fault

/-- No fault of taking up definitions is late. -/
theorem isLate_of_isOfLoading {fault : Fault} (h : fault.isOfLoading) :
  fault.isLate = false
  := by
  cases fault
  all_goals first | rfl | cases h

/-- No fault of merging an extension into a type is late. -/
theorem isLate_of_isOfMerging {fault : Fault} (h : fault.isOfMerging) :
  fault.isLate = false
  := by
  cases fault
  all_goals first | rfl | cases h

/-- Whether all faults in a list can be found while definitions are taken up. -/
def AllOfLoading (faults : List Fault) : Prop := ∀ fault ∈ faults, fault.isOfLoading

/-- Whether no fault in a list is late. -/
def AllEarly (faults : List Fault) : Prop := ∀ fault ∈ faults, fault.isLate = false

namespace AllEarly

theorem nil : AllEarly [] := nofun

theorem cons {fault : Fault} {faults : List Fault} (early : fault.isLate = false)
    (h : AllEarly faults) :
  AllEarly (fault :: faults)
  := by
  intro other member
  rcases List.mem_cons.mp member with rfl | later
  · apply early
  · apply h other later

theorem singleton {fault : Fault} (early : fault.isLate = false) :
  AllEarly [fault]
  := cons early nil

theorem append {faults more : List Fault} (h : AllEarly faults) (h' : AllEarly more) :
  AllEarly (faults ++ more)
  := by
  intro fault member
  rcases List.mem_append.mp member with first | second
  · apply h fault first
  · apply h' fault second

theorem flatten {lists : List (List Fault)} (h : ∀ list ∈ lists, AllEarly list) :
  AllEarly lists.flatten
  := by
  intro fault member
  obtain ⟨list, list_member, found⟩ := List.mem_flatten.mp member
  apply h list list_member fault found

end AllEarly

end Fault

open Fault (AllOfLoading)

namespace Drafting

variable {α β : Type}

/-! ### Steps that report faults of loading -/

/-- A step that reports nothing but faults of loading. -/
def OfLoading (step : Drafting α) : Prop :=
  ∀ draft, AllOfLoading draft.faults → AllOfLoading (step.run draft).2.faults

theorem OfLoading.pure (a : α) :
  OfLoading (pure a)
  := fun _ before => before

theorem OfLoading.declare (location : Location) (name : String) :
  OfLoading (declare location name)
  := fun _ before => before

theorem OfLoading.report {faults : List Fault} (h : AllOfLoading faults) :
  OfLoading (report faults)
  := fun _ before => List.forall_mem_append.mpr ⟨before, h⟩

theorem OfLoading.bind {step : Drafting α} {next : α → Drafting β} (h : OfLoading step)
    (h' : ∀ a, OfLoading (next a)) :
  OfLoading (step >>= next)
  := fun draft before => h' _ _ (h draft before)

/-- What a step that is run to completion reports are faults of loading. -/
theorem OfLoading.complete {step : Drafting α} (h : OfLoading step) {registry : Registry}
    {faults : List Fault} (failed : (step.complete registry).1 = .error faults) :
  AllOfLoading faults
  := by
  rw [complete_eq] at failed
  split at failed
  · cases failed
  · cases failed
    have none_before : AllOfLoading [] := nofun
    apply h _ none_before

/-! ### Parts of a definition -/

theorem checkName_ofLoading (location : Location) (name : String) :
  OfLoading (checkName location name)
  := by
  apply OfLoading.report
  split
  · exact List.forall_mem_singleton.mpr rfl
  · nofun

theorem allOfLoading_bindingOf (location : Location) (directives : List AppliedDirective) :
  AllOfLoading (bindingOf location directives).2
  := by
  rw [bindingOf]
  split
  · exact List.forall_mem_nil _
  · next first others _ =>
    have repeated : AllOfLoading (others.map fun d =>
        .repeatedDirective bindName (location.moveTo d.position)) := by
      intro fault member
      obtain ⟨d, -, rfl⟩ := List.mem_map.mp member
      rfl
    split
    · apply repeated
    · exact List.forall_mem_cons.mpr ⟨rfl, repeated⟩

theorem binding_ofLoading (location : Location) (directives : List AppliedDirective) :
  OfLoading (binding location directives)
  := by
  apply (OfLoading.report (allOfLoading_bindingOf _ _)).bind fun _ => OfLoading.pure _

theorem type_ofLoading (location : Location) (t : TypeExpr String) :
  OfLoading (type location t)
  := by
  induction t with
  | named name => apply (OfLoading.declare location name).bind fun _ => OfLoading.pure _
  | list inner ih => apply ih.bind fun _ => OfLoading.pure _
  | nonNull inner ih => apply ih.bind fun _ => OfLoading.pure _

theorem declareOnce_ofLoading (location : Location) {duplicate : String → Fault}
    (ofLoading : ∀ name, (duplicate name).isOfLoading) (declared : List Reference)
    (names : List String) :
  OfLoading (declareOnce location duplicate declared names)
  := by
  induction names generalizing declared with
  | nil => apply OfLoading.pure
  | cons name rest ih =>
    rw [declareOnce]
    split
    · apply (OfLoading.report (List.forall_mem_singleton.mpr (ofLoading name))).bind fun _ => ih _
    · apply (OfLoading.declare _ _).bind fun _ => ih _

theorem collect_ofLoading {ν δ : Type} {c : Collecting ν δ}
    (ofLoading : ∀ name first second, (c.duplicate name first second).isOfLoading)
    (build : ∀ location node, OfLoading (c.build location node)) (parent : Location)
    (table : OrderedMap String δ) (nodes : List ν) :
  OfLoading (collect c parent table nodes)
  := by
  induction nodes generalizing table with
  | nil => apply OfLoading.pure
  | cons node rest ih =>
    rw [collect]
    split
    · apply (OfLoading.report (List.forall_mem_singleton.mpr (ofLoading _ _ _))).bind fun _ => ih _
    · apply (build _ _).bind fun _ => ih _

/-! ### Definitions -/

theorem input_ofLoading (site : Site) (ancestry : Path) (location : Location) (node : InputNode) :
  OfLoading (input site ancestry location node)
  := by
  apply (checkName_ofLoading _ _).bind fun _ => (binding_ofLoading _ _).bind fun _ =>
    (type_ofLoading _ _).bind fun _ => OfLoading.pure _

theorem arguments_ofLoading (owner : Path) (parent : Location) (nodes : List InputNode) :
  OfLoading (collect (collectingArguments owner) parent .empty nodes)
  := by
  apply collect_ofLoading
  · intro name first second
    rfl
  · apply input_ofLoading

theorem field_ofLoading (owner : Path) (location : Location) (node : FieldNode) :
  OfLoading (field owner location node)
  := by
  apply (checkName_ofLoading _ _).bind fun _ => (arguments_ofLoading _ _ _).bind fun _ =>
    (binding_ofLoading _ _).bind fun _ => (type_ofLoading _ _).bind fun _ => OfLoading.pure _

theorem enumValue_ofLoading (owner : Path) (location : Location) (node : EnumValueNode) :
  OfLoading (enumValue owner location node)
  := by
  apply (checkName_ofLoading _ _).bind fun _ => OfLoading.pure _

theorem typeDefinition_ofLoading (file : Option String) (node : TypeNode) :
  OfLoading (typeDefinition file node)
  := by
  have fields := collect_ofLoading (c := collectingFields node.kind node.name) (fun _ _ _ => rfl)
    (field_ofLoading _)
  have inputFields := collect_ofLoading (c := collectingInputFields node.kind node.name)
    (fun _ _ _ => rfl) (input_ofLoading _ _)
  have values := collect_ofLoading (c := collectingEnumValues node.kind node.name)
    (fun _ _ _ => rfl) (enumValue_ofLoading _)
  apply (checkName_ofLoading _ _).bind fun _ => (binding_ofLoading _ _).bind fun _ =>
    (declareOnce_ofLoading _ (fun _ => rfl) _ _).bind fun _ =>
    (declareOnce_ofLoading _ (fun _ => rfl) _ _).bind fun _ => (fields _ _ _).bind fun _ =>
    (inputFields _ _ _).bind fun _ => (values _ _ _).bind fun _ => OfLoading.pure _

theorem directiveDefinition_ofLoading (file : Option String) (node : DirectiveNode) :
  OfLoading (directiveDefinition file node)
  := by
  apply (checkName_ofLoading _ _).bind fun _ => (arguments_ofLoading _ _ _).bind fun _ =>
    OfLoading.pure _

end Drafting

namespace Document

/-- All faults of building a type or an extension are faults of loading. -/
theorem TypeNode.allOfLoading_of_build {file : Option String} {node : TypeNode}
    {registry : Registry} {faults : List Fault}
    (failed : (node.build file registry).1 = .error faults) :
  AllOfLoading faults
  := (Drafting.typeDefinition_ofLoading file node).complete failed

/-- All faults of building a directive are faults of loading. -/
theorem DirectiveNode.allOfLoading_of_build {file : Option String} {node : DirectiveNode}
    {registry : Registry} {faults : List Fault}
    (failed : (node.build file registry).1 = .error faults) :
  AllOfLoading faults
  := (Drafting.directiveDefinition_ofLoading file node).complete failed

end Document

end LinkedSchema
