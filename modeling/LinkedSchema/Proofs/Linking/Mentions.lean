import LinkedSchema.Schema.KindCheck
import LinkedSchema.Proofs.OrderedMap

/-!
# Mentions

A reference stands in one of four roles, each of which allows some kinds of types
(`Role.legal`).  `Mentioned types directives role r` lists all the sites in a table of types and a
table of directives at which a reference `r` can stand.  The check of kinds finds nothing if and
only if every reference, at whatever site, is bound to a type of a kind that its role allows
(`KindCheck.faults_eq_nil_iff`).
-/

namespace LinkedSchema

/-- What a reference is there for. -/
inductive Role where
  /-- An interface that a type implements. -/
  | interface
  /-- A member of a union. -/
  | member
  /-- The type of a field. -/
  | output
  /-- The type of an argument or of an input field. -/
  | input
deriving DecidableEq

/-- Whether a reference in a role may be bound to a type of a kind. -/
def Role.legal : Role → Kind → Bool
  | interface, kind => kind == .interface
  | member, kind => kind == .object
  | output, kind => kind.isOutput
  | input, kind => kind.isInput

/-- Whether a reference stands in a role somewhere in a table of types or of directives. -/
inductive Mentioned (types : TypeTable) (directives : DirectiveTable) :
    Role → Reference → Prop where
  | interface {type : TypeDefinition} {r : Reference} :
      type ∈ types.values → r ∈ type.interfaces → Mentioned types directives .interface r
  | member {type : TypeDefinition} {r : Reference} :
      type ∈ types.values → r ∈ type.members → Mentioned types directives .member r
  | field {type : TypeDefinition} {field : FieldDefinition} :
      type ∈ types.values → field ∈ type.fields.values →
      Mentioned types directives .output field.type.innermost
  | argument {type : TypeDefinition} {field : FieldDefinition} {argument : InputDefinition} :
      type ∈ types.values → field ∈ type.fields.values → argument ∈ field.arguments.values →
      Mentioned types directives .input argument.type.innermost
  | inputField {type : TypeDefinition} {field : InputDefinition} :
      type ∈ types.values → field ∈ type.inputFields.values →
      Mentioned types directives .input field.type.innermost
  | directiveArgument {directive : DirectiveDefinition} {argument : InputDefinition} :
      directive ∈ directives.values → argument ∈ directive.arguments.values →
      Mentioned types directives .input argument.type.innermost

/-- A reference that is mentioned is one of the references of a type or of a directive. -/
theorem Mentioned.mem_references {types : TypeTable} {directives : DirectiveTable} {role : Role}
    {r : Reference} (h : Mentioned types directives role r) :
  (∃ type ∈ types.values, r ∈ type.references)
    ∨ ∃ directive ∈ directives.values, r ∈ directive.references
  := by
  simp only [TypeDefinition.references, FieldDefinition.references,
    DirectiveDefinition.references, List.mem_append, List.mem_flatMap, List.mem_map,
    List.mem_cons]
  cases h with
  | interface type r => left; exact ⟨_, type, by simp [r]⟩
  | member type r => left; exact ⟨_, type, by simp [r]⟩
  | field type field => left; exact ⟨_, type, .inl (.inr ⟨_, field, .inl rfl⟩)⟩
  | argument type field argument =>
    left; exact ⟨_, type, .inl (.inr ⟨_, field, .inr ⟨_, argument, rfl⟩⟩)⟩
  | inputField type field => left; exact ⟨_, type, .inr ⟨_, field, rfl⟩⟩
  | directiveArgument directive argument => right; exact ⟨_, directive, _, argument, rfl⟩

namespace KindCheck

variable (types : TypeTable) (bindings : Bindings)

/-- Whether a reference is bound to a type of a kind that its role allows. -/
def Legal (role : Role) (r : Reference) : Prop :=
  ∃ kind, kindOf? types bindings r = some kind ∧ role.legal kind

/-- A reference is found right if and only if it is bound to a type of a legal kind. -/
theorem check_eq_nil_iff (legal : Kind → Bool) (fault : Reference → Fault) (r : Reference) :
  check types bindings legal fault r = []
    ↔ ∃ kind, kindOf? types bindings r = some kind ∧ legal kind
  := by
  rw [check]
  cases kindOf? types bindings r with
  | none => simp
  | some kind => cases legal kind <;> simp

theorem inputFaults_eq_nil_iff (owner : Path) (segment : String → Segment)
    (table : OrderedMap String InputDefinition) :
  inputFaults types bindings owner segment table = []
    ↔ ∀ input ∈ table.values, Legal types bindings .input input.type.innermost
  := by
  simp only [inputFaults, List.flatMap_eq_nil_iff, check_eq_nil_iff, OrderedMap.values,
    List.forall_mem_map, Legal, Role.legal]

theorem typeFaults_eq_nil_iff (type : TypeDefinition) :
  typeFaults types bindings type = []
    ↔ (∀ r ∈ type.interfaces, Legal types bindings .interface r)
      ∧ (∀ r ∈ type.members, Legal types bindings .member r)
      ∧ (∀ field ∈ type.fields.values, Legal types bindings .output field.type.innermost
        ∧ ∀ argument ∈ field.arguments.values,
          Legal types bindings .input argument.type.innermost)
      ∧ ∀ field ∈ type.inputFields.values, Legal types bindings .input field.type.innermost
  := by
  simp only [typeFaults, fieldFaults, List.append_eq_nil_iff, List.flatMap_eq_nil_iff,
    check_eq_nil_iff, inputFaults_eq_nil_iff, Legal, Role.legal, and_assoc]
  simp only [OrderedMap.values, List.forall_mem_map]

/-- The check of kinds finds nothing if and only if every reference that is mentioned is bound to
a type of a kind that its role allows. -/
theorem faults_eq_nil_iff (directives : DirectiveTable) :
  faults types bindings directives = []
    ↔ ∀ role r, Mentioned types directives role r → Legal types bindings role r
  := by
  simp only [faults, List.append_eq_nil_iff, List.flatMap_eq_nil_iff, typeFaults_eq_nil_iff,
    inputFaults_eq_nil_iff]
  constructor
  · rintro ⟨of_types, of_directives⟩ role r mentioned
    cases mentioned with
    | interface type r => apply (of_types _ type).1 _ r
    | member type r => apply (of_types _ type).2.1 _ r
    | field type field => apply ((of_types _ type).2.2.1 _ field).1
    | argument type field argument => apply ((of_types _ type).2.2.1 _ field).2 _ argument
    | inputField type field => apply (of_types _ type).2.2.2 _ field
    | directiveArgument directive argument => apply of_directives _ directive _ argument
  · intro all
    constructor
    · intro type member
      and_intros
      · intro r interface
        apply all _ _ (.interface member interface)
      · intro r union
        apply all _ _ (.member member union)
      · intro field field_member
        constructor
        · apply all _ _ (.field member field_member)
        · intro argument argument_member
          apply all _ _ (.argument member field_member argument_member)
      · intro field field_member
        apply all _ _ (.inputField member field_member)
    · intro directive member argument argument_member
      apply all _ _ (.directiveArgument member argument_member)

end KindCheck

end LinkedSchema
