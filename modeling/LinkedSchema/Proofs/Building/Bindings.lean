import LinkedSchema.Definition.BuiltIn
import LinkedSchema.Document.SchemaDocument
import LinkedSchema.Proofs.Building.Nodes

/-!
# Bindings of a node

Applied directives bind a definition to nothing if there is no `@bind` among them, and to a text if
there is a single one that is given this text as `to` and nothing else (`Binds`).  A node of a type
applies directives at many sites (`TypeNode.Applies`), at all of which `@bind` may stand.  A build
that succeeds has found them to bind at every site but those of enum values; one that fails reports
a binding if and only if it has looked at directives that do not bind (`TypeNode.LooksAt`); and the
bindings of enum values make no difference to it (`TypeNode.bindings_of_build`).
-/

namespace LinkedSchema

open Document (AppliedDirective InputNode FieldNode EnumValueNode TypeBody TypeNode)

/-! ### What directives bind -/

/-- What applied directives bind a definition to: nothing without a binding, and a text with a
single one that is given this text as `to` and nothing else. -/
inductive Binds (directives : List AppliedDirective) : Option String → Prop where
  | nothing (unbound : ∀ d ∈ directives, d.name ≠ bindName) : Binds directives none
  | once {before after : List AppliedDirective} {d : AppliedDirective} {text : String}
      (parts : directives = before ++ d :: after) (bound : d.name = bindName)
      (others : ∀ e ∈ before ++ after, e.name ≠ bindName)
      (given : d.arguments = [("to", .string text)]) : Binds directives (some text)

theorem bindingText?_eq_some_iff (given : List (String × Value)) (text : String) :
  bindingText? given = some text ↔ given = [("to", .string text)]
  := by
  constructor
  · intro found
    unfold bindingText? at found
    split at found
    · next name value =>
      split at found
      · next same =>
        cases found
        rw [same]
      · cases found
    · cases found
  · rintro rfl
    rfl

theorem filter_bindings_eq_nil_iff (directives : List AppliedDirective) :
  directives.filter (fun d => d.name == bindName) = [] ↔ ∀ d ∈ directives, d.name ≠ bindName
  := by simp [List.filter_eq_nil_iff]

/-- There is a single binding if and only if the directives around it are none. -/
theorem filter_bindings_eq_singleton_iff (directives : List AppliedDirective)
    (d : AppliedDirective) :
  directives.filter (fun d => d.name == bindName) = [d]
    ↔ ∃ before after, directives = before ++ d :: after ∧ d.name = bindName
      ∧ ∀ e ∈ before ++ after, e.name ≠ bindName
  := by
  simp only [List.filter_eq_cons_iff, filter_bindings_eq_nil_iff, beq_iff_eq,
    List.forall_mem_append]
  grind

/-- Directives bind a definition to what is found for it without a fault. -/
theorem binds_iff (owner : Location) (directives : List AppliedDirective) (name? : Option String) :
  Binds directives name? ↔ bindingOf owner directives = (name?, [])
  := by
  constructor
  · intro binds
    cases binds with
    | nothing unbound => rw [bindingOf, (filter_bindings_eq_nil_iff _).mpr unbound]
    | @once before after d text parts bound others given =>
      have single := (filter_bindings_eq_singleton_iff directives d).mpr
        ⟨before, after, parts, bound, others⟩
      simp only [bindingOf, single, (bindingText?_eq_some_iff _ _).mpr given, List.map_nil]
  · intro found
    rw [bindingOf] at found
    split at found
    · next unbound =>
      cases found
      exact .nothing ((filter_bindings_eq_nil_iff _).mp unbound)
    · next d others bindings =>
      cases text : bindingText? d.arguments with
      | none => simp [text] at found
      | some external =>
        simp only [text, Prod.mk.injEq, List.map_eq_nil_iff] at found
        obtain ⟨rfl, rfl⟩ := found
        obtain ⟨before, after, parts, bound, others⟩ :=
          (filter_bindings_eq_singleton_iff directives d).mp bindings
        exact .once parts bound others ((bindingText?_eq_some_iff _ _).mp text)

/-- Directives are well bound if they bind something or nothing. -/
theorem wellBound_iff (directives : List AppliedDirective) :
  WellBound directives ↔ ∃ name?, Binds directives name?
  := by
  rw [← Drafting.bindingOf_faults_eq_nil_iff .builtIn]
  simp only [binds_iff .builtIn, Prod.ext_iff, exists_eq_left']

/-! ### Where a node applies directives -/

/-- Whether a node is the first one of its name among nodes. -/
def IsFirst {ν : Type} (name : ν → String) (nodes : List ν) (node : ν) : Prop :=
  nodes.find? (fun other => name other == name node) = some node

theorem isFirst_cons_iff {ν : Type} (name : ν → String) (node : ν) (rest : List ν) (other : ν) :
  IsFirst name (node :: rest) other
    ↔ other = node ∨ name other ≠ name node ∧ IsFirst name rest other
  := by
  rw [IsFirst, List.find?_cons, IsFirst]
  grind

namespace Document.TypeNode

/-- Whether a node applies directives at a site: to itself, or to something in it. -/
inductive Applies (node : TypeNode) : Site → List AppliedDirective → Prop where
  | self : Applies node node.kind.site node.directives
  | field {field : FieldNode} (member : field ∈ node.body.fields) :
    Applies node .fieldDefinition field.directives
  | argument {field : FieldNode} {argument : InputNode} (member : field ∈ node.body.fields)
    (given : argument ∈ field.arguments) : Applies node .argumentDefinition argument.directives
  | inputField {field : InputNode} (member : field ∈ node.body.inputFields) :
    Applies node .inputFieldDefinition field.directives
  | enumValue {value : EnumValueNode} (member : value ∈ node.body.values) :
    Applies node .enumValue value.directives

/-- Whether building a node looks for a binding among directives: those of the node itself and of
the fields and arguments in it, but for a field or an argument that repeats a name. -/
inductive LooksAt (node : TypeNode) : List AppliedDirective → Prop where
  | self : LooksAt node node.directives
  | field {field : FieldNode} (first : IsFirst FieldNode.name node.body.fields field) :
    LooksAt node field.directives
  | argument {field : FieldNode} {argument : InputNode}
    (first : IsFirst FieldNode.name node.body.fields field)
    (given : IsFirst InputNode.name field.arguments argument) : LooksAt node argument.directives
  | inputField {field : InputNode} (first : IsFirst InputNode.name node.body.inputFields field) :
    LooksAt node field.directives

/-- A binding may stand wherever a node of a type applies directives. -/
theorem Applies.allows {node : TypeNode} {site : Site} {directives : List AppliedDirective}
    (applied : node.Applies site directives) :
  ((BuiltIn.directives.1.get? bindName).any fun definition => definition.allows site) = true
  := by
  cases applied with
  | self => cases node.kind <;> decide +kernel
  | field _ | argument _ _ | inputField _ | enumValue _ => decide +kernel

/-- The directives of a sound node bind at every site but those of enum values. -/
theorem Sound.wellBound {node : TypeNode} (sound : node.Sound) {site : Site}
    {directives : List AppliedDirective} (applied : node.Applies site directives)
    (other : site ≠ .enumValue) :
  WellBound directives
  := by
  cases applied with
  | self => apply sound.binding
  | field member => apply (sound.fields.1 _ member).2.2
  | argument member given => apply ((sound.fields.1 _ member).2.1.1 _ given).2
  | inputField member => apply (sound.inputFields.1 _ member).2
  | enumValue member => contradiction

end Document.TypeNode

/-! ### Faults of bindings -/

/-- Whether a fault is that of a binding: one that repeats another or is not well formed. -/
inductive Fault.IsBinding : Fault → Prop where
  | repeated (location : Location) : IsBinding (.repeatedDirective bindName location)
  | malformed (location : Location) : IsBinding (.invalidBinding location)

namespace Drafting

variable {α β : Type}

/-- A step that reports the fault of a binding if and only if `wrong` holds. -/
def Detects (step : Drafting α) (wrong : Prop) : Prop :=
  ∀ draft, (∃ fault ∈ (step.run draft).2.faults, fault.IsBinding)
    ↔ (∃ fault ∈ draft.faults, fault.IsBinding) ∨ wrong

theorem Detects.pure (a : α) :
  Detects (pure a) False
  := fun _ => (or_false _).symm.to_iff

theorem Detects.declare (location : Location) (name : String) :
  Detects (declare location name) False
  := fun _ => (or_false _).symm.to_iff

theorem Detects.report (faults : List Fault) :
  Detects (report faults) (∃ fault ∈ faults, fault.IsBinding)
  := by
  intro draft
  change (∃ fault ∈ draft.faults ++ faults, fault.IsBinding) ↔ _
  simp only [List.mem_append, or_and_right, exists_or]

theorem Detects.bind {step : Drafting α} {next : α → Drafting β} {wrong wrong' : Prop}
    (h : Detects step wrong) (h' : ∀ a, Detects (next a) wrong') :
  Detects (step >>= next) (wrong ∨ wrong')
  := by
  intro draft
  rw [← or_assoc, ← h draft]
  apply h'

theorem Detects.of_iff {step : Drafting α} {wrong wrong' : Prop} (h : Detects step wrong)
    (iff : wrong ↔ wrong') :
  Detects step wrong'
  := propext iff ▸ h

/-- The report of a fault that is not that of a binding detects none. -/
theorem report_detects {fault : Fault} (other : ¬ fault.IsBinding) :
  Detects (report [fault]) False
  := by
  apply (Detects.report _).of_iff
  simpa using other

/-- A step that is run to completion and fails reports a binding if and only if it detects one. -/
theorem Detects.complete {step : Drafting α} {wrong : Prop} (h : Detects step wrong)
    {registry : Registry} {faults : List Fault}
    (failed : (step.complete registry).1 = .error faults) :
  (∃ fault ∈ faults, fault.IsBinding) ↔ wrong
  := by
  rw [complete_eq] at failed
  split at failed
  · cases failed
  · cases failed
    rw [h]
    simp

/-! ### Parts of a definition -/

theorem checkName_detects (location : Location) (name : String) :
  Detects (checkName location name) False
  := by
  apply (Detects.report _).of_iff
  rw [iff_false]
  rintro ⟨fault, member, bad⟩
  split at member
  · rw [List.mem_singleton.mp member] at bad
    cases bad
  · cases member

theorem isBinding_of_mem_bindingOf {location : Location} {directives : List AppliedDirective}
    {fault : Fault} (member : fault ∈ (bindingOf location directives).2) :
  fault.IsBinding
  := by
  rw [bindingOf] at member
  split at member
  · cases member
  · next first others _ =>
    have repeated : ∀ fault ∈ others.map (fun d =>
        Fault.repeatedDirective bindName (location.moveTo d.position)), fault.IsBinding := by
      rw [List.forall_mem_map]
      intro d _
      apply Fault.IsBinding.repeated
    split at member
    · apply repeated _ member
    · rcases List.mem_cons.mp member with rfl | later
      · apply Fault.IsBinding.malformed
      · apply repeated _ later

theorem binding_detects (location : Location) (directives : List AppliedDirective) :
  Detects (binding location directives) (¬ WellBound directives)
  := by
  have reported := Detects.report (bindingOf location directives).2
  apply (reported.bind fun _ => Detects.pure _).of_iff
  rw [or_false, ← bindingOf_faults_eq_nil_iff location]
  constructor
  · rintro ⟨fault, member, -⟩
    apply List.ne_nil_of_mem member
  · intro some
    obtain ⟨fault, member⟩ := List.exists_mem_of_ne_nil _ some
    exact ⟨fault, member, isBinding_of_mem_bindingOf member⟩

theorem type_detects (location : Location) (t : TypeExpr String) :
  Detects (type location t) False
  := by
  induction t with
  | named name =>
    apply ((Detects.declare location name).bind fun _ => Detects.pure _).of_iff
    rw [or_false]
  | list inner ih =>
    apply (ih.bind fun _ => Detects.pure _).of_iff
    rw [or_false]
  | nonNull inner ih =>
    apply (ih.bind fun _ => Detects.pure _).of_iff
    rw [or_false]

theorem declareOnce_detects (location : Location) (duplicate : String → Fault)
    (other : ∀ name, ¬ (duplicate name).IsBinding) (declared : List Reference)
    (names : List String) :
  Detects (declareOnce location duplicate declared names) False
  := by
  induction names generalizing declared with
  | nil => apply Detects.pure
  | cons name rest ih =>
    rw [declareOnce]
    split
    · apply ((report_detects (other name)).bind fun _ => ih _).of_iff
      rw [or_false]
    · apply ((Detects.declare _ _).bind fun _ => ih _).of_iff
      rw [or_false]

/-- Only the first node of a name is built, and only if the name is not there yet. -/
theorem collect_detects {ν δ : Type} {c : Collecting ν δ} {wrong : ν → Prop}
    (other : ∀ name first second, ¬ (c.duplicate name first second).IsBinding)
    (build : ∀ location node, Detects (c.build location node) (wrong node)) (parent : Location)
    (table : OrderedMap String δ) (nodes : List ν) :
  Detects (collect c parent table nodes)
    (∃ node, IsFirst c.name nodes node ∧ c.name node ∉ table.keys ∧ wrong node)
  := by
  induction nodes generalizing table with
  | nil =>
    apply (Detects.pure table).of_iff
    simp [IsFirst]
  | cons node rest ih =>
    rw [collect]
    split
    · next existing found =>
      have known : c.name node ∈ table.keys := by
        apply OrderedMap.mem_keys_of_get? found
      apply ((report_detects (other _ _ _)).bind fun _ => ih _).of_iff
      simp only [isFirst_cons_iff]
      grind
    · next missing =>
      have new := (OrderedMap.get?_eq_none_iff table _).mp missing
      have keys (definition : δ) : (table.insert (c.name node) definition).keys
          = table.keys ++ [c.name node] := by
        rw [OrderedMap.keys_insert, if_neg new]
      have rest_detects := fun definition => ih (table.insert (c.name node) definition)
      simp only [keys] at rest_detects
      apply ((build _ _).bind rest_detects).of_iff
      simp only [isFirst_cons_iff, List.mem_append, List.mem_singleton]
      grind

/-! ### Definitions -/

theorem input_detects (site : Site) (ancestry : Path) (location : Location) (node : InputNode) :
  Detects (input site ancestry location node) (¬ WellBound node.directives)
  := by
  apply ((checkName_detects _ _).bind fun _ => (binding_detects _ _).bind fun _ =>
    (type_detects _ _).bind fun _ => Detects.pure _).of_iff
  simp only [false_or, or_false]

theorem arguments_detects (owner : Path) (parent : Location) (nodes : List InputNode) :
  Detects (collect (collectingArguments owner) parent .empty nodes)
    (∃ node, IsFirst InputNode.name nodes node ∧ ¬ WellBound node.directives)
  := by
  apply (collect_detects (c := collectingArguments owner) _ (input_detects _ _) _ _ _).of_iff
  · simp [OrderedMap.keys, OrderedMap.empty, collectingArguments]
  · rintro name first second ⟨⟩

theorem field_detects (owner : Path) (location : Location) (node : FieldNode) :
  Detects (field owner location node)
    ((∃ argument, IsFirst InputNode.name node.arguments argument
        ∧ ¬ WellBound argument.directives)
      ∨ ¬ WellBound node.directives)
  := by
  apply ((checkName_detects _ _).bind fun _ => (arguments_detects _ _ _).bind fun _ =>
    (binding_detects _ _).bind fun _ => (type_detects _ _).bind fun _ => Detects.pure _).of_iff
  simp only [false_or, or_false]

theorem enumValue_detects (owner : Path) (location : Location) (node : EnumValueNode) :
  Detects (enumValue owner location node) False
  := by
  apply ((checkName_detects _ _).bind fun _ => Detects.pure _).of_iff
  rw [or_false]

theorem typeDefinition_detects (file : Option String) (node : TypeNode) :
  Detects (typeDefinition file node)
    (∃ directives, node.LooksAt directives ∧ ¬ WellBound directives)
  := by
  have interfaces := declareOnce_detects (node.location file)
    (fun name => .duplicateInterface node.name name (node.location file))
    (by rintro name ⟨⟩) [] node.body.interfaces
  have members := declareOnce_detects (node.location file)
    (fun name => .duplicateMember node.name name (node.location file))
    (by rintro name ⟨⟩) [] node.body.members
  have fields := collect_detects (c := collectingFields node.kind node.name)
    (by rintro name first second ⟨⟩) (field_detects _) (node.location file) .empty node.body.fields
  have inputFields := collect_detects (c := collectingInputFields node.kind node.name)
    (by rintro name first second ⟨⟩) (input_detects _ _) (node.location file) .empty
    node.body.inputFields
  have values := collect_detects (c := collectingEnumValues node.kind node.name)
    (by rintro name first second ⟨⟩) (enumValue_detects _) (node.location file) .empty
    node.body.values
  apply ((checkName_detects _ _).bind fun _ => (binding_detects _ _).bind fun _ =>
    interfaces.bind fun _ => members.bind fun _ => fields.bind fun _ => inputFields.bind fun _ =>
    values.bind fun _ => Detects.pure _).of_iff
  simp only [false_or, or_false, and_false, exists_false, OrderedMap.keys, OrderedMap.empty,
    List.map_nil, List.not_mem_nil, not_false_iff, true_and, collectingFields,
    collectingInputFields]
  constructor
  · rintro (self | ⟨field, first, ⟨argument, given, wrong⟩ | wrong⟩ | ⟨field, first, wrong⟩)
    · exact ⟨_, .self, self⟩
    · exact ⟨_, .argument first given, wrong⟩
    · exact ⟨_, .field first, wrong⟩
    · exact ⟨_, .inputField first, wrong⟩
  · rintro ⟨directives, looked, wrong⟩
    cases looked with
    | self => exact .inl wrong
    | field first => exact .inr (.inl ⟨_, first, .inr wrong⟩)
    | argument first given => exact .inr (.inl ⟨_, first, .inl ⟨_, given, wrong⟩⟩)
    | inputField first => exact .inr (.inr ⟨_, first, wrong⟩)

end Drafting

/-! ### Bindings of enum values -/

namespace Document

/-- A value of an enum type without its bindings. -/
def EnumValueNode.withoutBindings (node : EnumValueNode) : EnumValueNode :=
  { node with directives := node.directives.filter fun d => d.name != bindName }

/-- A body of which no value has a binding. -/
def TypeBody.withoutValueBindings : TypeBody → TypeBody
  | enum values => enum (values.map EnumValueNode.withoutBindings)
  | body => body

/-- A node of which no value has a binding. -/
def TypeNode.withoutValueBindings (node : TypeNode) : TypeNode :=
  { node with body := node.body.withoutValueBindings }

end Document

/-- The first deprecation among directives is there without the bindings. -/
theorem find?_deprecated_filter (directives : List AppliedDirective) :
  (directives.filter fun d => d.name != bindName).find? (fun d => d.name == deprecatedName)
    = directives.find? fun d => d.name == deprecatedName
  := by
  rw [List.find?_filter]
  congr 1
  funext d
  by_cases deprecated : d.name = deprecatedName
  · simp [deprecated, deprecatedName, bindName]
  · simp [deprecated]

namespace Drafting

/-- A value is built from the directives that are not bindings. -/
theorem enumValue_withoutBindings (owner : Path) (location : Location) (node : EnumValueNode) :
  enumValue owner location node.withoutBindings = enumValue owner location node
  := by
  simp only [enumValue, EnumValueNode.withoutBindings, deprecationOf, find?_deprecated_filter,
    Annotation.ofDirectives, List.filter_filter, Bool.and_self]

/-- Nodes that are built in the same way are collected in the same way. -/
theorem collect_map {ν δ : Type} {c : Collecting ν δ} {f : ν → ν}
    (name : ∀ n, c.name (f n) = c.name n) (position : ∀ n, c.position (f n) = c.position n)
    (build : ∀ location n, c.build location (f n) = c.build location n) (parent : Location)
    (table : OrderedMap String δ) (nodes : List ν) :
  collect c parent table (nodes.map f) = collect c parent table nodes
  := by
  induction nodes generalizing table with
  | nil => rfl
  | cons node rest ih =>
    rw [List.map_cons, collect, collect]
    simp only [name, position, build, ih]

theorem typeDefinition_withoutValueBindings (file : Option String) (node : TypeNode) :
  typeDefinition file node.withoutValueBindings = typeDefinition file node
  := by
  obtain ⟨position, description, name, directives, body⟩ := node
  cases body with
  | enum values =>
    have same := collect_map (c := collectingEnumValues .enum name)
      (f := EnumValueNode.withoutBindings) (fun _ => rfl) (fun _ => rfl)
      (enumValue_withoutBindings _) (.source file position) .empty values
    simp only [typeDefinition, TypeNode.withoutValueBindings, TypeBody.withoutValueBindings,
      TypeNode.kind, TypeBody.kind, TypeBody.values, same]
    rfl
  | inputObject _ | interface _ _ | object _ _ | scalar | union _ => rfl

end Drafting

/-! ### Bindings and the outcome -/

namespace Document.TypeNode

/-- The directives of a sound node bind at all sites if and only if those of its values do. -/
theorem Sound.binds_iff {node : TypeNode} (sound : node.Sound) :
  (∀ site directives, node.Applies site directives → ∃ name?, Binds directives name?)
    ↔ ∀ value ∈ node.body.values, ∃ name?, Binds value.directives name?
  := by
  constructor
  · intro all value member
    apply all _ _ (.enumValue member)
  · intro values site directives applied
    by_cases other : site = .enumValue
    · cases applied with
      | enumValue member => apply values _ member
      | self => cases kind : node.kind <;> simp [kind, Kind.site] at other
      | field _ | argument _ _ | inputField _ => contradiction
    · apply (wellBound_iff directives).mp (sound.wellBound applied other)

/-- If a build succeeds, the directives at every site but those of enum values bind, so that all do
if and only if those do; if it fails, it reports a binding if and only if it has looked at
directives that do not bind; and the bindings of enum values make no difference to it. -/
theorem bindings_of_build (file : Option String) (node : TypeNode) (registry : Registry) :
  (∀ type, (node.build file registry).1 = .ok type →
      (∀ site directives, node.Applies site directives → site ≠ .enumValue →
        ∃ name?, Binds directives name?)
      ∧ ((∀ site directives, node.Applies site directives → ∃ name?, Binds directives name?)
        ↔ ∀ value ∈ node.body.values, ∃ name?, Binds value.directives name?))
    ∧ (∀ faults, (node.build file registry).1 = .error faults →
      ((∃ fault ∈ faults, fault.IsBinding)
        ↔ ∃ directives, node.LooksAt directives ∧ ¬ ∃ name?, Binds directives name?))
    ∧ node.withoutValueBindings.build file registry = node.build file registry
  := by
  and_intros
  · intro type built
    obtain ⟨sound, -⟩ := eq_define_of_build built
    constructor
    · intro site directives applied other
      apply (wellBound_iff directives).mp (sound.wellBound applied other)
    · apply sound.binds_iff
  · intro faults failed
    simp only [← wellBound_iff]
    apply (Drafting.typeDefinition_detects file node).complete failed
  · rw [build, Drafting.typeDefinition_withoutValueBindings]
    rfl

/-- A text with a value of an enum type that is bound twice. -/
def textWithDiscardedBinding : String :=
  "enum E \x7b\n  A @bind(to: \"a\") @bind(to: \"b\")\n\x7d"

/-- The value in that text. -/
def valueWithDiscardedBinding : EnumValueNode where
  position := ⟨2, 3⟩
  description := none
  name := "A"
  directives := [
    ⟨⟨2, 5⟩, bindName, [("to", .string "a")]⟩,
    ⟨⟨2, 20⟩, bindName, [("to", .string "b")]⟩]

/-- The node of that text. -/
def nodeWithDiscardedBinding : TypeNode where
  position := ⟨1, 1⟩
  description := none
  name := "E"
  directives := []
  body := .enum [valueWithDiscardedBinding]

/-- That node is built, and both bindings are lost: though a binding may stand at a value, these do
not bind, and nothing is left of them. -/
theorem build_discards_bindings :
  parseSchema textWithDiscardedBinding = .ok [.type nodeWithDiscardedBinding]
    ∧ nodeWithDiscardedBinding.Applies .enumValue valueWithDiscardedBinding.directives
    ∧ ((BuiltIn.directives.1.get? bindName).any fun definition => definition.allows .enumValue)
    ∧ (¬ ∃ name?, Binds valueWithDiscardedBinding.directives name?)
    ∧ ∃ type, (nodeWithDiscardedBinding.build none .empty).1 = .ok type
      ∧ type.enumValues.values.map EnumValueDefinition.directives = [[]]
  := by
  have applied : nodeWithDiscardedBinding.Applies .enumValue valueWithDiscardedBinding.directives :=
    .enumValue List.mem_cons_self
  and_intros
  · decide +kernel
  · apply applied
  · apply applied.allows
  · rw [← wellBound_iff, ← Drafting.bindingOf_faults_eq_nil_iff .builtIn]
    decide +kernel
  · refine ⟨_, rfl, ?_⟩
    decide +kernel

end Document.TypeNode

end LinkedSchema
