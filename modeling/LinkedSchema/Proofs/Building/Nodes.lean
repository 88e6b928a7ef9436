import LinkedSchema.Proofs.Building.Steps

/-!
# What nodes make

A node of a document is sound if nothing in it is reported: its names are not reserved, no name
stands twice among its members, and its bindings are well formed.  A sound node makes the
definition `TypeNode.define` or `DirectiveNode.define`, in which every reference is numbered, and
declares `declarations`, one for each reference; any other node makes nothing
(`TypeNode.build_of_sound`, `TypeNode.build_isOk_iff`).
-/

namespace LinkedSchema

open Document (AppliedDirective InputNode FieldNode EnumValueNode TypeNode DirectiveNode)

/-! ### Sound nodes -/

/-- Whether applied directives bind at most once, and then to exactly one text. -/
def WellBound (directives : List AppliedDirective) : Prop :=
  (directives.filter fun d => d.name == bindName).length ≤ 1
    ∧ ∀ d ∈ directives, d.name = bindName → (bindingText? d.arguments).isSome

namespace Document

/-- Whether nothing in an argument or input field is reported. -/
def InputNode.Sound (node : InputNode) : Prop :=
  Drafting.isReserved node.name = false ∧ WellBound node.directives

/-- Whether nothing in arguments or input fields is reported. -/
def InputNode.AllSound (nodes : List InputNode) : Prop :=
  (∀ node ∈ nodes, node.Sound) ∧ (nodes.map InputNode.name).Nodup

/-- Whether nothing in a field is reported. -/
def FieldNode.Sound (node : FieldNode) : Prop :=
  Drafting.isReserved node.name = false ∧ InputNode.AllSound node.arguments
    ∧ WellBound node.directives

/-- Whether nothing in a value of an enum type is reported. -/
def EnumValueNode.Sound (node : EnumValueNode) : Prop :=
  Drafting.isReserved node.name = false

/-- Whether nothing in a type or an extension is reported. -/
structure TypeNode.Sound (node : TypeNode) : Prop where
  name : Drafting.isReserved node.name = false
  binding : WellBound node.directives
  interfaces : node.body.interfaces.Nodup
  members : node.body.members.Nodup
  fields : (∀ field ∈ node.body.fields, field.Sound) ∧ (node.body.fields.map FieldNode.name).Nodup
  inputFields : InputNode.AllSound node.body.inputFields
  values : (∀ value ∈ node.body.values, value.Sound)
    ∧ (node.body.values.map EnumValueNode.name).Nodup

/-- Whether nothing in a directive is reported. -/
def DirectiveNode.Sound (node : DirectiveNode) : Prop :=
  Drafting.isReserved node.name = false ∧ InputNode.AllSound node.arguments

/-! ### Definitions and declarations -/

/-- The declarations of an argument or input field. -/
def InputNode.declarations (location : Location) (node : InputNode) : List Declaration :=
  [⟨node.type.innermost, location⟩]

/-- The definition of an argument or input field whose reference has the symbol `n`. -/
def InputNode.define (site : Site) (ancestry : Path) (location : Location) (n : Nat)
    (node : InputNode) : InputDefinition where
  name := node.name
  description := node.description
  type := node.type.map fun name => ⟨name, location, n⟩
  defaultValue := node.defaultValue
  deprecation := deprecationOf node.directives
  bindTo := (bindingOf location node.directives).1
  directives := Annotation.ofDirectives location site ancestry node.directives
  location := location

/-- The declarations of arguments or input fields. -/
def InputNode.allDeclarations (parent : Location) (nodes : List InputNode) : List Declaration :=
  nodes.flatMap fun node => node.declarations (parent.moveTo node.position)

/-- The table of arguments or input fields whose references have symbols from `n` on. -/
def InputNode.defineAll (site : Site) (ancestry : Path) (parent : Location) (n : Nat)
    (nodes : List InputNode) : OrderedMap String InputDefinition :=
  ⟨numbered (fun node => (node.declarations (parent.moveTo node.position)).length)
    (fun n node => (node.name, node.define site ancestry (parent.moveTo node.position) n)) n nodes⟩

/-- The declarations of a field: those of its arguments, then that of its type. -/
def FieldNode.declarations (location : Location) (node : FieldNode) : List Declaration :=
  InputNode.allDeclarations location node.arguments ++ [⟨node.type.innermost, location⟩]

/-- The definition of a field of the type at `owner` whose references have symbols from `n`
on. -/
def FieldNode.define (owner : Path) (location : Location) (n : Nat) (node : FieldNode) :
    FieldDefinition where
  name := node.name
  description := node.description
  arguments := InputNode.defineAll .argumentDefinition (owner ++ [.field node.name]) location n
    node.arguments
  type := node.type.map fun name =>
    ⟨name, location, n + (InputNode.allDeclarations location node.arguments).length⟩
  deprecation := deprecationOf node.directives
  bindTo := (bindingOf location node.directives).1
  directives := Annotation.ofDirectives location .fieldDefinition owner node.directives
  location := location

/-- The declarations of fields. -/
def FieldNode.allDeclarations (parent : Location) (nodes : List FieldNode) : List Declaration :=
  nodes.flatMap fun node => node.declarations (parent.moveTo node.position)

/-- The table of fields whose references have symbols from `n` on. -/
def FieldNode.defineAll (owner : Path) (parent : Location) (n : Nat) (nodes : List FieldNode) :
    OrderedMap String FieldDefinition :=
  ⟨numbered (fun node => (node.declarations (parent.moveTo node.position)).length)
    (fun n node => (node.name, node.define owner (parent.moveTo node.position) n)) n nodes⟩

/-- The definition of a value of the enum type at `owner`. -/
def EnumValueNode.define (owner : Path) (location : Location) (node : EnumValueNode) :
    EnumValueDefinition where
  name := node.name
  description := node.description
  deprecation := deprecationOf node.directives
  directives := Annotation.ofDirectives location .enumValue owner node.directives
  location := location

/-- The table of values of the enum type at `owner`. -/
def EnumValueNode.defineAll (owner : Path) (parent : Location) (nodes : List EnumValueNode) :
    OrderedMap String EnumValueDefinition :=
  ⟨nodes.map fun node => (node.name, node.define owner (parent.moveTo node.position))⟩

namespace TypeNode

/-- The location of a node of a file. -/
def location (file : Option String) (node : TypeNode) : Location := .source file node.position

/-- The path of the type that a node defines or extends. -/
def path (node : TypeNode) : Path := [.type node.kind node.name]

/-- The declarations of names, all at the location of a node. -/
def declarationsOf (file : Option String) (node : TypeNode) (names : List String) :
    List Declaration :=
  names.map fun name => ⟨name, node.location file⟩

/-- The declarations of a type or an extension: those of its interfaces, its members, its fields
and its input fields. -/
def declarations (file : Option String) (node : TypeNode) : List Declaration :=
  node.declarationsOf file node.body.interfaces
    ++ (node.declarationsOf file node.body.members
      ++ (FieldNode.allDeclarations (node.location file) node.body.fields
        ++ InputNode.allDeclarations (node.location file) node.body.inputFields))

/-- The definition of a type or an extension whose references have symbols from `n` on. -/
def define (file : Option String) (node : TypeNode) (n : Nat) : TypeDefinition :=
  let members := n + (node.declarationsOf file node.body.interfaces).length
  let fields := members + (node.declarationsOf file node.body.members).length
  let inputFields :=
    fields + (FieldNode.allDeclarations (node.location file) node.body.fields).length
  { kind := node.kind
    name := node.name
    description := node.description
    bindTo := (bindingOf (node.location file) node.directives).1
    directives := Annotation.ofDirectives (node.location file) node.kind.site [] node.directives
    interfaces := Declaration.references n (node.declarationsOf file node.body.interfaces)
    members := Declaration.references members (node.declarationsOf file node.body.members)
    fields := FieldNode.defineAll node.path (node.location file) fields node.body.fields
    inputFields := InputNode.defineAll .inputFieldDefinition node.path (node.location file)
      inputFields node.body.inputFields
    enumValues := EnumValueNode.defineAll node.path (node.location file) node.body.values
    location := node.location file }

end TypeNode

namespace DirectiveNode

/-- The declarations of a directive. -/
def declarations (file : Option String) (node : DirectiveNode) : List Declaration :=
  InputNode.allDeclarations (.source file node.position) node.arguments

/-- The definition of a directive whose references have symbols from `n` on. -/
def define (file : Option String) (node : DirectiveNode) (n : Nat) : DirectiveDefinition where
  name := node.name
  description := node.description
  arguments := InputNode.defineAll .argumentDefinition [.directive node.name]
    (.source file node.position) n node.arguments
  repeatable := node.repeatable
  sites := node.sites
  location := .source file node.position

end DirectiveNode

end Document

/-! ### What the steps make -/

namespace Drafting

theorem checkName_makes (location : Location) (name : String) :
  Makes (checkName location name) (isReserved name = false) (fun _ => ()) []
  := by
  apply (Makes.report _).of_iff
  cases isReserved name <;> simp

/-- No binding is reported if and only if there is at most one and it is well formed. -/
theorem bindingOf_faults_eq_nil_iff (location : Location) (directives : List AppliedDirective) :
  (bindingOf location directives).2 = [] ↔ WellBound directives
  := by
  have well_formed : (∀ d ∈ directives, d.name = bindName → (bindingText? d.arguments).isSome)
      ↔ ∀ d ∈ directives.filter (fun d => d.name == bindName), (bindingText? d.arguments).isSome :=
    by simp only [List.mem_filter, beq_iff_eq, and_imp]
  rw [WellBound, well_formed, bindingOf]
  cases directives.filter (fun d => d.name == bindName) with
  | nil => simp
  | cons first others =>
    cases text : bindingText? first.arguments with
    | none => simp [text]
    | some value => cases others <;> simp [text]

theorem binding_makes (location : Location) (directives : List AppliedDirective) :
  Makes (binding location directives) (WellBound directives)
    (fun _ => (bindingOf location directives).1) []
  := by
  apply ((Makes.report _).andThen fun _ => Makes.pure _).of_iff
  rw [and_true]
  apply bindingOf_faults_eq_nil_iff

theorem type_makes (location : Location) (t : TypeExpr String) :
  Makes (type location t) True (fun n => t.map fun name => ⟨name, location, n⟩)
    [⟨t.innermost, location⟩]
  := by
  induction t with
  | named name =>
    apply ((Makes.declare location name).andThen fun r => Makes.pure (TypeExpr.named r)).of_iff
    rw [and_true]
  | list inner ih =>
    apply (ih.andThen fun made => Makes.pure (TypeExpr.list made)).of_iff
    rw [and_true]
  | nonNull inner ih =>
    apply (ih.andThen fun made => Makes.pure (TypeExpr.nonNull made)).of_iff
    rw [and_true]

theorem declareOnce_grows (location : Location) (duplicate : String → Fault)
    (declared : List Reference) (names : List String) :
  Grows (declareOnce location duplicate declared names)
  := by
  induction names generalizing declared with
  | nil => apply Grows.pure
  | cons name rest ih =>
    rw [declareOnce]
    split
    · apply (Grows.report _).bind fun _ => ih _
    · apply (Grows.declare _ _).bind fun _ => ih _

/-- Names that are new and distinct are declared one after another. -/
theorem declareOnce_makes (location : Location) (duplicate : String → Fault)
    (declared : List Reference) (names : List String) :
  Makes (declareOnce location duplicate declared names)
    (names.Nodup ∧ ∀ name ∈ names, name ∉ declared.map Reference.name)
    (fun n => declared ++ Declaration.references n (names.map fun name => ⟨name, location⟩))
    (names.map fun name => ⟨name, location⟩)
  := by
  induction names generalizing declared with
  | nil =>
    rw [declareOnce]
    simp only [List.map_nil, Declaration.references, numbered, List.append_nil]
    apply (Makes.pure declared).of_iff
    simp
  | cons name rest ih =>
    have known_iff : (declared.any fun reference => reference.name == name)
        ↔ name ∈ declared.map Reference.name := by simp
    rw [declareOnce]
    split
    · next known =>
      apply ((Makes.report _).andThen fun _ => ih declared).of_unsound
      · simp
      · rintro ⟨-, new⟩
        apply new name List.mem_cons_self (known_iff.mp known)
    · next unknown =>
      have new := mt known_iff.mpr unknown
      have grows := fun reference =>
        declareOnce_grows location duplicate (declared ++ [reference]) rest
      have rest_makes := fun n => ih (declared ++ [⟨name, location, n⟩])
      simp only [List.append_assoc, List.map_append, List.map_cons, List.map_nil] at rest_makes
      apply ((Makes.declare location name).bind grows rest_makes).of_iff
      simp only [List.nodup_cons, List.mem_cons, List.mem_append]
      grind

/-- How the nodes of a collection are built: when a node is sound, what it then makes from a
number on, and what it declares. -/
structure Collecting.Plan {ν δ : Type} (c : Collecting ν δ) where
  sound : ν → Prop
  make : Location → Nat → ν → δ
  declared : Location → ν → List Declaration
  makes : ∀ location node,
    Makes (c.build location node) (sound node) (make location · node) (declared location node)

/-- Nodes with new and distinct names are added to a table one after another. -/
theorem collect_makes {ν δ : Type} {c : Collecting ν δ} (plan : c.Plan) (parent : Location)
    (table : OrderedMap String δ) (nodes : List ν) :
  Makes (collect c parent table nodes)
    ((∀ node ∈ nodes, plan.sound node) ∧ (nodes.map c.name).Nodup
      ∧ ∀ node ∈ nodes, c.name node ∉ table.keys)
    (fun n => ⟨table.entries
      ++ numbered (fun node => (plan.declared (parent.moveTo (c.position node)) node).length)
        (fun n node => (c.name node, plan.make (parent.moveTo (c.position node)) n node)) n nodes⟩)
    (nodes.flatMap fun node => plan.declared (parent.moveTo (c.position node)) node)
  := by
  induction nodes generalizing table with
  | nil =>
    rw [collect]
    simp only [numbered, List.append_nil, List.flatMap_nil]
    apply (Makes.pure table).of_iff
    simp
  | cons node rest ih =>
    rw [collect]
    split
    · next existing found =>
      apply ((Makes.report _).andThen fun _ => ih table).of_unsound
      · simp
      · rintro ⟨-, -, new⟩
        apply new node List.mem_cons_self
        apply OrderedMap.mem_keys_of_get? found
    · next missing =>
      have new := (OrderedMap.get?_eq_none_iff table _).mp missing
      have keys : ∀ definition, (table.insert (c.name node) definition).keys
          = table.keys ++ [c.name node] := by
        intro definition
        rw [OrderedMap.keys_insert, if_neg new]
      have entries : ∀ definition, (table.insert (c.name node) definition).entries
          = table.entries ++ [(c.name node, definition)] := by
        intro definition
        apply OrderedMap.put_of_not_mem new
      have rest_makes := fun definition => ih (table.insert (c.name node) definition)
      simp only [keys, entries, List.append_assoc] at rest_makes
      apply ((plan.makes _ _).andThen rest_makes).of_iff
      simp only [List.map_cons, List.nodup_cons, List.mem_cons, List.mem_append]
      grind

/-! ### Members -/

theorem input_makes (site : Site) (ancestry : Path) (location : Location) (node : InputNode) :
  Makes (input site ancestry location node) node.Sound
    (fun n => node.define site ancestry location n) (node.declarations location)
  := by
  apply ((checkName_makes location node.name).andThen fun _ =>
    (binding_makes location node.directives).andThen fun _ =>
    (type_makes location node.type).andThen fun _ => Makes.pure _).of_iff
  simp only [and_true, InputNode.Sound]

/-- How arguments are collected. -/
def argumentsPlan (owner : Path) : (collectingArguments owner).Plan where
  sound := InputNode.Sound
  make location n node := node.define .argumentDefinition owner location n
  declared location node := node.declarations location
  makes := input_makes .argumentDefinition owner

theorem arguments_makes (owner : Path) (parent : Location) (nodes : List InputNode) :
  Makes (collect (collectingArguments owner) parent .empty nodes) (InputNode.AllSound nodes)
    (fun n => InputNode.defineAll .argumentDefinition owner parent n nodes)
    (InputNode.allDeclarations parent nodes)
  := by
  apply (collect_makes (argumentsPlan owner) parent .empty nodes).of_iff
  simp [OrderedMap.empty, OrderedMap.keys, InputNode.AllSound, argumentsPlan, collectingArguments]

theorem field_makes (owner : Path) (location : Location) (node : FieldNode) :
  Makes (field owner location node) node.Sound (fun n => node.define owner location n)
    (node.declarations location)
  := by
  apply ((checkName_makes location node.name).andThen fun _ =>
    (arguments_makes _ location node.arguments).andThen fun _ =>
    (binding_makes location node.directives).andThen fun _ =>
    (type_makes location node.type).andThen fun _ => Makes.pure _).of_iff
  simp only [and_true, FieldNode.Sound]

/-- How the fields of a type are collected. -/
def fieldsPlan (kind : Kind) (type : String) : (collectingFields kind type).Plan where
  sound := FieldNode.Sound
  make location n node := node.define [.type kind type] location n
  declared location node := node.declarations location
  makes := field_makes [.type kind type]

theorem fields_makes (kind : Kind) (type : String) (parent : Location) (nodes : List FieldNode) :
  Makes (collect (collectingFields kind type) parent .empty nodes)
    ((∀ node ∈ nodes, node.Sound) ∧ (nodes.map FieldNode.name).Nodup)
    (fun n => FieldNode.defineAll [.type kind type] parent n nodes)
    (FieldNode.allDeclarations parent nodes)
  := by
  apply (collect_makes (fieldsPlan kind type) parent .empty nodes).of_iff
  simp [OrderedMap.empty, OrderedMap.keys, fieldsPlan, collectingFields]

/-- How the fields of an input object type are collected. -/
def inputFieldsPlan (kind : Kind) (type : String) : (collectingInputFields kind type).Plan where
  sound := InputNode.Sound
  make location n node := node.define .inputFieldDefinition [.type kind type] location n
  declared location node := node.declarations location
  makes := input_makes .inputFieldDefinition [.type kind type]

theorem inputFields_makes (kind : Kind) (type : String) (parent : Location)
    (nodes : List InputNode) :
  Makes (collect (collectingInputFields kind type) parent .empty nodes)
    (InputNode.AllSound nodes)
    (fun n => InputNode.defineAll .inputFieldDefinition [.type kind type] parent n nodes)
    (InputNode.allDeclarations parent nodes)
  := by
  apply (collect_makes (inputFieldsPlan kind type) parent .empty nodes).of_iff
  simp [OrderedMap.empty, OrderedMap.keys, InputNode.AllSound, inputFieldsPlan,
    collectingInputFields]

theorem enumValue_makes (owner : Path) (location : Location) (node : EnumValueNode) :
  Makes (enumValue owner location node) node.Sound (fun _ => node.define owner location) []
  := by
  apply ((checkName_makes location node.name).andThen fun _ => Makes.pure _).of_iff
  rw [and_true, EnumValueNode.Sound]

/-- How the values of an enum type are collected. -/
def enumValuesPlan (kind : Kind) (type : String) : (collectingEnumValues kind type).Plan where
  sound := EnumValueNode.Sound
  make location _ node := node.define [.type kind type] location
  declared _ _ := []
  makes := enumValue_makes [.type kind type]

/-- Values of an enum type declare nothing, so that their numbers do not matter. -/
theorem numbered_eq_map {ν δ : Type} (width : ν → Nat) (make : ν → δ) (n : Nat) (nodes : List ν) :
  numbered width (fun _ node => make node) n nodes = nodes.map make
  := by
  induction nodes generalizing n with
  | nil => rfl
  | cons node rest ih => rw [numbered, ih, List.map_cons]

theorem enumValues_makes (kind : Kind) (type : String) (parent : Location)
    (nodes : List EnumValueNode) :
  Makes (collect (collectingEnumValues kind type) parent .empty nodes)
    ((∀ node ∈ nodes, node.Sound) ∧ (nodes.map EnumValueNode.name).Nodup)
    (fun _ => EnumValueNode.defineAll [.type kind type] parent nodes) []
  := by
  have h := collect_makes (enumValuesPlan kind type) parent .empty nodes
  have declared : nodes.flatMap (fun _ => ([] : List Declaration)) = [] := by simp
  simp only [enumValuesPlan, numbered_eq_map, declared] at h
  apply h.of_iff
  simp [OrderedMap.empty, OrderedMap.keys, collectingEnumValues]

/-! ### Types and directives -/

theorem typeDefinition_makes (file : Option String) (node : TypeNode) :
  Makes (typeDefinition file node) node.Sound (fun n => node.define file n)
    (node.declarations file)
  := by
  have h := ((checkName_makes (node.location file) node.name).andThen fun _ =>
    (binding_makes (node.location file) node.directives).andThen fun bindTo =>
    (declareOnce_makes (node.location file)
      (fun name => .duplicateInterface node.name name (node.location file)) []
      node.body.interfaces).andThen fun interfaces =>
    (declareOnce_makes (node.location file)
      (fun name => .duplicateMember node.name name (node.location file)) []
      node.body.members).andThen fun members =>
    (fields_makes node.kind node.name (node.location file) node.body.fields).andThen fun fields =>
    (inputFields_makes node.kind node.name (node.location file)
      node.body.inputFields).andThen fun inputFields =>
    (enumValues_makes node.kind node.name (node.location file)
      node.body.values).andThen fun enumValues => Makes.pure ({
        kind := node.kind
        name := node.name
        description := node.description
        bindTo := bindTo
        directives := Annotation.ofDirectives (node.location file) node.kind.site []
          node.directives
        interfaces := interfaces
        members := members
        fields := fields
        inputFields := inputFields
        enumValues := enumValues
        location := node.location file } : TypeDefinition))
  rw [List.append_nil, List.append_nil] at h
  apply h.of_iff
  constructor
  · rintro ⟨name, binding, interfaces, members, fields, inputFields, values, -⟩
    exact ⟨name, binding, interfaces.1, members.1, fields, inputFields, values⟩
  · rintro ⟨name, binding, interfaces, members, fields, inputFields, values⟩
    exact ⟨name, binding, ⟨interfaces, by simp⟩, ⟨members, by simp⟩, fields, inputFields, values,
      trivial⟩

theorem directiveDefinition_makes (file : Option String) (node : DirectiveNode) :
  Makes (directiveDefinition file node) node.Sound (fun n => node.define file n)
    (node.declarations file)
  := by
  have h := (checkName_makes (.source file node.position) node.name).andThen fun _ =>
    (arguments_makes [.directive node.name] (.source file node.position)
      node.arguments).andThen fun arguments => Makes.pure ({
        name := node.name
        description := node.description
        arguments := arguments
        repeatable := node.repeatable
        sites := node.sites
        location := .source file node.position } : DirectiveDefinition)
  rw [List.append_nil] at h
  apply h.of_iff
  rw [and_true, DirectiveNode.Sound]

/-- A step that is run to completion gives its value if it reports nothing. -/
theorem complete_eq {α : Type} (step : Drafting α) (registry : Registry) :
  step.complete registry
    = (if (step.run ⟨registry, []⟩).2.faults.isEmpty then .ok (step.run ⟨registry, []⟩).1
        else .error (step.run ⟨registry, []⟩).2.faults,
      (step.run ⟨registry, []⟩).2.registry)
  := rfl

variable {α : Type} {step : Drafting α} {sound : Prop} {value : Nat → α}
  {declared : List Declaration}

/-- A sound step that is run to completion from a registry gives what it makes. -/
theorem Makes.complete_of_sound (h : Makes step sound value declared) (holds : sound)
    (registry : Registry) :
  step.complete registry = (.ok (value registry.size), ⟨registry.declared ++ declared⟩)
  := by
  rw [complete_eq, h.run_eq holds]
  rfl

/-- A step that is not sound reports something when it is run to completion, and only adds
declarations. -/
theorem Makes.complete_of_not_sound (h : Makes step sound value declared) (fails : ¬ sound)
    (registry : Registry) :
  ∃ faults later, step.complete registry = (.error faults, later) ∧ faults ≠ []
    ∧ registry.declared <+: later.declared
  := by
  have reported : (step.run ⟨registry, []⟩).2.faults ≠ [] :=
    mt (h.sound_of_faults ⟨registry, []⟩) fails
  use (step.run ⟨registry, []⟩).2.faults, (step.run ⟨registry, []⟩).2.registry
  and_intros
  · rw [complete_eq, if_neg (mt List.isEmpty_iff.mp reported)]
  · apply reported
  · apply h.grows.declared ⟨registry, []⟩

/-- A step that is run to completion gives something if and only if it is sound. -/
theorem Makes.complete_isOk_iff (h : Makes step sound value declared) (registry : Registry) :
  (step.complete registry).1.isOk ↔ sound
  := by
  by_cases holds : sound
  · rw [h.complete_of_sound holds]
    exact ⟨fun _ => holds, fun _ => rfl⟩
  · obtain ⟨faults, later, completed, -⟩ := h.complete_of_not_sound holds registry
    rw [completed]
    exact ⟨nofun, fun sound => absurd sound holds⟩

end Drafting

/-! ### Building nodes -/

namespace Document

/-- A sound node of a type makes its definition and declares its declarations. -/
theorem TypeNode.build_of_sound {node : TypeNode} (sound : node.Sound) (file : Option String)
    (registry : Registry) :
  node.build file registry
    = (.ok (node.define file registry.size), ⟨registry.declared ++ node.declarations file⟩)
  := (Drafting.typeDefinition_makes file node).complete_of_sound sound registry

/-- A node of a type is built if and only if it is sound. -/
theorem TypeNode.build_isOk_iff (file : Option String) (node : TypeNode) (registry : Registry) :
  (node.build file registry).1.isOk ↔ node.Sound
  := (Drafting.typeDefinition_makes file node).complete_isOk_iff registry

/-- What is built is what a sound node of a type makes. -/
theorem TypeNode.eq_define_of_build {file : Option String} {node : TypeNode} {registry : Registry}
    {type : TypeDefinition} (built : (node.build file registry).1 = .ok type) :
  node.Sound ∧ type = node.define file registry.size
  := by
  have sound : node.Sound := by
    rw [← build_isOk_iff file node registry, built]
    rfl
  rw [build_of_sound sound] at built
  cases built
  exact ⟨sound, rfl⟩

/-- A node of a type that is not sound is reported, and only adds declarations. -/
theorem TypeNode.build_of_not_sound {node : TypeNode} (fails : ¬ node.Sound)
    (file : Option String) (registry : Registry) :
  ∃ faults later, node.build file registry = (.error faults, later) ∧ faults ≠ []
    ∧ registry.declared <+: later.declared
  := (Drafting.typeDefinition_makes file node).complete_of_not_sound fails registry

/-- A sound node of a directive makes its definition and declares its declarations. -/
theorem DirectiveNode.build_of_sound {node : DirectiveNode} (sound : node.Sound)
    (file : Option String) (registry : Registry) :
  node.build file registry
    = (.ok (node.define file registry.size), ⟨registry.declared ++ node.declarations file⟩)
  := (Drafting.directiveDefinition_makes file node).complete_of_sound sound registry

/-- A node of a directive is built if and only if it is sound. -/
theorem DirectiveNode.build_isOk_iff (file : Option String) (node : DirectiveNode)
    (registry : Registry) :
  (node.build file registry).1.isOk ↔ node.Sound
  := (Drafting.directiveDefinition_makes file node).complete_isOk_iff registry

/-- A node of a directive that is not sound is reported, and only adds declarations. -/
theorem DirectiveNode.build_of_not_sound {node : DirectiveNode} (fails : ¬ node.Sound)
    (file : Option String) (registry : Registry) :
  ∃ faults later, node.build file registry = (.error faults, later) ∧ faults ≠ []
    ∧ registry.declared <+: later.declared
  := (Drafting.directiveDefinition_makes file node).complete_of_not_sound fails registry

end Document

end LinkedSchema
