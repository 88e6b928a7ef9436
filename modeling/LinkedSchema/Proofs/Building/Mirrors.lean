import LinkedSchema.Proofs.Building.Bindings
import LinkedSchema.Proofs.Loading.WellFormed

/-!
# What is built mirrors its node

A node of a type is well formed (`TypeNode.WellFormed`) if it gives no reserved name, nothing in it
stands twice under one name, and the directives that it applies bind, except perhaps those of enum
values.  A definition mirrors a node (`TypeNode.Mirrors`) if it has all that the node says: every
member in its place, with its texts, the wrappers of its types and the names in them, its default
value, its binding, and its directives.  Exactly the well-formed nodes are built, into what mirrors
them (`TypeNode.build_exact`).
-/

namespace LinkedSchema

open Document (AppliedDirective InputNode FieldNode EnumValueNode TypeNode)

/-! ### Well-formed nodes -/

namespace Document.TypeNode

/-- The names that a node gives: to its type, and to the members and arguments in it. -/
inductive Gives (node : TypeNode) : String → Prop where
  | self : Gives node node.name
  | field {field : FieldNode} (member : field ∈ node.body.fields) : Gives node field.name
  | argument {field : FieldNode} {argument : InputNode} (member : field ∈ node.body.fields)
    (given : argument ∈ field.arguments) : Gives node argument.name
  | inputField {field : InputNode} (member : field ∈ node.body.inputFields) : Gives node field.name
  | enumValue {value : EnumValueNode} (member : value ∈ node.body.values) : Gives node value.name

/-- Whether a node of a type is well formed. -/
structure WellFormed (node : TypeNode) : Prop where
  names : ∀ name, node.Gives name → Unreserved name
  fields : (node.body.fields.map FieldNode.name).Nodup
  arguments : ∀ field ∈ node.body.fields, (field.arguments.map InputNode.name).Nodup
  inputFields : (node.body.inputFields.map InputNode.name).Nodup
  values : (node.body.values.map EnumValueNode.name).Nodup
  interfaces : node.body.interfaces.Nodup
  members : node.body.members.Nodup
  bindings : ∀ site directives, node.Applies site directives → site ≠ .enumValue →
    ∃ name?, Binds directives name?

/-- A sound node gives no reserved name. -/
theorem Sound.unreserved {node : TypeNode} (sound : node.Sound) {name : String}
    (given : node.Gives name) :
  Unreserved name
  := by
  rw [← isReserved_eq_false_iff]
  cases given with
  | self => apply sound.name
  | field member => apply (sound.fields.1 _ member).1
  | argument member given => apply ((sound.fields.1 _ member).2.1.1 _ given).1
  | inputField member => apply (sound.inputFields.1 _ member).1
  | enumValue member => apply sound.values.1 _ member

/-- Nothing in a well-formed node is reported. -/
theorem WellFormed.sound {node : TypeNode} (h : node.WellFormed) :
  node.Sound
  := by
  have unreserved {name : String} (given : node.Gives name) : Drafting.isReserved name = false :=
    (isReserved_eq_false_iff name).mpr (h.names name given)
  have bound {site : Site} {directives : List AppliedDirective}
      (applied : node.Applies site directives) (other : site ≠ .enumValue) :
      WellBound directives :=
    (wellBound_iff directives).mpr (h.bindings site directives applied other)
  have arguments {field : FieldNode} (member : field ∈ node.body.fields) :
      InputNode.AllSound field.arguments := by
    constructor
    · intro argument given
      exact ⟨unreserved (.argument member given), bound (.argument member given) nofun⟩
    · apply h.arguments field member
  constructor
  · apply unreserved .self
  · apply bound .self
    cases node.kind <;> nofun
  · apply h.interfaces
  · apply h.members
  · constructor
    · intro field member
      exact ⟨unreserved (.field member), arguments member, bound (.field member) nofun⟩
    · apply h.fields
  · constructor
    · intro field member
      exact ⟨unreserved (.inputField member), bound (.inputField member) nofun⟩
    · apply h.inputFields
  · constructor
    · intro value member
      apply unreserved (.enumValue member)
    · apply h.values

/-- Nothing in a node is reported if and only if it is well formed. -/
theorem sound_iff_wellFormed (node : TypeNode) :
  node.Sound ↔ node.WellFormed
  := by
  constructor
  · intro sound
    constructor
    · intro name given
      apply sound.unreserved given
    · apply sound.fields.2
    · intro field member
      apply (sound.fields.1 field member).2.1.2
    · apply sound.inputFields.2
    · apply sound.values.2
    · apply sound.interfaces
    · apply sound.members
    · intro site directives applied other
      apply (wellBound_iff directives).mp (sound.wellBound applied other)
  · apply WellFormed.sound

end Document.TypeNode

/-! ### Definitions that mirror nodes -/

/-- Whether annotations of a definition at a location are what directives applied to it leave: all
of them but bindings, in order, each under its name, with its arguments and its position. -/
def Leave (location : Location) (directives : List AppliedDirective)
    (annotations : List Annotation) : Prop :=
  List.Forall₂ (fun annotation d => annotation.name = d.name
      ∧ annotation.arguments = OrderedMap.ofList d.arguments
      ∧ annotation.location = location.moveTo d.position)
    annotations (directives.filter fun d => d.name != bindName)

namespace Document

/-- Whether an argument or an input field mirrors a node in the same file as `parent`. -/
structure InputNode.Mirrors (parent : Location) (node : InputNode) (input : InputDefinition) :
    Prop where
  name : input.name = node.name
  description : input.description = node.description
  type : input.type.map Reference.name = node.type
  defaultValue : input.defaultValue = node.defaultValue
  deprecation : input.deprecation = deprecationOf node.directives
  binding : Binds node.directives input.bindTo
  directives : Leave input.location node.directives input.directives
  location : input.location = parent.moveTo node.position

/-- Whether a field mirrors a node in the same file as `parent`. -/
structure FieldNode.Mirrors (parent : Location) (node : FieldNode) (field : FieldDefinition) :
    Prop where
  name : field.name = node.name
  description : field.description = node.description
  arguments : field.arguments.Tabulates InputNode.name (InputNode.Mirrors field.location)
    node.arguments
  type : field.type.map Reference.name = node.type
  deprecation : field.deprecation = deprecationOf node.directives
  binding : Binds node.directives field.bindTo
  directives : Leave field.location node.directives field.directives
  location : field.location = parent.moveTo node.position

/-- Whether a value of an enum type mirrors a node in the same file as `parent`. -/
structure EnumValueNode.Mirrors (parent : Location) (node : EnumValueNode)
    (value : EnumValueDefinition) : Prop where
  name : value.name = node.name
  description : value.description = node.description
  deprecation : value.deprecation = deprecationOf node.directives
  directives : Leave value.location node.directives value.directives
  location : value.location = parent.moveTo node.position

/-- Whether a type or an extension mirrors a node of a file. -/
structure TypeNode.Mirrors (file : Option String) (node : TypeNode) (type : TypeDefinition) :
    Prop where
  kind : type.kind = node.kind
  name : type.name = node.name
  description : type.description = node.description
  binding : Binds node.directives type.bindTo
  directives : Leave type.location node.directives type.directives
  interfaces : type.interfaces.map Reference.name = node.body.interfaces
  members : type.members.map Reference.name = node.body.members
  fields : type.fields.Tabulates FieldNode.name (FieldNode.Mirrors type.location) node.body.fields
  inputFields : type.inputFields.Tabulates InputNode.name (InputNode.Mirrors type.location)
    node.body.inputFields
  values : type.enumValues.Tabulates EnumValueNode.name (EnumValueNode.Mirrors type.location)
    node.body.values
  location : type.location = .source file node.position

end Document

/-! ### What sound nodes make -/

/-- What is made for nodes is tabulated by them. -/
theorem tabulates_numbered {ν δ : Type} {width : ν → Nat} {name : ν → String}
    {make : Nat → ν → δ} {describes : ν → δ → Prop} {nodes : List ν}
    (all : ∀ n, ∀ node ∈ nodes, describes node (make n node)) (start : Nat) :
  (OrderedMap.mk (numbered width (fun n node => (name node, make n node)) start nodes)).Tabulates
    name describes nodes
  := by
  induction nodes generalizing start with
  | nil => apply List.Forall₂.nil
  | cons node rest ih =>
    apply List.Forall₂.cons
    · exact ⟨rfl, all _ _ List.mem_cons_self⟩
    · apply ih
      intro n node member
      apply all n node (List.mem_cons_of_mem _ member)

/-- The annotations that directives make are what they leave. -/
theorem Annotation.leave_ofDirectives (owner : Location) (site : Site) (ancestry : Path)
    (directives : List AppliedDirective) :
  Leave owner directives (ofDirectives owner site ancestry directives)
  := by
  rw [Leave, ofDirectives, List.forall₂_map_left_iff, List.forall₂_same]
  intro d _
  exact ⟨rfl, rfl, rfl⟩

/-- The names of the references around which a type is wrapped are those that it was made of. -/
theorem TypeExpr.map_name_map (location : Location) (n : Nat) (t : TypeExpr String) :
  (t.map fun name => (⟨name, location, n⟩ : Reference)).map Reference.name = t
  := by
  induction t with
  | named name => rfl
  | list inner ih => rw [map, map, ih]
  | nonNull inner ih => rw [map, map, ih]

/-- What directives without a fault give for a name is what they bind. -/
theorem WellBound.binds {directives : List AppliedDirective} (bound : WellBound directives)
    (owner : Location) :
  Binds directives (bindingOf owner directives).1
  := by
  have unreported := (Drafting.bindingOf_faults_eq_nil_iff owner directives).mpr bound
  rw [binds_iff owner, ← unreported]

namespace Document

theorem InputNode.Sound.mirrors_define {node : InputNode} (sound : node.Sound) (site : Site)
    (ancestry : Path) (parent : Location) (n : Nat) :
  node.Mirrors parent (node.define site ancestry (parent.moveTo node.position) n)
  where
  name := rfl
  description := rfl
  type := TypeExpr.map_name_map _ _ _
  defaultValue := rfl
  deprecation := rfl
  binding := sound.2.binds _
  directives := Annotation.leave_ofDirectives _ _ _ _
  location := rfl

theorem InputNode.AllSound.tabulates_defineAll {nodes : List InputNode}
    (sound : InputNode.AllSound nodes) (site : Site) (ancestry : Path) (parent : Location)
    (n : Nat) :
  (defineAll site ancestry parent n nodes).Tabulates InputNode.name (InputNode.Mirrors parent) nodes
  := by
  apply tabulates_numbered
  intro n node member
  apply (sound.1 node member).mirrors_define

theorem FieldNode.Sound.mirrors_define {node : FieldNode} (sound : node.Sound) (owner : Path)
    (parent : Location) (n : Nat) :
  node.Mirrors parent (node.define owner (parent.moveTo node.position) n)
  where
  name := rfl
  description := rfl
  arguments := sound.2.1.tabulates_defineAll _ _ _ _
  type := TypeExpr.map_name_map _ _ _
  deprecation := rfl
  binding := sound.2.2.binds _
  directives := Annotation.leave_ofDirectives _ _ _ _
  location := rfl

theorem EnumValueNode.mirrors_define (node : EnumValueNode) (owner : Path) (parent : Location) :
  node.Mirrors parent (node.define owner (parent.moveTo node.position))
  where
  name := rfl
  description := rfl
  deprecation := rfl
  directives := Annotation.leave_ofDirectives _ _ _ _
  location := rfl

/-- What a sound node of a type makes mirrors it. -/
theorem TypeNode.Sound.mirrors_define {node : TypeNode} (sound : node.Sound)
    (file : Option String) (n : Nat) :
  node.Mirrors file (node.define file n)
  where
  kind := rfl
  name := rfl
  description := rfl
  binding := sound.binding.binds _
  directives := Annotation.leave_ofDirectives _ _ _ _
  interfaces := by
    rw [define, Declaration.map_name_references, map_name_declarationsOf]
  members := by
    rw [define, Declaration.map_name_references, map_name_declarationsOf]
  fields := by
    apply tabulates_numbered
    intro n field member
    apply (sound.fields.1 field member).mirrors_define
  inputFields := sound.inputFields.tabulates_defineAll _ _ _ _
  values := by
    rw [define, EnumValueNode.defineAll, ← Drafting.numbered_eq_map (fun _ => 0) _ 0]
    apply tabulates_numbered
    intro n value _
    apply value.mirrors_define
  location := rfl

/-- A node of a type or an extension is built if and only if it is well formed, what is built
mirrors it, and a node that is not built is reported. -/
theorem TypeNode.build_exact (file : Option String) (node : TypeNode) (registry : Registry) :
  ((∃ type, (node.build file registry).1 = .ok type) ↔ node.WellFormed)
    ∧ (∀ type, (node.build file registry).1 = .ok type → node.Mirrors file type)
    ∧ ∀ faults, (node.build file registry).1 = .error faults → faults ≠ []
  := by
  rw [← sound_iff_wellFormed]
  by_cases sound : node.Sound
  · rw [build_of_sound sound]
    and_intros
    · exact ⟨fun _ => sound, fun _ => ⟨_, rfl⟩⟩
    · rintro type ⟨⟩
      apply sound.mirrors_define
    · nofun
  · obtain ⟨reported, later, built, some, -⟩ := build_of_not_sound sound file registry
    rw [built]
    and_intros
    · exact ⟨nofun, fun holds => absurd holds sound⟩
    · nofun
    · rintro faults ⟨⟩
      apply some

/-- A text with a well-formed type and an extension of it that repeats a field. -/
def textWithRepeatedField : String :=
  "type T implements I@key@bind(to:\"t\")@tag\x7b\"d\"f(n:[Int!]=3@bind(to:\"m\")@tag):[T]!@tag\x7d"
    ++ "extend type T{f:T f:T@bind}"

/-- The type of that text is built and mirrored, and its extension is reported. -/
theorem TypeNode.build_exact_repeatedField :
  ∃ node extension type faults,
    parseSchema textWithRepeatedField = .ok [.type node, .extension extension]
    ∧ (node.build none .empty).1 = .ok type ∧ node.WellFormed ∧ node.Mirrors none type
    ∧ (extension.build none .empty).1 = .error faults ∧ ¬ extension.WellFormed ∧ faults ≠ []
    ∧ type.bindTo = some "t" ∧ type.directives.map Annotation.name = ["key", "tag"]
  := by
  have run : (parseSchema textWithRepeatedField).toOption.any fun ds =>
      (typeNodes ds)[0]?.any fun node => (extensionNodes ds)[0]?.any fun extension =>
        (node.build none .empty).1.toOption.any fun type =>
          decide (ds = [.type node, .extension extension]
            ∧ (extension.build none .empty).1.isOk = false ∧ type.bindTo = some "t"
            ∧ type.directives.map Annotation.name = ["key", "tag"]) := by decide +kernel
  obtain ⟨ds, parsed, run⟩ := Except.exists_ok_of_any run
  obtain ⟨node, -, run⟩ := (Option.any_eq_true _ _).mp run
  obtain ⟨extension, -, run⟩ := (Option.any_eq_true _ _).mp run
  obtain ⟨type, built, run⟩ := Except.exists_ok_of_any run
  obtain ⟨rfl, rejected, bound, kept⟩ := of_decide_eq_true run
  obtain ⟨accepted_iff, mirrored, -⟩ := build_exact none node .empty
  obtain ⟨extension_iff, -, reported⟩ := build_exact none extension .empty
  cases failed : (extension.build none .empty).1 with
  | ok _ => simp [failed, Except.isOk, Except.toBool] at rejected
  | error faults =>
    have ill_formed : ¬ extension.WellFormed := by
      rw [← extension_iff, failed]
      nofun
    exact ⟨node, extension, type, faults, parsed, built, accepted_iff.mp ⟨type, built⟩,
      mirrored type built, failed, ill_formed, reported faults failed, bound, kept⟩

end Document

end LinkedSchema
