import LinkedSchema.Proofs.Acceptance.Acceptance
import LinkedSchema.Proofs.Acceptance.Assembled
import LinkedSchema.Proofs.Building.Mirrors
import LinkedSchema.Proofs.Linking.Rejection
import LinkedSchema.Proofs.Linking.Verdicts
import LinkedSchema.Proofs.Order.Unnumbered

/-!
# Applied directives

A definition of a document applies directives at many sites (`Document.Definition.Applies`).  Every
one that is applied elsewhere than at a schema block leaves an annotation in the merged tables, at
its own position; so each must be defined if there is to be a schema, and one that is not is
reported there unless an earlier phase ends the linking.  Directives of schema blocks leave nothing
and make no difference (`Loader.History.applied_defined`).
-/

namespace LinkedSchema

open Document

/-! ### Where directives are applied -/

namespace Document.Definition

/-- Whether a definition applies directives at a site: to itself, or to something in it. -/
inductive Applies : Definition → Site → List AppliedDirective → Prop where
  | type {node : TypeNode} {site : Site} {directives : List AppliedDirective}
    (applied : node.Applies site directives) : Applies (.type node) site directives
  | extension {node : TypeNode} {site : Site} {directives : List AppliedDirective}
    (applied : node.Applies site directives) : Applies (.extension node) site directives
  | argument {node : DirectiveNode} {argument : InputNode} (given : argument ∈ node.arguments) :
    Applies (.directive node) .argumentDefinition argument.directives
  | block {node : SchemaNode} : Applies (.schema node) .schema node.directives

/-- A definition without directives on itself if it is a schema block. -/
def withoutBlockDirectives : Definition → Definition
  | .schema node => .schema { node with directives := [] }
  | .type node => .type node
  | .extension node => .extension node
  | .directive node => .directive node

end Document.Definition

/-! ### Annotations that are left -/

/-- Whether directives of a file leave their annotations in one of some lists. -/
def LeaveIn (file : String) (directives : List AppliedDirective) (lists : List (List Annotation)) :
    Prop :=
  ∃ list ∈ lists, ∃ location : Location, location.file = some file ∧ Leave location directives list

/-- Every directive but a binding leaves an annotation of its name at its own position. -/
theorem LeaveIn.exists_left {file : String} {directives : List AppliedDirective}
    {lists : List (List Annotation)} (left : LeaveIn file directives lists)
    {a : AppliedDirective} (member : a ∈ directives) (kept : a.name ≠ bindName) :
  ∃ list ∈ lists, ∃ applied ∈ list, applied.name = a.name
    ∧ applied.location = .source (some file) a.position
  := by
  obtain ⟨list, list_member, location, in_file, left⟩ := left
  have kept_member : a ∈ directives.filter fun d => d.name != bindName :=
    List.mem_filter.mpr ⟨member, by simpa using kept⟩
  obtain ⟨applied, annotated, name, -, at_position⟩ := List.Forall₂.exists_left left kept_member
  rw [Location.moveTo, in_file] at at_position
  exact ⟨list, list_member, applied, annotated, name, at_position⟩

open AnnotationCheck (annotationLists)

namespace Document

theorem InputNode.Mirrors.leave {parent : Location} {node : InputNode} {input : InputDefinition}
    (mirrors : node.Mirrors parent input) {file : String} (in_file : parent.file = some file) :
  input.location.file = some file ∧ Leave input.location node.directives input.directives
  := by
  refine ⟨?_, mirrors.directives⟩
  rw [mirrors.location, ← in_file]
  rfl

/-- What mirrors a node of a file has the annotations that the directives which the node applies
leave there. -/
theorem TypeNode.Mirrors.leaveIn {file : String} {node : TypeNode} {type : TypeDefinition}
    (mirrors : node.Mirrors (some file) type) {site : Site} {directives : List AppliedDirective}
    (applied : node.Applies site directives) :
  LeaveIn file directives (annotationLists type)
  := by
  have in_file : type.location.file = some file := by
    rw [mirrors.location]
    rfl
  have moved {location : Location} {position : Position}
      (at_position : location = type.location.moveTo position) : location.file = some file := by
    rw [at_position, ← in_file]
    rfl
  simp only [LeaveIn, annotationLists, List.mem_append, List.mem_cons, List.mem_flatMap,
    List.mem_map]
  cases applied with
  | self => exact ⟨type.directives, by simp, type.location, in_file, mirrors.directives⟩
  | field member =>
    obtain ⟨field, field_member, same⟩ := mirrors.fields.exists_value member
    use field.directives, .inl (.inl (.inr ⟨field, field_member, .inl rfl⟩))
    exact ⟨field.location, moved same.location, same.directives⟩
  | argument member given =>
    obtain ⟨field, field_member, same⟩ := mirrors.fields.exists_value member
    obtain ⟨argument, argument_member, same_argument⟩ := same.arguments.exists_value given
    use argument.directives,
      .inl (.inl (.inr ⟨field, field_member, .inr ⟨argument, argument_member, rfl⟩⟩))
    use argument.location
    apply same_argument.leave (moved same.location)
  | inputField member =>
    obtain ⟨field, field_member, same⟩ := mirrors.inputFields.exists_value member
    use field.directives, .inl (.inr ⟨field, field_member, rfl⟩)
    exact ⟨field.location, moved same.location, same.directives⟩
  | enumValue member =>
    obtain ⟨value, value_member, same⟩ := mirrors.values.exists_value member
    use value.directives, .inr ⟨value, value_member, rfl⟩
    exact ⟨value.location, moved same.location, same.directives⟩

end Document

/-- Whatever annotations are in a list of a part of a type are in a list of the assembled type. -/
theorem TypeDefinition.Assembled.exists_annotationList {base : TypeDefinition}
    {extensions : List TypeDefinition} {type : TypeDefinition}
    (assembled : base.Assembled extensions type) {part : TypeDefinition}
    (member : part ∈ base :: extensions) {list : List Annotation}
    (listed : list ∈ annotationLists part) :
  ∃ whole ∈ annotationLists type, list ⊆ whole
  := by
  have kept {δ : Type} {f : TypeDefinition → OrderedMap String δ}
      (entries : (f type).entries = (base :: extensions).flatMap fun part => (f part).entries)
      {value : δ} (value_member : value ∈ (f part).values) : value ∈ (f type).values := by
    obtain ⟨entry, entry_member, rfl⟩ := List.mem_map.mp value_member
    apply List.mem_map_of_mem
    rw [entries]
    apply List.mem_flatMap_of_mem member entry_member
  have fields : ∀ field ∈ part.fields.values, field ∈ type.fields.values :=
    fun _ => kept assembled.fields
  have inputFields : ∀ field ∈ part.inputFields.values, field ∈ type.inputFields.values :=
    fun _ => kept assembled.inputFields
  have values : ∀ value ∈ part.enumValues.values, value ∈ type.enumValues.values :=
    fun _ => kept assembled.values
  simp only [annotationLists, List.mem_append, List.mem_cons, List.mem_flatMap,
    List.mem_map] at listed ⊢
  rcases listed with ((rfl | ⟨field, field_member, of_field⟩) | ⟨field, field_member, rfl⟩)
    | ⟨value, value_member, rfl⟩
  · use type.directives, by simp
    rw [assembled.directives]
    intro applied of_part
    apply List.mem_flatMap_of_mem member of_part
  · use list, .inl (.inl (.inr ⟨field, fields field field_member, of_field⟩))
    apply List.Subset.refl
  · use field.directives, .inl (.inr ⟨field, inputFields field field_member, rfl⟩)
    apply List.Subset.refl
  · use value.directives, .inr ⟨value, values value value_member, rfl⟩
    apply List.Subset.refl

namespace Loader

/-- A definition of a sort is visited in its file. -/
theorem exists_visit {α : Type} (sort : Definition → Option α) (l : Loader)
    {ds : List (String × Definition)} {d : String × Definition} (member : d ∈ ds) {node : α}
    (sorted : sort d.2 = some node) :
  ∃ v ∈ (l.visits ds).filterMap (Visit.of? sort), v.file = d.1 ∧ v.node = node
  := by
  have there : (d.1, node) ∈ placed sort ds := by
    rw [placed, List.mem_filterMap]
    use d, member
    rw [sorted]
    rfl
  rw [← map_visits sort l ds] at there
  obtain ⟨v, visited, same⟩ := List.mem_map.mp there
  exact ⟨v, visited, congrArg Prod.fst same, congrArg Prod.snd same⟩

/-- Whether an annotation of a directive that is applied in a file is among those of a schema. -/
def Records (s : Schema) (file : String) (a : AppliedDirective) : Prop :=
  ∃ list ∈ AnnotationCheck.annotated s.types s.directives, ∃ annotation ∈ list,
    annotation.name = a.name ∧ annotation.location = .source (some file) a.position

section Assembles

variable {options : Options} {ds : List (String × Definition)} {s : Schema}
  {bases extensions : List TypeDefinition} {builtDirectives : List DirectiveDefinition}
  (gathers : (start options).Gathers ds bases extensions builtDirectives)
  (assembles : s.Assembles bases extensions builtDirectives)
  {a : AppliedDirective} (kept : a.name ≠ bindName)

include assembles kept

/-- The directives that a part of a type applies are recorded in what is assembled. -/
theorem records_of_builds {v : Visit TypeNode} {base part : TypeDefinition}
    (built : v.Builds part) (base_member : base ∈ allBases bases)
    (member : part ∈ base :: extensionsOf extensions base.name) {site : Site}
    {directives : List AppliedDirective} (applies : v.node.Applies site directives)
    (applied : a ∈ directives) :
  Records s v.file a
  := by
  obtain ⟨sound, rfl⟩ := built.eq_define
  obtain ⟨list, listed, annotation, annotated, same⟩ :=
    ((sound.mirrors_define _ _).leaveIn applies).exists_left applied kept
  obtain ⟨entry, entry_member, -, assembled⟩ := assembles.types.exists_left base_member
  obtain ⟨whole, whole_listed, subset⟩ := assembled.exists_annotationList member listed
  refine ⟨whole, ?_, annotation, subset annotated, same⟩
  rw [← (AnnotationCheck.annotationLists_perm _ _).mem_iff]
  apply List.mem_append_left
  apply List.mem_flatMap_of_mem (List.mem_map_of_mem entry_member) whole_listed

/-- The directives that a directive applies to its arguments are recorded in what is assembled. -/
theorem records_of_buildsDirective {v : Visit DirectiveNode} {directive : DirectiveDefinition}
    (built : v.BuildsDirective directive) (member : directive ∈ builtDirectives)
    {argument : InputNode} (given : argument ∈ v.node.arguments)
    (applied : a ∈ argument.directives) :
  Records s v.file a
  := by
  have sound : v.node.Sound := by
    rw [← DirectiveNode.build_isOk_iff (some v.file) v.node v.registry, built]
    rfl
  have stored : directive ∈ s.directives.values := by
    rw [OrderedMap.values, assembles.directives, List.map_append, List.map_map]
    apply List.mem_append_right
    apply List.mem_map_of_mem member
  obtain rfl := built.eq_define
  obtain ⟨input, input_member, mirrors⟩ := (sound.2.tabulates_defineAll .argumentDefinition
    [.directive v.node.name] (.source (some v.file) v.node.position) v.registry.size).exists_value
      given
  obtain ⟨in_file, leave⟩ := mirrors.leave rfl
  have left : LeaveIn v.file argument.directives [input.directives] :=
    ⟨_, List.mem_singleton_self _, input.location, in_file, leave⟩
  obtain ⟨list, listed, annotation, annotated, same⟩ := left.exists_left applied kept
  obtain rfl := List.mem_singleton.mp listed
  refine ⟨_, ?_, annotation, annotated, same⟩
  rw [← (AnnotationCheck.annotationLists_perm _ _).mem_iff]
  apply List.mem_append_right
  apply List.mem_flatMap_of_mem stored (List.mem_map_of_mem input_member)

include gathers

/-- The directives that a definition applies elsewhere than at a schema block are recorded in what
is assembled. -/
theorem records_of_applies {d : String × Definition} (member : d ∈ ds) {site : Site}
    {directives : List AppliedDirective} (applies : d.2.Applies site directives)
    (elsewhere : site ≠ .schema) (applied : a ∈ directives) :
  Records s d.1 a
  := by
  obtain ⟨file, d⟩ := d
  cases applies with
  | @type node _ _ applies =>
    obtain ⟨v, visited, rfl, rfl⟩ := exists_visit Definition.type? (start options) member rfl
    obtain ⟨base, base_member, built⟩ := gathers.bases.exists_right visited
    apply records_of_builds assembles kept built (List.mem_append_right _ base_member)
      List.mem_cons_self applies applied
  | @extension node _ _ applies =>
    obtain ⟨v, visited, rfl, rfl⟩ := exists_visit Definition.extension? (start options) member rfl
    obtain ⟨extension, extension_member, built⟩ := gathers.extensions.exists_right visited
    obtain ⟨base, base_member, named, -⟩ := assembles.extended extension extension_member
    have extends_base : extension ∈ extensionsOf extensions base.name := by
      simp [extensionsOf, extension_member, named]
    apply records_of_builds assembles kept built base_member
      (List.mem_cons_of_mem _ extends_base) applies applied
  | @argument node argument given =>
    obtain ⟨v, visited, rfl, rfl⟩ := exists_visit Definition.directive? (start options) member rfl
    obtain ⟨directive, directive_member, built⟩ := gathers.directives.exists_right visited
    apply records_of_buildsDirective assembles kept built directive_member given applied
  | block => contradiction

end Assembles

/-! ### Undefined directives -/

/-- An annotation of an undefined directive is reported at its location. -/
theorem mem_annotationFaults_of_records {s : Schema} {file : String} {a : AppliedDirective}
    (recorded : Records s file a) (undefined : s.directives.get? a.name = none)
    (severity : Severity) :
  .undefinedDirective a.name (.source (some file) a.position)
    ∈ AnnotationCheck.faults s.directives severity s.types
  := by
  obtain ⟨list, listed, annotation, annotated, name, location⟩ := recorded
  rw [(AnnotationCheck.faults_perm _ _ _).mem_iff]
  apply List.mem_flatMap_of_mem listed
  apply List.mem_append_left
  apply List.mem_append_left
  rw [← name, ← location]
  apply List.mem_map_of_mem (f := fun applied : Annotation =>
    Fault.undefinedDirective applied.name applied.location)
  apply List.mem_filter.mpr
  rw [name, undefined]
  exact ⟨annotated, rfl⟩

/-- The names of the directives that are built in or defined. -/
def directiveNames (ds : List Definition) : List String :=
  (directiveNodes (BuiltIn.definitions ++ ds)).map DirectiveNode.name

/-- Directives of schema blocks make no difference to a visit. -/
theorem visit_withoutBlockDirectives (file : String) (l : Loader) (d : Definition) :
  l.visit file d.withoutBlockDirectives = l.visit file d
  := by cases d <;> rfl

/-- Directives of schema blocks make no difference to visits. -/
theorem visitEach_withoutBlockDirectives (l : Loader) (ds : List (String × Definition)) :
  l.visitEach (ds.map fun d => (d.1, d.2.withoutBlockDirectives)) = l.visitEach ds
  := by
  rw [visitEach, List.foldl_map]
  simp only [visit_withoutBlockDirectives]
  rfl

section History

variable {options : Options} {ds : List (String × Definition)} {l : Loader}
  (h : History options ds l)

include h

/-- If a directive that is not defined is applied elsewhere than at a schema block, and nothing is
reported before the checks, it is reported where it stands. -/
theorem History.mem_annotationFaults (clean : l.faults = []) (merged : l.merged.2 = [])
    {d : String × Definition} (member : d ∈ ds) {site : Site}
    {directives : List AppliedDirective} (applies : d.2.Applies site directives)
    (elsewhere : site ≠ .schema) {a : AppliedDirective} (applied : a ∈ directives)
    (undefined : a.name ∉ directiveNames (ds.map Prod.snd)) (severity : Severity) :
  .undefinedDirective a.name (.source (some d.1) a.position)
    ∈ AnnotationCheck.faults l.directives severity l.merged.1
  := by
  obtain ⟨n, rfl⟩ := h.eq_visitEach
  -- There need not be a schema: what is assembled depends on its tables alone.
  let s : Schema := {
    types := ((Loader.start options).visitEach ds).merged.1
    directives := ((Loader.start options).visitEach ds).directives
    bindings := ⟨[]⟩
    query := 0
    mutation := none
    subscription := none }
  obtain ⟨bases, extensions, built, gathers, assembles⟩ :=
    assembles_of_clean (s := s) clean merged rfl rfl
  have kept : a.name ≠ bindName := by
    intro same
    apply undefined
    rw [same, directiveNames, directiveNodes, List.filterMap_append, List.map_append]
    apply List.mem_append_left
    decide
  have recorded := records_of_applies gathers assembles kept member applies elsewhere applied
  apply mem_annotationFaults_of_records recorded _ severity
  rw [OrderedMap.get?_eq_none_iff]
  have holds := ((accounts_start options).visitEach ds).holds clean
  rw [holds.directives.keys_eq]
  apply undefined

/-- If a directive that is not defined is applied elsewhere than at a schema block, there is no
schema, and the directive is reported where it stands unless an earlier phase ends the linking. -/
theorem History.link_of_undefined {d : String × Definition} (member : d ∈ ds) {site : Site}
    {directives : List AppliedDirective} (applies : d.2.Applies site directives)
    (elsewhere : site ≠ .schema) {a : AppliedDirective} (applied : a ∈ directives)
    (undefined : a.name ∉ directiveNames (ds.map Prod.snd)) :
  ∃ faults, l.link = .error faults
    ∧ (.undefinedDirective a.name (.source (some d.1) a.position) ∈ faults
      ∨ ∃ phase, phase ≠ .checks ∧ RejectedIn options ds l faults phase)
  := by
  have reported (clean : l.faults = []) (merged : l.merged.2 = []) :=
    h.mem_annotationFaults clean merged member applies elsewhere applied undefined
      l.options.misplacedDirective
  cases linked : l.link with
  | ok s =>
    obtain ⟨clean, merged, -, checked, -⟩ := (link_eq_ok_iff l s).mp linked
    rw [checkFaults, List.append_eq_nil_iff, List.append_eq_nil_iff] at checked
    have found := reported clean merged
    rw [checked.1.1] at found
    cases found
  | error faults =>
    use faults, rfl
    obtain ⟨-, phase, rejected⟩ := h.exists_rejectedIn linked
    cases phase with
    | definitions => exact .inr ⟨.definitions, by decide, rejected⟩
    | references => exact .inr ⟨.references, by decide, rejected⟩
    | checks =>
      left
      obtain ⟨no_fault, -, ⟨bindings, -, rfl⟩, -⟩ := rejected
      rw [h.definitionFaults_eq, List.append_eq_nil_iff] at no_fault
      apply List.mem_append_left
      apply List.mem_append_left
      apply reported no_fault.1 no_fault.2

/-- In a history that makes a schema, every directive that is applied elsewhere than at a schema
block is built in or defined; one that is not is reported where it stands, unless an earlier phase
ends the linking.  The directives of schema blocks make no difference to the linking. -/
theorem History.applied_defined :
  (∀ s, l.link = .ok s → ∀ d ∈ ds, ∀ site directives, d.2.Applies site directives →
      site ≠ .schema → ∀ a ∈ directives, a.name ∈ directiveNames (ds.map Prod.snd))
    ∧ (∀ d ∈ ds, ∀ site directives, d.2.Applies site directives → site ≠ .schema →
      ∀ a ∈ directives, a.name ∉ directiveNames (ds.map Prod.snd) →
      ∃ faults, l.link = .error faults
        ∧ (.undefinedDirective a.name (.source (some d.1) a.position) ∈ faults
          ∨ ∃ phase, phase ≠ .checks ∧ RejectedIn options ds l faults phase))
    ∧ ((Loader.start options).visitEach
        (ds.map fun d => (d.1, d.2.withoutBlockDirectives))).link = l.link
  := by
  and_intros
  · intro s linked d member site directives applies elsewhere a applied
    by_contra undefined
    obtain ⟨faults, rejected, -⟩ :=
      h.link_of_undefined member applies elsewhere applied undefined
    rw [linked] at rejected
    cases rejected
  · intro d member site directives applies elsewhere a applied undefined
    apply h.link_of_undefined member applies elsewhere applied undefined
  · rw [visitEach_withoutBlockDirectives]
    obtain ⟨n, rfl⟩ := h.eq_visitEach
    rfl

end History

/-- A text in which a directive that is not defined is applied to an argument of a field that an
extension adds. -/
def textWithUndefined : String := "type Query extend type Query{a(x:Int@nope):Int}"

/-- The field in that text. -/
def fieldWithUndefined : FieldNode :=
  ⟨⟨1, 30⟩, none, "a", [⟨⟨1, 32⟩, none, "x", .named "Int", none, [⟨⟨1, 37⟩, "nope", []⟩]⟩],
    .named "Int", []⟩

/-- The definitions in that text. -/
def definitionsWithUndefined : List Definition := [
  .type ⟨⟨1, 1⟩, none, "Query", [], .object [] []⟩,
  .extension ⟨⟨1, 19⟩, none, "Query", [], .object [] [fieldWithUndefined]⟩]

/-- The directive of that text is not defined, and is reported where it stands. -/
theorem applied_defined_argument :
  ∃ l, History {} (definitionsWithUndefined.map fun d => ("s", d)) l
    ∧ "nope" ∉ directiveNames definitionsWithUndefined
    ∧ ∃ faults, l.link = .error faults
      ∧ (.undefinedDirective "nope" (.source (some "s") ⟨1, 37⟩) ∈ faults
        ∨ ∃ phase, phase ≠ .checks
          ∧ RejectedIn {} (definitionsWithUndefined.map fun d => ("s", d)) l faults phase)
  := by
  have parsed : Document.parseSchema textWithUndefined = .ok definitionsWithUndefined := by
    decide +kernel
  have run : ((start {}).load (some "s") textWithUndefined).toOption.any fun _ => true := by
    decide +kernel
  have undefined : "nope" ∉ directiveNames definitionsWithUndefined := by decide
  obtain ⟨l, loaded, -⟩ := Except.exists_ok_of_any run
  have history : History {} (definitionsWithUndefined.map fun d => ("s", d)) l :=
    History.start.load parsed loaded
  use l, history, undefined
  obtain ⟨-, reported, -⟩ := history.applied_defined
  exact reported ("s", definitionsWithUndefined[1])
    (List.mem_map_of_mem (List.mem_cons_of_mem _ List.mem_cons_self)) _ _
    (.extension (.argument List.mem_cons_self List.mem_cons_self)) (by decide) _ List.mem_cons_self
    undefined

/-- A text in which a directive that is not defined is applied to a schema block. -/
def textWithUndefinedOnBlock : String := "schema @nope { query: Query }\ntype Query { a: Int }"

/-- The schema block in that text. -/
def blockWithUndefined : SchemaNode := ⟨⟨1, 1⟩, [⟨⟨1, 8⟩, "nope", []⟩], [(.query, "Query")]⟩

/-- The definitions in that text. -/
def definitionsWithUndefinedOnBlock : List Definition := [
  .schema blockWithUndefined,
  .type ⟨⟨2, 1⟩, none, "Query", [],
    .object [] [⟨⟨2, 14⟩, none, "a", [], .named "Int", []⟩]⟩]

/-- There is a schema of that text, although the directive that its block applies is not defined. -/
theorem undefined_on_block :
  ∃ l, Document.parseSchema textWithUndefinedOnBlock = .ok definitionsWithUndefinedOnBlock
    ∧ Loads {} definitionsWithUndefinedOnBlock l ∧ l.link.isOk
    ∧ ∃ d ∈ definitionsWithUndefinedOnBlock, ∃ directives, d.Applies .schema directives
      ∧ ∃ a ∈ directives, a.name ∉ directiveNames definitionsWithUndefinedOnBlock
  := by
  have parsed : Document.parseSchema textWithUndefinedOnBlock
      = .ok definitionsWithUndefinedOnBlock := by
    decide +kernel
  have run : ((start {}).load none textWithUndefinedOnBlock).toOption.any fun l => l.link.isOk := by
    decide +kernel
  obtain ⟨l, loaded, linked⟩ := Except.exists_ok_of_any run
  use l, parsed, Loads.start.load parsed loaded, linked
  use .schema blockWithUndefined, List.mem_cons_self, blockWithUndefined.directives, .block
  use ⟨⟨1, 8⟩, "nope", []⟩, List.mem_cons_self
  decide

end Loader

end LinkedSchema
