import LinkedSchema.Json.ReadDefinitions
import LinkedSchema.Proofs.Json.Text
import LinkedSchema.Proofs.Value.Parts

/-!
# Reading forms back

A thing is restored from its form if reading the form gives the thing, and the form is a tree that
is read back from its text (`Json.Restores`).  The forms of absent things, lists and tables are
restored if those of their members are.  Most of what a definition is made of is always restored.
Only literals and numbers (`Leaf`) are not, and tables in which a key stands twice: a type without
such tables is restored if its leaves are storable (`TypeDefinition.restores`).
-/

namespace LinkedSchema

/-! ### Restored things -/

namespace Json

/-- Whether a thing is read from its form, which can be read back from its text. -/
structure Restores {α : Type} (form : α → Json) (read : Json → Option α) (thing : α) : Prop where
  reads : read (form thing) = some thing
  form : (form thing).Exact

theorem restores_string (text : String) :
  Restores string string? text
  := ⟨rfl, .string text⟩

/-- A number that is a word is restored. -/
theorem restores_nat {n : Nat} (word : n < UInt64.size) :
  Restores nat word? n
  where
  reads := by
    rw [nat, word?, if_pos (by omega)]
    rfl
  form := .int n

section Combinators

variable {α : Type} {form : α → Json} {read : Json → Option α}

/-- A thing that may be absent is restored if the thing is whenever it is there, and its form is not
that of an absent one. -/
theorem Restores.optional {thing : Option α}
    (restores : ∀ a ∈ thing, Restores form read a ∧ form a ≠ null) :
  Restores (optional form) (optional? read) thing
  := by
  cases thing with
  | none => exact ⟨rfl, .null⟩
  | some a =>
    obtain ⟨⟨reads, exact_form⟩, present⟩ := restores a rfl
    refine ⟨?_, exact_form⟩
    rw [Json.optional, optional?]
    · rw [reads]
      rfl
    · apply present

theorem restores_optionalString (text : Option String) :
  Restores optionalString (optional? string?) text
  := .optional fun text _ => ⟨restores_string text, nofun⟩

/-- The items of a list are read one after another. -/
theorem mapM_read {β : Type} {f : β → α} {read : α → Option β} {list : List β}
    (reads : ∀ b ∈ list, read (f b) = some b) :
  (list.map f).mapM read = some list
  := by
  induction list with
  | nil => rfl
  | cons b rest ih =>
    obtain ⟨first, others⟩ := List.forall_mem_cons.mp reads
    rw [List.map_cons, List.mapM_cons, first, ih others]
    rfl

/-- A list is restored if its items are. -/
theorem Restores.array {items : List α} (restores : ∀ a ∈ items, Restores form read a) :
  Restores (arrayOf form) (array? read) items
  where
  reads := mapM_read fun a member => (restores a member).reads
  form := by
    apply Exact.array
    intro tree member
    obtain ⟨a, a_member, rfl⟩ := List.mem_map.mp member
    exact (restores a a_member).form

/-- A table in which no key stands twice is restored if its values are. -/
theorem Restores.table {m : OrderedMap String α} (distinct : m.keys.Nodup)
    (restores : ∀ entry ∈ m.entries, Restores form read entry.2) :
  Restores (table form) (table? read) m
  where
  reads := by
    rw [Json.table, table?, mapM_read (f := fun entry : String × α => (entry.1, form entry.2))]
    · apply congrArg some
      apply OrderedMap.ofList_of_nodup distinct
    · intro entry member
      simp only
      rw [(restores entry member).reads]
      rfl
  form := by
    apply Exact.object
    · rw [List.map_map]
      apply distinct
    · intro entry member
      obtain ⟨own, own_member, rfl⟩ := List.mem_map.mp member
      exact (restores own own_member).form

end Combinators

section Fields

variable {α : Type} (read : Json → Option α) (key : String) (content : Json)
  (entries : List (String × Json))

theorem field?_cons_self :
  (object ((key, content) :: entries)).field? key = some content
  := if_pos rfl

theorem field?_cons_of_ne {other : String} (different : key ≠ other) :
  (object ((key, content) :: entries)).field? other = (object entries).field? other
  := if_neg different

theorem get?_cons_self :
  (object ((key, content) :: entries)).get? read key = read content
  := by rw [get?, field?_cons_self, Option.bind_some]

theorem get?_cons_of_ne {other : String} (different : key ≠ other) :
  (object ((key, content) :: entries)).get? read other = (object entries).get? read other
  := by rw [get?, field?_cons_of_ne _ _ _ different, get?]

theorem getOptional?_cons_self :
  (object ((key, content) :: entries)).getOptional? read key = optional? read content
  := by rw [getOptional?, field?_cons_self, Option.getD_some]

theorem getOptional?_cons_of_ne {other : String} (different : key ≠ other) :
  (object ((key, content) :: entries)).getOptional? read other
    = (object entries).getOptional? read other
  := by rw [getOptional?, field?_cons_of_ne _ _ _ different, getOptional?]

theorem record_object (fields : List String) :
  (object entries).record fields = object entries
  := rfl

end Fields

theorem Exact.choice {name : String} {content : Json} (exact_content : content.Exact) :
  (Json.choice name content).Exact
  := .object (List.nodup_singleton name) (List.forall_mem_singleton.mpr exact_content)

end Json

/-! ### Values -/

namespace Value

/-- Whether a value is no number with a fraction. -/
def Fractionless : Value → Prop
  | float _ => False
  | _ => True

theorem itemsToJson_eq_map (items : List Value) :
  itemsToJson items = items.map toJson
  := by
  induction items with
  | nil => rfl
  | cons item rest ih => rw [itemsToJson, ih, List.map_cons]

theorem entriesToJson_eq_map (entries : List (String × Value)) :
  entriesToJson entries = entries.map fun entry => (entry.1, entry.2.toJson)
  := by
  induction entries with
  | nil => rfl
  | cons entry rest ih => rw [entriesToJson, ih, List.map_cons]

theorem itemsOfJson?_itemsToJson {items : List Value}
    (reads : ∀ item ∈ items, ofJson? item.toJson = some item) :
  itemsOfJson? (itemsToJson items) = some items
  := by
  induction items with
  | nil => rfl
  | cons item rest ih =>
    obtain ⟨first, others⟩ := List.forall_mem_cons.mp reads
    rw [itemsToJson, itemsOfJson?, first, ih others]
    rfl

theorem entriesOfJson?_entriesToJson {entries : List (String × Value)}
    (reads : ∀ entry ∈ entries, ofJson? entry.2.toJson = some entry.2) :
  entriesOfJson? (entriesToJson entries) = some entries
  := by
  induction entries with
  | nil => rfl
  | cons entry rest ih =>
    obtain ⟨first, others⟩ := List.forall_mem_cons.mp reads
    rw [entriesToJson, entriesOfJson?, first, ih others]
    rfl

/-- The form of a value is not that of an absent one, not even if the value is null. -/
theorem toJson_ne_null (v : Value) :
  v.toJson ≠ .null
  := by
  cases v <;> nofun

/-- A value without fractions, in no object of which a key stands twice, is restored. -/
theorem restores {v : Value} (fractionless : v.Everywhere Fractionless)
    (tabled : v.Everywhere Tabled) :
  Json.Restores toJson ofJson? v
  := by
  induction v with
  | bool value => exact ⟨by simp [toJson, ofJson?, Json.choice], .choice (.bool value)⟩
  | enum name => exact ⟨by simp [toJson, ofJson?, Json.choice], .choice (.string name)⟩
  | float value => cases fractionless.self
  | int value => exact ⟨by simp [toJson, ofJson?, Json.choice], .choice (.int value)⟩
  | list items ih =>
    obtain ⟨-, items_fractionless⟩ := Everywhere.list_iff.mp fractionless
    obtain ⟨-, items_tabled⟩ := Everywhere.list_iff.mp tabled
    have all := fun item member =>
      ih item member (items_fractionless item member) (items_tabled item member)
    constructor
    · have read := itemsOfJson?_itemsToJson fun item member => (all item member).reads
      simp [toJson, ofJson?, Json.choice, read]
    · apply Json.Exact.choice
      apply Json.Exact.array
      rw [itemsToJson_eq_map]
      intro tree member
      obtain ⟨item, item_member, rfl⟩ := List.mem_map.mp member
      exact (all item item_member).form
  | null => exact ⟨by simp [toJson, ofJson?], .string _⟩
  | object entries ih =>
    obtain ⟨-, entries_fractionless⟩ := Everywhere.object_iff.mp fractionless
    obtain ⟨distinct, entries_tabled⟩ := Everywhere.object_iff.mp tabled
    have all := fun entry member =>
      ih entry member (entries_fractionless entry member) (entries_tabled entry member)
    constructor
    · have read := entriesOfJson?_entriesToJson fun entry member => (all entry member).reads
      simp [toJson, ofJson?, Json.choice, read]
    · apply Json.Exact.choice
      rw [entriesToJson_eq_map]
      apply Json.Exact.object
      · rw [List.map_map]
        apply distinct
      · intro pair member
        obtain ⟨entry, entry_member, rfl⟩ := List.mem_map.mp member
        exact (all entry entry_member).form
  | string value => exact ⟨by simp [toJson, ofJson?, Json.choice], .choice (.string value)⟩
  | variableRef name => exact ⟨by simp [toJson, ofJson?, Json.choice], .choice (.string name)⟩

end Value

/-! ### Leaves -/

/-- A literal or a number that a definition holds. -/
inductive Leaf where
  | literal (value : Value)
  | number (n : Nat)
deriving DecidableEq

/-- Whether a leaf is a value without fractions in which no key stands twice, or a number that is a
word. -/
def Leaf.Storable : Leaf → Prop
  | literal value => value.Everywhere Value.Fractionless ∧ value.Everywhere Value.Tabled
  | number n => n < UInt64.size

section Leaves

variable {α : Type} {form : α → Json} {read : Json → Option α} {leaves : α → List Leaf}

/-- A list of things that are restored if their leaves are storable is restored if all of these
are. -/
theorem Json.Restores.array_of_leaves {items : List α}
    (restores : ∀ a ∈ items, (∀ leaf ∈ leaves a, leaf.Storable) → Restores form read a)
    (storable : ∀ leaf ∈ items.flatMap leaves, leaf.Storable) :
  Restores (arrayOf form) (array? read) items
  := by
  apply Restores.array
  intro a member
  apply restores a member
  intro leaf held
  apply storable
  exact List.mem_flatMap.mpr ⟨a, member, held⟩

/-- A table of named things that are restored if their leaves are storable is restored if all of
these are. -/
theorem Json.Restores.table_of_leaves {name : α → String} {p : α → Prop} {m : OrderedMap String α}
    (registers : m.Registers name p)
    (restores : ∀ {a}, p a → (∀ leaf ∈ leaves a, leaf.Storable) → Restores form read a)
    (storable : ∀ leaf ∈ m.values.flatMap leaves, leaf.Storable) :
  Restores (Json.table form) (table? read) m
  := by
  apply Restores.table registers.distinct
  intro entry member
  apply restores (registers.all entry member)
  intro leaf held
  apply storable
  exact List.mem_flatMap.mpr ⟨entry.2, List.mem_map_of_mem member, held⟩

end Leaves

/-! ### Locations and references -/

/-- The leaves of a location: its line and its column. -/
def Location.leaves : Location → List Leaf
  | .builtIn => []
  | .source _ position => [.number position.line, .number position.column]

theorem Location.restores {location : Location}
    (storable : ∀ leaf ∈ location.leaves, leaf.Storable) :
  Json.Restores toJson ofJson? location
  := by
  cases location with
  | builtIn => exact ⟨rfl, .string _⟩
  | source file position =>
    obtain ⟨line, others⟩ := List.forall_mem_cons.mp storable
    obtain ⟨column, -⟩ := List.forall_mem_cons.mp others
    have line := Json.restores_nat line
    have column := Json.restores_nat column
    have name := Json.restores_optionalString file
    constructor
    -- The numbers are read before the rest is computed: no bound of a word must be unfolded.
    · have content : sourceOfJson? (.object [("col", .nat position.column),
          ("file", .optionalString file), ("line", .nat position.line)])
            = some (.source file position) := by
        simp (disch := decide) only [sourceOfJson?, Json.record_object, Json.get?_cons_self,
          Json.get?_cons_of_ne, Json.getOptional?_cons_self, Json.getOptional?_cons_of_ne,
          line.reads, column.reads, name.reads]
        rfl
      exact content
    · apply Json.Exact.choice
      apply Json.Exact.object
      · simp
      · simp only [List.forall_mem_cons]
        exact ⟨column.form, name.form, line.form, List.forall_mem_nil _⟩

/-- The leaves of a reference. -/
def Reference.leaves (r : Reference) : List Leaf := .number r.symbol :: r.location.leaves

theorem Reference.restores {r : Reference} (storable : ∀ leaf ∈ r.leaves, leaf.Storable) :
  Json.Restores toJson ofJson? r
  := by
  obtain ⟨symbol, location⟩ := List.forall_mem_cons.mp storable
  have symbol := Json.restores_nat symbol
  have location := Location.restores location
  have name := Json.restores_string r.name
  constructor
  · simp (disch := decide) only [toJson, ofJson?, Json.record_object, Json.get?_cons_self,
      Json.get?_cons_of_ne, symbol.reads, location.reads, name.reads]
    rfl
  · apply Json.Exact.object
    · simp
    · simp only [List.forall_mem_cons]
      exact ⟨name.form, location.form, symbol.form, List.forall_mem_nil _⟩

theorem TypeExpr.restores {t : TypeExpr Reference}
    (storable : ∀ leaf ∈ t.innermost.leaves, leaf.Storable) :
  Json.Restores toJson ofJson? t
  := by
  induction t with
  | named reference =>
    have restored : Json.Restores Reference.toJson Reference.ofJson? reference :=
      Reference.restores storable
    constructor
    · simp [toJson, ofJson?, Json.choice, restored.reads]
    · apply restored.form.choice
  | list inner ih =>
    have restored := ih storable
    constructor
    · simp [toJson, ofJson?, Json.choice, restored.reads]
    · apply restored.form.choice
  | nonNull inner ih =>
    have restored := ih storable
    constructor
    · simp [toJson, ofJson?, Json.choice, restored.reads]
    · apply restored.form.choice

/-! ### Annotations -/

theorem Kind.restores (kind : Kind) :
  Json.Restores (fun kind => .string kind.title) ofJson? kind
  where
  reads := by cases kind <;> decide
  form := .string kind.title

theorem Site.restores (site : Site) :
  Json.Restores (fun site => .string site.title) ofJson? site
  where
  reads := by cases site <;> decide
  form := .string site.title

theorem Segment.restores (segment : Segment) :
  Json.Restores toJson ofJson? segment
  := by
  cases segment with
  | type kind name =>
    have kind_restored := Kind.restores kind
    have name_restored := Json.restores_string name
    constructor
    · simp (disch := decide) only [toJson, ofJson?, Json.choice, Json.record_object,
        Json.get?_cons_self, Json.get?_cons_of_ne, kind_restored.reads, name_restored.reads]
      rfl
    · apply Json.Exact.choice
      apply Json.Exact.object
      · simp
      · simp only [List.forall_mem_cons]
        exact ⟨kind_restored.form, name_restored.form, List.forall_mem_nil _⟩
  | argument name => exact ⟨by simp [toJson, ofJson?, Json.choice], .choice (.string name)⟩
  | directive name => exact ⟨by simp [toJson, ofJson?, Json.choice], .choice (.string name)⟩
  | enumValue name => exact ⟨by simp [toJson, ofJson?, Json.choice], .choice (.string name)⟩
  | field name => exact ⟨by simp [toJson, ofJson?, Json.choice], .choice (.string name)⟩
  | inputField name => exact ⟨by simp [toJson, ofJson?, Json.choice], .choice (.string name)⟩

/-- The leaves of an annotation. -/
def Annotation.leaves (a : Annotation) : List Leaf :=
  a.arguments.values.map .literal ++ a.location.leaves

/-- Whether no name stands twice among the arguments of an annotation. -/
def Annotation.Tabled (a : Annotation) : Prop := a.arguments.keys.Nodup

theorem Annotation.restores {a : Annotation} (tabled : a.Tabled)
    (storable : ∀ leaf ∈ a.leaves, leaf.Storable) :
  Json.Restores toJson ofJson? a
  := by
  simp only [leaves, List.forall_mem_append, List.forall_mem_map, OrderedMap.values] at storable
  obtain ⟨literals, location⟩ := storable
  have ancestry := Json.Restores.array fun segment (_ : segment ∈ a.ancestry) => segment.restores
  have arguments := Json.Restores.table tabled fun entry member =>
    Value.restores (literals entry member).1 (literals entry member).2
  have location := Location.restores location
  have site := a.site.restores
  have name := Json.restores_string a.name
  constructor
  · simp (disch := decide) only [toJson, ofJson?, Json.record_object, Json.get?_cons_self,
      Json.get?_cons_of_ne, ancestry.reads, arguments.reads, location.reads, site.reads, name.reads]
    rfl
  · apply Json.Exact.object
    · simp
    · simp only [List.forall_mem_cons]
      exact ⟨ancestry.form, arguments.form, location.form, site.form, name.form,
        List.forall_mem_nil _⟩

/-! ### Members -/

/-- The leaves of an argument or input field. -/
def InputDefinition.leaves (input : InputDefinition) : List Leaf :=
  input.defaultValue.toList.map .literal ++ input.type.innermost.leaves
    ++ input.directives.flatMap Annotation.leaves ++ input.location.leaves

/-- Whether no name stands twice in the tables of an argument or input field. -/
def InputDefinition.Tabled (input : InputDefinition) : Prop :=
  ∀ a ∈ input.directives, a.Tabled

theorem InputDefinition.restores {input : InputDefinition} (tabled : input.Tabled)
    (storable : ∀ leaf ∈ input.leaves, leaf.Storable) :
  Json.Restores toJson ofJson? input
  := by
  simp only [leaves, List.forall_mem_append, List.forall_mem_map, Option.mem_toList] at storable
  obtain ⟨⟨⟨literals, type⟩, directives⟩, location⟩ := storable
  have bindTo := Json.restores_optionalString input.bindTo
  have location := Location.restores location
  have defaultValue := Json.Restores.optional fun value present =>
    ⟨Value.restores (literals value present).1 (literals value present).2,
      Value.toJson_ne_null value⟩
  have deprecation := Json.restores_optionalString input.deprecation
  have description := Json.restores_optionalString input.description
  have directives := Json.Restores.array_of_leaves
    (fun a member => Annotation.restores (tabled a member)) directives
  have name := Json.restores_string input.name
  have type := TypeExpr.restores type
  constructor
  · simp (disch := decide) only [toJson, ofJson?, Json.record_object, Json.get?_cons_self,
      Json.get?_cons_of_ne, Json.getOptional?_cons_self, Json.getOptional?_cons_of_ne, bindTo.reads,
      location.reads, defaultValue.reads, deprecation.reads, description.reads, directives.reads,
      name.reads, type.reads]
    rfl
  · apply Json.Exact.object
    · simp
    · simp only [List.forall_mem_cons]
      exact ⟨bindTo.form, location.form, defaultValue.form, deprecation.form, description.form,
        directives.form, name.form, type.form, List.forall_mem_nil _⟩

/-- The leaves of a field. -/
def FieldDefinition.leaves (field : FieldDefinition) : List Leaf :=
  field.arguments.values.flatMap InputDefinition.leaves ++ field.type.innermost.leaves
    ++ field.directives.flatMap Annotation.leaves ++ field.location.leaves

/-- Whether no name stands twice in the tables of a field. -/
structure FieldDefinition.Tabled (field : FieldDefinition) : Prop where
  directives : ∀ a ∈ field.directives, a.Tabled
  arguments : field.arguments.Registers InputDefinition.name InputDefinition.Tabled

theorem FieldDefinition.restores {field : FieldDefinition} (tabled : field.Tabled)
    (storable : ∀ leaf ∈ field.leaves, leaf.Storable) :
  Json.Restores toJson ofJson? field
  := by
  simp only [leaves, List.forall_mem_append] at storable
  obtain ⟨⟨⟨arguments, type⟩, directives⟩, location⟩ := storable
  have arguments := Json.Restores.table_of_leaves tabled.arguments InputDefinition.restores
    arguments
  have bindTo := Json.restores_optionalString field.bindTo
  have location := Location.restores location
  have deprecation := Json.restores_optionalString field.deprecation
  have description := Json.restores_optionalString field.description
  have directives := Json.Restores.array_of_leaves
    (fun a member => Annotation.restores (tabled.directives a member)) directives
  have name := Json.restores_string field.name
  have type := TypeExpr.restores type
  constructor
  · simp (disch := decide) only [toJson, ofJson?, Json.record_object, Json.get?_cons_self,
      Json.get?_cons_of_ne, Json.getOptional?_cons_self, Json.getOptional?_cons_of_ne,
      arguments.reads, bindTo.reads, location.reads, deprecation.reads, description.reads,
      directives.reads, name.reads, type.reads]
    rfl
  · apply Json.Exact.object
    · simp
    · simp only [List.forall_mem_cons]
      exact ⟨arguments.form, bindTo.form, location.form, deprecation.form, description.form,
        directives.form, name.form, type.form, List.forall_mem_nil _⟩

/-- The leaves of a value of an enum type. -/
def EnumValueDefinition.leaves (value : EnumValueDefinition) : List Leaf :=
  value.directives.flatMap Annotation.leaves ++ value.location.leaves

/-- Whether no name stands twice in the tables of a value of an enum type. -/
def EnumValueDefinition.Tabled (value : EnumValueDefinition) : Prop :=
  ∀ a ∈ value.directives, a.Tabled

theorem EnumValueDefinition.restores {value : EnumValueDefinition} (tabled : value.Tabled)
    (storable : ∀ leaf ∈ value.leaves, leaf.Storable) :
  Json.Restores toJson ofJson? value
  := by
  obtain ⟨directives, location⟩ := List.forall_mem_append.mp storable
  have location := Location.restores location
  have deprecation := Json.restores_optionalString value.deprecation
  have description := Json.restores_optionalString value.description
  have directives := Json.Restores.array_of_leaves
    (fun a member => Annotation.restores (tabled a member)) directives
  have name := Json.restores_string value.name
  constructor
  · simp (disch := decide) only [toJson, ofJson?, Json.record_object, Json.get?_cons_self,
      Json.get?_cons_of_ne, Json.getOptional?_cons_self, Json.getOptional?_cons_of_ne,
      location.reads, deprecation.reads, description.reads, directives.reads, name.reads]
    rfl
  · apply Json.Exact.object
    · simp
    · simp only [List.forall_mem_cons]
      exact ⟨location.form, deprecation.form, description.form, directives.form, name.form,
        List.forall_mem_nil _⟩

/-! ### Types -/

namespace TypeDefinition

/-- The leaves of a type. -/
def leaves (type : TypeDefinition) : List Leaf :=
  type.fields.values.flatMap FieldDefinition.leaves
    ++ type.inputFields.values.flatMap InputDefinition.leaves
    ++ type.enumValues.values.flatMap EnumValueDefinition.leaves
    ++ type.interfaces.flatMap Reference.leaves ++ type.members.flatMap Reference.leaves
    ++ type.directives.flatMap Annotation.leaves ++ type.location.leaves

/-- Whether no name stands twice in the tables of a type and of its members. -/
structure Tabled (type : TypeDefinition) : Prop where
  directives : ∀ a ∈ type.directives, a.Tabled
  fields : type.fields.Registers FieldDefinition.name FieldDefinition.Tabled
  inputFields : type.inputFields.Registers InputDefinition.name InputDefinition.Tabled
  enumValues : type.enumValues.Registers EnumValueDefinition.name EnumValueDefinition.Tabled

theorem restores {type : TypeDefinition} (tabled : type.Tabled)
    (storable : ∀ leaf ∈ type.leaves, leaf.Storable) :
  Json.Restores toJson ofJson? type
  := by
  simp only [leaves, List.forall_mem_append] at storable
  obtain ⟨⟨⟨⟨⟨⟨fields, inputFields⟩, enumValues⟩, interfaces⟩, members⟩, directives⟩, location⟩ :=
    storable
  have bindTo := Json.restores_optionalString type.bindTo
  have location := Location.restores location
  have description := Json.restores_optionalString type.description
  have directives := Json.Restores.array_of_leaves
    (fun a member => Annotation.restores (tabled.directives a member)) directives
  have enumValues := Json.Restores.table_of_leaves tabled.enumValues EnumValueDefinition.restores
    enumValues
  have fields := Json.Restores.table_of_leaves tabled.fields FieldDefinition.restores fields
  have inputFields := Json.Restores.table_of_leaves tabled.inputFields InputDefinition.restores
    inputFields
  have interfaces := Json.Restores.array_of_leaves (fun _ _ => Reference.restores) interfaces
  have kind := type.kind.restores
  have name := Json.restores_string type.name
  have members := Json.Restores.array_of_leaves (fun _ _ => Reference.restores) members
  constructor
  · simp (disch := decide) only [toJson, ofJson?, Json.record_object, Json.get?_cons_self,
      Json.get?_cons_of_ne, Json.getOptional?_cons_self, Json.getOptional?_cons_of_ne, bindTo.reads,
      location.reads, description.reads, directives.reads, enumValues.reads, fields.reads,
      inputFields.reads, interfaces.reads, kind.reads, name.reads, members.reads]
    rfl
  · apply Json.Exact.object
    · simp
    · simp only [List.forall_mem_cons]
      exact ⟨bindTo.form, location.form, description.form, directives.form, enumValues.form,
        fields.form, inputFields.form, interfaces.form, kind.form, name.form, members.form,
        List.forall_mem_nil _⟩

end TypeDefinition

end LinkedSchema
