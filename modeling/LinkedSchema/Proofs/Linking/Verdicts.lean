import LinkedSchema.Proofs.Linking.Annotations
import LinkedSchema.Proofs.Linking.Mentions
import LinkedSchema.Proofs.Loading.Histories
import LinkedSchema.Proofs.Loading.WellFormed
import Mathlib.Data.List.Dedup
import Mathlib.Data.List.Flatten
import Mathlib.Data.List.Perm.Basic

/-!
# Verdicts

What the checks of annotations and of kinds report, said of the tables alone and fault by fault.
The annotations are listed by what they stand on (`AnnotationCheck.annotated`), the references by
where they stand (`KindCheck.mentions`).  Each annotation of an undefined directive, each one at a
site that its directive does not list, each one but the first of a directive that may not be
repeated, and each reference that is bound to a type of an illegal kind makes one fault, and there
is no other (`verdicts_exact`).
-/

namespace LinkedSchema

/-! ### Rearrangements -/

/-- If the images of one member of a list without repetition differ by one element at the front, and
those of the others not at all, the collected images differ by that element. -/
theorem flatMap_perm_cons {α β : Type} {list : List α} (distinct : list.Nodup) {a : α}
    (member : a ∈ list) {f g : α → List β} {b : β} (here : f a = b :: g a)
    (elsewhere : ∀ other ∈ list, other ≠ a → f other = g other) :
  (list.flatMap f).Perm (b :: list.flatMap g)
  := by
  induction list with
  | nil => cases member
  | cons first rest ih =>
    obtain ⟨new, rest_distinct⟩ := List.nodup_cons.mp distinct
    obtain ⟨at_first, at_rest⟩ := List.forall_mem_cons.mp elsewhere
    rw [List.flatMap_cons, List.flatMap_cons]
    by_cases same : first = a
    · subst same
      have others : rest.flatMap f = rest.flatMap g := by
        apply List.flatMap_congr
        intro other later
        apply at_rest other later
        rintro rfl
        apply new later
      rw [here, others]
      rfl
    · rw [at_first same]
      have later : a ∈ rest := (List.mem_cons.mp member).resolve_left (Ne.symm same)
      apply ((ih rest_distinct later at_rest).append_left _).trans
      apply List.perm_middle

/-- The images of a list in two parts are, up to order, those of all first parts and those of all
second parts. -/
theorem flatMap_append_perm_of {α β : Type} {list : List α} {f g : α → List β} {fs gs : List β}
    (first : (list.flatMap f).Perm fs) (second : (list.flatMap g).Perm gs) :
  (list.flatMap fun a => f a ++ g a).Perm (fs ++ gs)
  := (List.flatMap_append_perm list f g).symm.trans (first.append second)

/-- To collect an image of each member that passes a test is to map those that do. -/
theorem flatMap_if_singleton {α β : Type} (list : List α) (test : α → Bool) (f : α → β) :
  (list.flatMap fun a => if test a then [f a] else []) = (list.filter test).map f
  := by
  induction list with
  | nil => rfl
  | cons a rest ih => cases passed : test a <;> simp [passed, ih]

/-! ### Annotations -/

namespace AnnotationCheck

open TypeDefinition (mayRepeat)

section Definitions

variable (directives : DirectiveTable) (severity : Severity)

/-- The annotations of each definition that may have some: of types, of fields, of arguments of
fields, of input fields, of enum values, and of arguments of directives. -/
def annotated (types : TypeTable) (directives : DirectiveTable) : List (List Annotation) :=
  let fields := types.values.flatMap fun type => type.fields.values
  types.values.map TypeDefinition.directives
    ++ fields.map FieldDefinition.directives
    ++ (fields.flatMap fun field => field.arguments.values).map InputDefinition.directives
    ++ (types.values.flatMap fun type => type.inputFields.values).map InputDefinition.directives
    ++ (types.values.flatMap fun type => type.enumValues.values).map EnumValueDefinition.directives
    ++ (directives.values.flatMap fun directive => directive.arguments.values).map
      InputDefinition.directives

/-- One fault for each annotation of a directive that is not defined. -/
def undefinedFaults (list : List Annotation) : List Fault :=
  (list.filter fun applied => (directives.get? applied.name).isNone).map fun applied =>
    .undefinedDirective applied.name applied.location

/-- One fault for each annotation of a directive that is defined but does not list the site, unless
these do not count. -/
def misplacedFaults (list : List Annotation) : List Fault :=
  match severity with
  | .warn => []
  | .error => list.filterMap fun applied => (directives.get? applied.name).bind fun directive =>
      if applied.site ∈ directive.sites then none
      else some (.misplacedDirective applied.name applied.site applied.ancestry directive.sites
        applied.location)

/-- Those of some annotations that have a name. -/
def named (name : String) (list : List Annotation) : List Annotation :=
  list.filter fun applied => applied.name = name

/-- For each directive that is applied and may not be repeated, one fault for each annotation of it
but the first. -/
def repeatedFaults (list : List Annotation) : List Fault :=
  (once directives (list.map Annotation.name)).dedup.flatMap fun name =>
    (named name list).tail.map fun applied => .repeatedDirective name applied.location

/-- The faults of the annotations of one definition, sort by sort. -/
def verdicts (list : List Annotation) : List Fault :=
  undefinedFaults directives list ++ misplacedFaults directives severity list
    ++ repeatedFaults directives list

end Definitions

section Repeated

/-- The annotations with a name that are not the first one, if the names seen before count. -/
def later (seen : List String) (name : String) (list : List Annotation) : List Annotation :=
  if name ∈ seen then named name list else (named name list).tail

/-- The faults of repeated annotations with certain names, if the names seen before count. -/
def laterFaults (seen names : List String) (list : List Annotation) : List Fault :=
  names.flatMap fun name =>
    (later seen name list).map fun applied => .repeatedDirective name applied.location

variable {seen names : List String} {applied : Annotation}

/-- An annotation is none of those with other names. -/
theorem later_cons_of_ne {name : String} (other : applied.name ≠ name) (list : List Annotation) :
  later seen name (applied :: list) = later seen name list
  := by rw [later, later, named, List.filter_cons_of_neg (by simpa using other), ← named]

/-- An annotation with a name that is not looked at makes no difference. -/
theorem laterFaults_cons_of_not_mem (unlisted : applied.name ∉ names) (list : List Annotation) :
  laterFaults seen names (applied :: list) = laterFaults seen names list
  := by
  apply List.flatMap_congr
  intro name member
  rw [later_cons_of_ne]
  rintro rfl
  apply unlisted member

/-- An annotation whose name has been seen makes one fault. -/
theorem laterFaults_cons_of_seen (distinct : names.Nodup) (listed : applied.name ∈ names)
    (known : applied.name ∈ seen) (list : List Annotation) :
  (laterFaults seen names (applied :: list)).Perm
    (.repeatedDirective applied.name applied.location :: laterFaults seen names list)
  := by
  apply flatMap_perm_cons distinct listed
  · rw [later, if_pos known, named, List.filter_cons_of_pos (by simp), ← named, later,
      if_pos known, List.map_cons]
  · intro name _ other
    rw [later_cons_of_ne (Ne.symm other)]

/-- The first annotation with a name makes no fault, but the later ones with the name do. -/
theorem laterFaults_cons_of_new (new : applied.name ∉ seen) (list : List Annotation) :
  laterFaults seen names (applied :: list) = laterFaults (seen ++ [applied.name]) names list
  := by
  apply List.flatMap_congr
  intro name _
  congr 1
  by_cases same : applied.name = name
  · subst same
    rw [later, if_neg new, named, List.filter_cons_of_pos (by simp), List.tail_cons, ← named,
      later, if_pos (by simp)]
  · rw [later_cons_of_ne same, later, later]
    simp [Ne.symm same]

end Repeated

variable (directives : DirectiveTable) (severity : Severity)

section Cons

variable {directives} {applied : Annotation}

/-- An annotation of a directive that is not defined makes a fault. -/
theorem undefinedFaults_cons_of_none (undefined : directives.get? applied.name = none)
    (list : List Annotation) :
  undefinedFaults directives (applied :: list)
    = .undefinedDirective applied.name applied.location :: undefinedFaults directives list
  := by simp [undefinedFaults, undefined]

/-- An annotation of a directive that is defined makes no fault of an undefined one. -/
theorem undefinedFaults_cons_of_some {directive : DirectiveDefinition}
    (found : directives.get? applied.name = some directive) (list : List Annotation) :
  undefinedFaults directives (applied :: list) = undefinedFaults directives list
  := by simp [undefinedFaults, found]

/-- An annotation of a directive that is not defined makes no fault of a misplaced one. -/
theorem misplacedFaults_cons_of_none (undefined : directives.get? applied.name = none)
    (list : List Annotation) :
  misplacedFaults directives severity (applied :: list) = misplacedFaults directives severity list
  := by cases severity <;> simp [misplacedFaults, undefined]

/-- An annotation of a directive that is defined makes the faults for its site that are found. -/
theorem misplacedFaults_cons_of_some {directive : DirectiveDefinition}
    (found : directives.get? applied.name = some directive) (list : List Annotation) :
  misplacedFaults directives severity (applied :: list)
    = misplaced severity directive applied ++ misplacedFaults directives severity list
  := by
  cases severity with
  | warn => simp [misplacedFaults, misplaced]
  | error =>
    simp only [misplacedFaults, misplaced, List.filterMap_cons, found, Option.bind_some,
      DirectiveDefinition.allows, List.contains_iff_mem]
    split <;> simp_all

end Cons

/-- The faults of the annotations of one definition are those of each sort, where an annotation of a
directive that may not be repeated counts from the second one on, or from the first one on if the
directive has been seen. -/
theorem definitionFaults_perm {names : List String} (distinct : names.Nodup)
    (may_not : ∀ name ∈ names, mayRepeat directives name = false) (seen : List String)
    (list : List Annotation) (listed : ∀ applied ∈ list,
      mayRepeat directives applied.name = false → applied.name ∈ names) :
  (definitionFaults directives severity seen list).Perm
    (undefinedFaults directives list ++ misplacedFaults directives severity list
      ++ laterFaults seen names list)
  := by
  -- The names seen so far vary: from the first annotation of a name on, all others count.
  induction list generalizing seen with
  | nil =>
    have none_later : laterFaults seen names [] = [] := by
      apply List.flatMap_eq_nil_iff.mpr
      intro name _
      rw [later]
      split <;> rfl
    rw [none_later]
    cases severity <;> apply List.Perm.refl
  | cons applied rest ih =>
    obtain ⟨first_listed, rest_listed⟩ := List.forall_mem_cons.mp listed
    have unlisted (may : mayRepeat directives applied.name = true) : applied.name ∉ names := by
      intro member
      rw [may_not _ member] at may
      cases may
    rw [definitionFaults]
    cases found : directives.get? applied.name with
    | none =>
      have unlisted := unlisted (by rw [mayRepeat, found])
      rw [undefinedFaults_cons_of_none found, misplacedFaults_cons_of_none severity found,
        laterFaults_cons_of_not_mem unlisted]
      apply (ih seen rest_listed).cons
    | some directive =>
      have repeats : mayRepeat directives applied.name = directive.repeatable := by
        rw [mayRepeat, found]
      rw [undefinedFaults_cons_of_some found, misplacedFaults_cons_of_some severity found,
        List.append_assoc, List.append_assoc]
      refine .trans ?_ (List.perm_append_comm_assoc _ _ _)
      apply List.Perm.append_left
      rw [← List.append_assoc]
      cases repeatable : directive.repeatable with
      | true =>
        have unlisted := unlisted (by rw [repeats, repeatable])
        rw [if_pos rfl, laterFaults_cons_of_not_mem unlisted]
        apply ih seen rest_listed
      | false =>
        have member := first_listed (by rw [repeats, repeatable])
        rw [if_neg Bool.false_ne_true]
        split
        · next known =>
          have known := List.contains_iff_mem.mp known
          have first_counts := laterFaults_cons_of_seen distinct member known rest
          refine .trans ?_ (first_counts.symm.append_left _)
          apply ((ih seen rest_listed).cons _).trans
          apply List.perm_middle.symm
        · next new =>
          have new := mt List.contains_iff_mem.mpr new
          rw [laterFaults_cons_of_new new]
          apply ih _ rest_listed

/-- The faults of the annotations of one definition are, up to order, those of each sort. -/
theorem definitionFaults_nil_perm (list : List Annotation) :
  (definitionFaults directives severity [] list).Perm (verdicts directives severity list)
  := by
  apply definitionFaults_perm directives severity (List.nodup_dedup _)
  · intro name member
    simpa using List.of_mem_filter (List.mem_dedup.mp member)
  · intro applied member may_not
    apply List.mem_dedup.mpr
    apply List.mem_filter.mpr
    rw [may_not]
    exact ⟨List.mem_map_of_mem member, rfl⟩

/-- The annotations that are looked at, one definition after another, are those of all
definitions. -/
theorem annotationLists_perm (types : TypeTable) :
  (types.values.flatMap annotationLists
    ++ directives.values.flatMap fun directive =>
      directive.arguments.values.map InputDefinition.directives).Perm (annotated types directives)
  := by
  have of_fields : ((types.values.flatMap fun type => type.fields.values).flatMap fun field =>
      [field.directives] ++ field.arguments.values.map InputDefinition.directives).Perm
        ((types.values.flatMap fun type => type.fields.values).map FieldDefinition.directives
          ++ ((types.values.flatMap fun type => type.fields.values).flatMap fun field =>
            field.arguments.values).map InputDefinition.directives) := by
    apply flatMap_append_perm_of
    · rw [← List.map_eq_flatMap]
    · rw [List.map_flatMap]
  rw [List.flatMap_assoc] at of_fields
  have of_types : (types.values.flatMap fun type => [type.directives]).Perm
      (types.values.map TypeDefinition.directives) := by
    rw [← List.map_eq_flatMap]
  rw [annotated, List.map_flatMap (l := directives.values)]
  apply List.Perm.append_right
  apply flatMap_append_perm_of
  · apply flatMap_append_perm_of
    · rw [List.append_assoc]
      exact flatMap_append_perm_of of_types of_fields
    · rw [List.map_flatMap]
  · rw [List.map_flatMap]

/-- The check of annotations reports the faults of each sort of the annotations of each definition,
and nothing else. -/
theorem faults_perm (types : TypeTable) :
  (faults directives severity types).Perm
    ((annotated types directives).flatMap (verdicts directives severity))
  := by
  apply ((annotationLists_perm directives types).flatMap_right _).trans
  apply List.Perm.flatMap_left
  intro list _
  apply definitionFaults_nil_perm

/-- What holds of the faults of each sort holds of all that the check of annotations reports. -/
theorem forall_mem_faults {P : Fault → Prop} (types : TypeTable)
    (undefined : ∀ name location, P (.undefinedDirective name location))
    (misplaced : ∀ name site ancestry allowed location,
      P (.misplacedDirective name site ancestry allowed location))
    (repeated : ∀ name location, P (.repeatedDirective name location)) :
  ∀ fault ∈ faults directives severity types, P fault
  := by
  intro fault member
  obtain ⟨list, -, member⟩ :=
    List.mem_flatMap.mp ((faults_perm directives severity types).mem_iff.mp member)
  rcases List.mem_append.mp member with member | member
  · rcases List.mem_append.mp member with member | member
    · obtain ⟨applied, -, rfl⟩ := List.mem_map.mp member
      apply undefined
    · cases severity with
      | warn => cases member
      | error =>
        obtain ⟨applied, -, found⟩ := List.mem_filterMap.mp member
        obtain ⟨directive, -, found⟩ := Option.bind_eq_some_iff.mp found
        split at found
        · cases found
        · cases found
          apply misplaced
  · obtain ⟨name, -, member⟩ := List.mem_flatMap.mp member
    obtain ⟨applied, -, rfl⟩ := List.mem_map.mp member
    apply repeated

end AnnotationCheck

/-! ### Kinds -/

namespace KindCheck

/-- What mentions a type: a type that implements it, a union that has it as a member, a field at a
path, or an argument or input field at a path. -/
inductive Mentioner where
  | implementer (type : String)
  | union (type : String)
  | field (path : Path)
  | input (path : Path)

/-- The role of a reference to a type that is mentioned. -/
def Mentioner.role : Mentioner → Role
  | implementer _ => .interface
  | union _ => .member
  | field _ => .output
  | input _ => .input

/-- The fault of a reference to a type of an illegal kind. -/
def Mentioner.fault (r : Reference) : Mentioner → Fault
  | implementer type => .notInterface type r.name r.location
  | union type => .notMember type r.name r.location
  | field path => .notOutput path r.name r.location
  | input path => .notInput path r.name r.location

/-- The references of arguments or input fields of the definition at a path. -/
def inputMentions (owner : Path) (segment : String → Segment)
    (table : OrderedMap String InputDefinition) : List (Mentioner × Reference) :=
  table.entries.map fun (name, input) => (.input (owner ++ [segment name]), input.type.innermost)

/-- The references to interfaces, to members of unions, and to the types of fields, of arguments of
fields, of input fields, and of arguments of directives. -/
def mentions (types : TypeTable) (directives : DirectiveTable) : List (Mentioner × Reference) :=
  (types.values.flatMap fun type => type.interfaces.map fun r => (.implementer type.name, r))
    ++ (types.values.flatMap fun type => type.members.map fun r => (.union type.name, r))
    ++ (types.values.flatMap fun type => type.fields.entries.map fun (name, field) =>
      (.field (type.path ++ [.field name]), field.type.innermost))
    ++ (types.values.flatMap fun type => type.fields.entries.flatMap fun (name, field) =>
      inputMentions (type.path ++ [.field name]) .argument field.arguments)
    ++ (types.values.flatMap fun type => inputMentions type.path .inputField type.inputFields)
    ++ directives.values.flatMap fun directive =>
      inputMentions [.directive directive.name] .argument directive.arguments

/-- The references of a type, as they are looked at. -/
def typeMentions (type : TypeDefinition) : List (Mentioner × Reference) :=
  type.interfaces.map (fun r => (.implementer type.name, r))
    ++ type.members.map (fun r => (.union type.name, r))
    ++ type.fields.entries.flatMap (fun (name, field) =>
      [(.field (type.path ++ [.field name]), field.type.innermost)]
        ++ inputMentions (type.path ++ [.field name]) .argument field.arguments)
    ++ inputMentions type.path .inputField type.inputFields

/-- The references that are looked at, one type or directive after another, are all references. -/
theorem typeMentions_perm (types : TypeTable) (directives : DirectiveTable) :
  (types.values.flatMap typeMentions
    ++ directives.values.flatMap fun directive =>
      inputMentions [.directive directive.name] .argument directive.arguments).Perm
        (mentions types directives)
  := by
  apply List.Perm.append_right
  apply flatMap_append_perm_of
  · rw [List.append_assoc]
    apply flatMap_append_perm_of
    · apply flatMap_append_perm_of
      · apply List.Perm.refl
      · apply List.Perm.refl
    · apply List.Perm.trans (List.Perm.flatMap_left _ _) (List.flatMap_append_perm _ _ _).symm
      intro type _
      apply flatMap_append_perm_of
      · rw [← List.map_eq_flatMap]
      · apply List.Perm.refl
  · apply List.Perm.refl

section Faults

variable (types : TypeTable) (bindings : Bindings)

/-- Whether a mention is of a type of a kind that may not stand there. -/
def illegal (mention : Mentioner × Reference) : Bool :=
  (kindOf? types bindings mention.2).any fun kind => !mention.1.role.legal kind

/-- What is reported of a mention. -/
def mentionFaults (mention : Mentioner × Reference) : List Fault :=
  check types bindings mention.1.role.legal mention.1.fault mention.2

/-- Of a mention of a type that is bound, its own fault is reported if the kind is illegal. -/
theorem mentionFaults_of_bound {mention : Mentioner × Reference}
    (bound : (kindOf? types bindings mention.2).isSome) :
  mentionFaults types bindings mention
    = if illegal types bindings mention then [mention.1.fault mention.2] else []
  := by
  obtain ⟨kind, found⟩ := Option.isSome_iff_exists.mp bound
  rw [mentionFaults, check, illegal, found]
  cases legal : mention.1.role.legal kind <;> simp [legal]

theorem inputFaults_eq (owner : Path) (segment : String → Segment)
    (table : OrderedMap String InputDefinition) :
  inputFaults types bindings owner segment table
    = (inputMentions owner segment table).flatMap (mentionFaults types bindings)
  := by
  rw [inputMentions, List.flatMap_map]
  rfl

theorem typeFaults_eq (type : TypeDefinition) :
  typeFaults types bindings type = (typeMentions type).flatMap (mentionFaults types bindings)
  := by
  simp only [typeFaults, fieldFaults, typeMentions, inputFaults_eq, List.flatMap_append,
    List.flatMap_map, List.flatMap_assoc, List.flatMap_singleton]
  rfl

/-- The check of kinds looks at one reference after another. -/
theorem faults_eq (directives : DirectiveTable) :
  faults types bindings directives
    = (types.values.flatMap typeMentions ++ directives.values.flatMap fun directive =>
      inputMentions [.directive directive.name] .argument directive.arguments).flatMap
        (mentionFaults types bindings)
  := by
  simp only [List.flatMap_append, List.flatMap_assoc, ← typeFaults_eq, ← inputFaults_eq]
  rfl

/-- If all references are bound, the check of kinds reports the fault of each one to a type of an
illegal kind, and nothing else. -/
theorem faults_perm (directives : DirectiveTable)
    (bound : ∀ mention ∈ mentions types directives, (kindOf? types bindings mention.2).isSome) :
  (faults types bindings directives).Perm
    (((mentions types directives).filter (illegal types bindings)).map fun mention =>
      mention.1.fault mention.2)
  := by
  rw [faults_eq, ← flatMap_if_singleton]
  apply ((typeMentions_perm types directives).flatMap_right _).trans
  apply List.Perm.flatMap_left
  intro mention member
  rw [mentionFaults_of_bound types bindings (bound mention member)]

/-- What holds of the faults of all references holds of all that the check of kinds reports. -/
theorem forall_mem_faults {P : Fault → Prop} (directives : DirectiveTable)
    (all : ∀ mentioner r, P (Mentioner.fault r mentioner)) :
  ∀ fault ∈ faults types bindings directives, P fault
  := by
  intro fault member
  rw [faults_eq] at member
  obtain ⟨mention, -, member⟩ := List.mem_flatMap.mp member
  rw [mentionFaults, check] at member
  split at member
  · split at member
    · cases member
    · rw [List.mem_singleton.mp member]
      apply all
  · rw [List.mem_singleton.mp member]
    apply all

end Faults

end KindCheck

/-! ### Both checks -/

/-- Up to order, the faults of annotations are one for each annotation of an undefined directive,
one for each at a site that its directive does not list, unless these do not count, and one for each
but the first of a directive that may not be repeated, of each definition that may be annotated; and
if all references are bound, the faults of kinds are one for each reference to a type of an illegal
kind. -/
theorem verdicts_exact (types : TypeTable) (directives : DirectiveTable) (severity : Severity)
    (bindings : Bindings) :
  (AnnotationCheck.faults directives severity types).Perm
      ((AnnotationCheck.annotated types directives).flatMap
        (AnnotationCheck.verdicts directives severity))
    ∧ ((∀ mention ∈ KindCheck.mentions types directives,
        (KindCheck.kindOf? types bindings mention.2).isSome) →
      (KindCheck.faults types bindings directives).Perm
        (((KindCheck.mentions types directives).filter (KindCheck.illegal types bindings)).map
          fun mention => mention.1.fault mention.2))
  := ⟨AnnotationCheck.faults_perm directives severity types,
    KindCheck.faults_perm types bindings directives⟩

namespace Loader

/-- A text with offences of all sorts. -/
def textWithOffences : String :=
  "directive@o on OBJECT directive@r(a:Query@o)repeatable on FIELD_DEFINITION "
    ++ "type Query@o@u@o@r@o{a(x:Query):I b:Int@o@r@r}input I{y:Query}"

/-- The faults of the annotations of that text: the directive that may not be repeated counts on the
type from its second annotation on, whatever stands between. -/
def annotationOffences : List Fault := [
  .undefinedDirective "u" (.source (some "s") ⟨1, 88⟩),
  .repeatedDirective "o" (.source (some "s") ⟨1, 90⟩),
  .misplacedDirective "r" .object [] [.fieldDefinition] (.source (some "s") ⟨1, 92⟩),
  .repeatedDirective "o" (.source (some "s") ⟨1, 94⟩),
  .misplacedDirective "o" .fieldDefinition [.type .object "Query"] [.object]
    (.source (some "s") ⟨1, 115⟩),
  .misplacedDirective "o" .argumentDefinition [.directive "r"] [.object]
    (.source (some "s") ⟨1, 42⟩)]

/-- The faults of the references of that text. -/
def kindOffences : List Fault := [
  .notOutput [.type .object "Query", .field "a"] "I" (.source (some "s") ⟨1, 97⟩),
  .notInput [.type .object "Query", .field "a", .argument "x"] "Query"
    (.source (some "s") ⟨1, 99⟩),
  .notInput [.type .inputObject "I", .inputField "y"] "Query" (.source (some "s") ⟨1, 130⟩),
  .notInput [.directive "r", .argument "a"] "Query" (.source (some "s") ⟨1, 35⟩)]

/-- Both checks report exactly the offences of that text, all of whose references are bound. -/
theorem verdicts_exact_offences :
  ∃ l bindings, (start {}).load (some "s") textWithOffences = .ok l
    ∧ l.registry.bind l.types = .ok bindings
    ∧ (∀ mention ∈ KindCheck.mentions l.types l.directives,
      (KindCheck.kindOf? l.types bindings mention.2).isSome)
    ∧ annotationOffences.Perm ((AnnotationCheck.annotated l.types l.directives).flatMap
      (AnnotationCheck.verdicts l.directives .error))
    ∧ kindOffences.Perm (((KindCheck.mentions l.types l.directives).filter
      (KindCheck.illegal l.types bindings)).map fun mention => mention.1.fault mention.2)
  := by
  have run : ((start {}).load (some "s") textWithOffences).toOption.any fun l =>
      (l.registry.bind l.types).toOption.any fun bindings =>
        decide ((∀ mention ∈ KindCheck.mentions l.types l.directives,
            (KindCheck.kindOf? l.types bindings mention.2).isSome)
          ∧ AnnotationCheck.faults l.directives .error l.types = annotationOffences
          ∧ KindCheck.faults l.types bindings l.directives = kindOffences) := by
    decide +kernel
  obtain ⟨l, loaded, run⟩ := Except.exists_ok_of_any run
  obtain ⟨bindings, bound, run⟩ := Except.exists_ok_of_any run
  obtain ⟨covered, annotations, kinds⟩ := of_decide_eq_true run
  obtain ⟨annotations_exact, kinds_exact⟩ := verdicts_exact l.types l.directives .error bindings
  have kinds_exact := kinds_exact covered
  rw [annotations] at annotations_exact
  rw [kinds] at kinds_exact
  exact ⟨l, bindings, loaded, bound, covered, annotations_exact, kinds_exact⟩

end Loader

end LinkedSchema
