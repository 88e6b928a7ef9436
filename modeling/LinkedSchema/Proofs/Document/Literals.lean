import LinkedSchema.Proofs.Document.Readers
import LinkedSchema.Proofs.Value.Parts

/-!
# Literals of documents

What holds of all values that are read holds of all literals of a document
(`Document.allLiterals_of_parseSchema`).  No key stands twice in a value that is read, since the
entries of an object are sorted by their keys as they are read (`Document.Reader.gives_value`).
-/

namespace LinkedSchema.Document

/-! ### Objects -/

theorem mem_putSorted {key : String} {value : Value} {entries : List (String × Value)}
    {entry : String × Value} (member : entry ∈ putSorted key value entries) :
  entry = (key, value) ∨ entry ∈ entries
  := by
  induction entries with
  | nil => exact .inl (List.mem_singleton.mp member)
  | cons first rest ih =>
    obtain ⟨k, v⟩ := first
    rw [putSorted] at member
    split at member
    · exact (List.mem_cons.mp member).imp_right (List.mem_cons_of_mem _)
    · split at member
      · exact List.mem_cons.mp member
      · rcases List.mem_cons.mp member with rfl | later
        · exact .inr List.mem_cons_self
        · exact (ih later).imp_right (List.mem_cons_of_mem _)

/-- Entries in increasing order of their keys stay so when one is put among them. -/
theorem pairwise_putSorted (key : String) (value : Value) {entries : List (String × Value)}
    (increasing : entries.Pairwise fun entry other => entry.1 < other.1) :
  (putSorted key value entries).Pairwise fun entry other => entry.1 < other.1
  := by
  induction entries with
  | nil => exact List.pairwise_singleton _ _
  | cons first rest ih =>
    obtain ⟨k, v⟩ := first
    obtain ⟨least, others⟩ := List.pairwise_cons.mp increasing
    rw [putSorted]
    split
    · next same =>
      subst same
      exact List.pairwise_cons.mpr ⟨least, others⟩
    · next different =>
      split
      · next before =>
        refine List.pairwise_cons.mpr ⟨?_, increasing⟩
        intro entry member
        rcases List.mem_cons.mp member with rfl | later
        · exact before
        · exact String.lt_trans before (least entry later)
      · next not_before =>
        refine List.pairwise_cons.mpr ⟨?_, ih others⟩
        intro entry member
        rcases mem_putSorted member with rfl | own
        · exact Std.lt_of_le_of_ne (String.not_lt.mp not_before) (Ne.symm different)
        · exact least entry own

/-- The entries of an object are among those that are written, and no key stands twice among
them. -/
theorem sortEntries_spec (entries : List (String × Value)) :
  ((sortEntries entries).map Prod.fst).Nodup ∧ ∀ entry ∈ sortEntries entries, entry ∈ entries
  := by
  have sorted : (sortEntries entries).Pairwise (fun entry other => entry.1 < other.1)
      ∧ ∀ entry ∈ sortEntries entries, entry ∈ entries := by
    rw [sortEntries]
    apply List.foldlRecOn (motive := fun sorted : List (String × Value) =>
      (sorted.Pairwise fun entry other => entry.1 < other.1) ∧ ∀ entry ∈ sorted, entry ∈ entries)
    · exact ⟨List.Pairwise.nil, nofun⟩
    · rintro sorted ⟨increasing, own⟩ entry member
      use pairwise_putSorted entry.1 entry.2 increasing
      intro other put
      rcases mem_putSorted put with rfl | before
      · apply member
      · apply own other before
  obtain ⟨increasing, own⟩ := sorted
  refine ⟨?_, own⟩
  apply List.pairwise_map.mpr
  apply increasing.imp
  rintro entry other less same
  rw [same] at less
  exact String.lt_irrefl _ less

namespace Reader

/-! ### Values -/

open Value (Everywhere Tabled)

/-- The value of a name is neither a list nor an object. -/
theorem everywhere_tabled_valueOfName (name : String) :
  (valueOfName name).Everywhere Tabled
  := by
  rw [valueOfName]
  split
  · exact .of_atom nofun nofun trivial
  · split
    · exact .of_atom nofun nofun trivial
    · split
      · exact .of_atom nofun nofun trivial
      · exact .of_atom nofun nofun trivial

theorem gives_variableRef (constant : Bool) :
  (variableRef constant).Gives (Everywhere Tabled)
  := by
  rw [variableRef]
  split
  · apply Gives.fail
  · apply Gives.after
    intro dollar
    apply Gives.after
    intro name
    exact .pure (.of_atom nofun nofun trivial)

/-- No key stands twice in a value that is read. -/
theorem gives_value (constant : Bool) (room : Nat) :
  (value constant room).Gives (Everywhere Tabled)
  := by
  rw [value.eq_def]
  apply Gives.after
  intro token
  -- A name, an integer, a fraction, a text, a variable, a list, an object, and anything else.
  split
  · exact .pure_after (everywhere_tabled_valueOfName _)
  · exact .pure_after (.of_atom nofun nofun trivial)
  · exact .pure_after (.of_atom nofun nofun trivial)
  · exact .pure_after (.of_atom nofun nofun trivial)
  · apply gives_variableRef
  · cases room with
    | zero => apply Gives.fail
    | succ room =>
      apply Gives.after
      intro taken
      apply ((gives_value constant room).many .bracketClose).bind
      intro items all
      apply Gives.pure
      exact Everywhere.list_iff.mpr ⟨trivial, all⟩
  · cases room with
    | zero => apply Gives.fail
    | succ room =>
      apply Gives.after
      intro taken
      apply ((gives_value constant room).entry.many .braceClose).bind
      intro entries all
      apply Gives.pure
      obtain ⟨distinct, own⟩ := sortEntries_spec entries
      exact Everywhere.object_iff.mpr ⟨distinct, fun entry member => all entry (own entry member)⟩
  · apply Gives.fail

end Reader

/-! ### Literals -/

variable {P : Value → Prop}

/-- Whether something is so of all arguments given to a directive. -/
def AppliedDirective.AllLiterals (P : Value → Prop) (d : AppliedDirective) : Prop :=
  ∀ entry ∈ d.arguments, P entry.2

/-- Whether something is so of the default and of all literals in the directives of an argument or
input field. -/
structure InputNode.AllLiterals (P : Value → Prop) (node : InputNode) : Prop where
  defaultValue : ∀ value ∈ node.defaultValue, P value
  directives : ∀ d ∈ node.directives, d.AllLiterals P

/-- Whether something is so of all literals in the arguments and the directives of a field. -/
structure FieldNode.AllLiterals (P : Value → Prop) (node : FieldNode) : Prop where
  arguments : ∀ argument ∈ node.arguments, argument.AllLiterals P
  directives : ∀ d ∈ node.directives, d.AllLiterals P

/-- Whether something is so of all literals in the directives of a value of an enum type. -/
def EnumValueNode.AllLiterals (P : Value → Prop) (node : EnumValueNode) : Prop :=
  ∀ d ∈ node.directives, d.AllLiterals P

/-- Whether something is so of all literals in the members of a type. -/
structure TypeBody.AllLiterals (P : Value → Prop) (body : TypeBody) : Prop where
  fields : ∀ field ∈ body.fields, field.AllLiterals P
  inputFields : ∀ field ∈ body.inputFields, field.AllLiterals P
  values : ∀ value ∈ body.values, value.AllLiterals P

/-- Whether something is so of all literals in a type or an extension. -/
structure TypeNode.AllLiterals (P : Value → Prop) (node : TypeNode) : Prop where
  directives : ∀ d ∈ node.directives, d.AllLiterals P
  body : node.body.AllLiterals P

/-- Whether something is so of all literals in a definition. -/
def Definition.AllLiterals (P : Value → Prop) : Definition → Prop
  | schema node => ∀ d ∈ node.directives, d.AllLiterals P
  | type node | extension node => node.AllLiterals P
  | directive node => ∀ argument ∈ node.arguments, argument.AllLiterals P

namespace Reader

section Readers

variable (values : ∀ constant room, (value constant room).Gives P)

include values

theorem gives_defaultValue (room : Nat) :
  (defaultValue room).Gives fun given => ∀ value ∈ given, P value
  := by
  apply Gives.after
  intro equals
  split
  · apply (values true room).bind
    rintro value holds
    apply Gives.pure
    rintro _ ⟨⟩
    apply holds
  · apply Gives.pure
    nofun

theorem gives_arguments (room : Nat) :
  (arguments room).Gives fun given => ∀ entry ∈ given, P entry.2
  := .optionalBracket (fun room => (values false room).entry) .parenOpen .parenClose room

theorem gives_directives (room : Nat) :
  (directives room).Gives fun given => ∀ d ∈ given, d.AllLiterals P
  := by
  have each (count : Nat) : (directives.go room count).Gives
      fun given => ∀ d ∈ given, d.AllLiterals P := by
    induction count with
    | zero =>
      apply Gives.pure
      nofun
    | succ count ih =>
      apply Gives.after
      intro position
      apply Gives.after
      intro marked
      split
      · apply Gives.after
        intro name
        apply (gives_arguments values room).bind
        intro arguments all
        apply ih.bind
        intro others rest
        apply Gives.pure
        exact List.forall_mem_cons.mpr ⟨all, rest⟩
      · apply Gives.pure
        nofun
  apply Gives.after
  intro input
  apply each

theorem gives_inputNode (room : Nat) :
  (inputNode room).Gives (InputNode.AllLiterals P)
  := by
  refine .after fun _ => .after fun _ => .after fun _ => .after fun _ => .after fun _ => ?_
  apply (gives_defaultValue values room).bind
  intro defaultValue own
  apply (gives_directives values room).bind
  intro directives applied
  exact .pure ⟨own, applied⟩

theorem gives_argumentNodes (room : Nat) :
  (argumentNodes room).Gives fun given => ∀ argument ∈ given, argument.AllLiterals P
  := .optionalBracket (gives_inputNode values) .parenOpen .parenClose room

theorem gives_fieldNode (room : Nat) :
  (fieldNode room).Gives (FieldNode.AllLiterals P)
  := by
  refine .after fun _ => .after fun _ => .after fun _ => ?_
  apply (gives_argumentNodes values room).bind
  intro arguments own
  refine .after fun _ => .after fun _ => ?_
  apply (gives_directives values room).bind
  intro directives applied
  exact .pure ⟨own, applied⟩

theorem gives_enumValueNode (room : Nat) :
  (enumValueNode room).Gives (EnumValueNode.AllLiterals P)
  := by
  refine .after fun _ => .after fun _ => .after fun _ => ?_
  apply (gives_directives values room).bind
  intro directives applied
  exact .pure applied

theorem gives_typeNode (position : Position) (description : Option String) (kind : Kind) :
  (typeNode position description kind).Gives (TypeNode.AllLiterals P)
  := by
  have directives := gives_directives values nesting
  apply Gives.after
  intro name
  cases kind with
  | scalar =>
    apply directives.bind
    intro given applied
    exact .pure ⟨applied, nofun, nofun, nofun⟩
  | object | interface =>
    apply Gives.after
    intro interfaces
    apply directives.bind
    intro given applied
    apply (Gives.block (gives_fieldNode values) nesting).bind
    intro fields own
    exact .pure ⟨applied, own, nofun, nofun⟩
  | union =>
    apply directives.bind
    intro given applied
    apply Gives.after
    intro members
    exact .pure ⟨applied, nofun, nofun, nofun⟩
  | enum =>
    apply directives.bind
    intro given applied
    apply (Gives.block (gives_enumValueNode values) nesting).bind
    intro enumValues own
    exact .pure ⟨applied, nofun, nofun, own⟩
  | inputObject =>
    apply directives.bind
    intro given applied
    apply (Gives.block (gives_inputNode values) nesting).bind
    intro fields own
    exact .pure ⟨applied, nofun, own, nofun⟩

theorem gives_extensionNode :
  extensionNode.Gives (TypeNode.AllLiterals P)
  := by
  refine .after fun _ => .after fun _ => ?_
  apply (gives_typeNode values _ none _).bind
  intro node all
  split
  · apply Gives.throw
  · exact .pure all

theorem gives_schemaNode (position : Position) :
  (schemaNode position).Gives fun node => ∀ d ∈ node.directives, d.AllLiterals P
  := by
  apply (gives_directives values nesting).bind
  intro directives applied
  apply Gives.after
  intro entries
  split
  · exact .pure applied
  · apply Gives.throw

theorem gives_directiveNode (position : Position) (description : Option String) :
  (directiveNode position description).Gives
    fun node => ∀ argument ∈ node.arguments, argument.AllLiterals P
  := by
  refine .after fun _ => .after fun _ => ?_
  apply (gives_argumentNodes values nesting).bind
  intro arguments own
  refine .after fun _ => .after fun _ => .after fun _ => ?_
  exact .pure own

theorem gives_definition :
  definition.Gives (Definition.AllLiterals P)
  := by
  refine .after fun _ => .after fun _ => .after fun opening => ?_
  cases opening with
  | schema =>
    apply (gives_schemaNode values _).bind
    intro node all
    exact .pure all
  | extension =>
    apply (gives_extensionNode values).bind
    intro node all
    exact .pure all
  | directive =>
    apply (gives_directiveNode values _ _).bind
    intro node all
    exact .pure all
  | type kind =>
    apply (gives_typeNode values _ _ kind).bind
    intro node all
    exact .pure all

end Readers

end Reader

/-- What holds of all values that are read holds of all literals of a document. -/
theorem allLiterals_of_parseSchema
    (values : ∀ constant room, (Reader.value constant room).Gives P) {text : String}
    {ds : List Definition} (parsed : parseSchema text = .ok ds) :
  ∀ d ∈ ds, d.AllLiterals P
  := by
  apply Reader.Gives.of_parse _ parsed
  apply (Reader.gives_definition values).toEnd

end LinkedSchema.Document
