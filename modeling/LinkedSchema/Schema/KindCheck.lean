import LinkedSchema.Schema.Bindings

/-!
# Checking kinds

Every reference must be bound to a type of a kind that may stand where the reference does:
interfaces are implemented, unions have object types as members, fields have output types, and
arguments and input fields have input types.
-/

namespace LinkedSchema

namespace KindCheck

/-- The kind of the type that a reference is bound to. -/
def kindOf? (types : TypeTable) (bindings : Bindings) (reference : Reference) : Option Kind :=
  ((bindings.get? reference.symbol).bind types.entryAt?).map fun entry => entry.2.kind

/-- A fault if a reference is not bound to a type of a kind that satisfies `legal`. -/
def check (types : TypeTable) (bindings : Bindings) (legal : Kind → Bool)
    (fault : Reference → Fault) (reference : Reference) : List Fault :=
  match kindOf? types bindings reference with
  | some kind => if legal kind then [] else [fault reference]
  | none => [fault reference]

/-- The fault of an argument or input field at a path whose type is no input type. -/
def inputFaults (types : TypeTable) (bindings : Bindings) (owner : Path)
    (segment : String → Segment) (table : OrderedMap String InputDefinition) : List Fault :=
  table.entries.flatMap fun (name, input) =>
    check types bindings Kind.isInput
      (fun reference =>
        .notInput (owner ++ [segment name]) reference.name reference.location)
      input.type.innermost

/-- The faults of a field and its arguments. -/
def fieldFaults (types : TypeTable) (bindings : Bindings) (owner : Path)
    (name : String) (field : FieldDefinition) : List Fault :=
  let path := owner ++ [.field name]
  check types bindings Kind.isOutput
      (fun reference => .notOutput path reference.name reference.location)
      field.type.innermost
    ++ inputFaults types bindings path .argument field.arguments

/-- The faults of a type. -/
def typeFaults (types : TypeTable) (bindings : Bindings) (type : TypeDefinition) :
    List Fault :=
  let path : Path := [.type type.kind type.name]
  type.interfaces.flatMap (check types bindings (· == .interface)
      fun reference => .notInterface type.name reference.name reference.location)
    ++ type.members.flatMap (check types bindings (· == .object)
      fun reference => .notMember type.name reference.name reference.location)
    ++ type.fields.entries.flatMap (fun (name, field) =>
      fieldFaults types bindings path name field)
    ++ inputFaults types bindings path .inputField type.inputFields

/-- The faults of all references: those of the types, then those of directives. -/
def faults (types : TypeTable) (bindings : Bindings) (directives : DirectiveTable) :
    List Fault :=
  types.values.flatMap (typeFaults types bindings)
    ++ directives.values.flatMap fun directive =>
      inputFaults types bindings [.directive directive.name] .argument directive.arguments

end KindCheck

end LinkedSchema
