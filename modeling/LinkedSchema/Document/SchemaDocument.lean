import LinkedSchema.Document.Definition

/-!
# Reading schema documents

`parseSchema` reads the definitions of a schema document, or reports the position of its first
fault.  Two faults show only when a definition has been read, and are reported where it starts:
a schema block that names no operation or one of them twice, and an extension without content.
-/

namespace LinkedSchema.Document

namespace Reader

/-! ### Arguments, fields and values -/

/-- Reads an argument or an input field. -/
def inputNode (room : Nat) : Reader InputNode := do
  let position ← position
  let description ← text?
  let name ← name
  mark .colon
  let type ← type room
  let defaultValue ← defaultValue room
  let directives ← directives room
  return ⟨position, description, name, type, defaultValue, directives⟩

/-- Reads the definitions of arguments, if there are any. -/
def argumentNodes (room : Nat) : Reader (List InputNode) := do
  if (← peek?) = some (.mark .parenOpen) then
    bracket .parenOpen (fun room => atLeastOne .parenClose (inputNode room)) room
  else return []

/-- Reads a field. -/
def fieldNode (room : Nat) : Reader FieldNode := do
  let position ← position
  let description ← text?
  let name ← name
  let arguments ← argumentNodes room
  mark .colon
  let type ← type room
  let directives ← directives room
  return ⟨position, description, name, arguments, type, directives⟩

/-- Reads a value of an enum type. -/
def enumValueNode (room : Nat) : Reader EnumValueNode := do
  let position ← position
  let description ← text?
  let name ← name
  let directives ← directives room
  return ⟨position, description, name, directives⟩

/-- Reads a block of items between braces, if there is one. -/
def block {α : Type} (item : Nat → Reader α) (room : Nat) : Reader (List α) := do
  if (← peek?) = some (.mark .braceOpen) then
    bracket .braceOpen (fun room => atLeastOne .braceClose (item room)) room
  else return []

/-! ### Types -/

/-- Reads the names of the interfaces that a type implements. -/
def interfaces : Reader (List String) := do
  if ← accept (.name "implements") then
    let _ ← accept (.mark .ampersand)
    separated (.mark .ampersand) name
  else return []

/-- Reads the names of the members of a union. -/
def members : Reader (List String) := do
  if ← accept (.mark .equals) then
    let _ ← accept (.mark .bar)
    separated (.mark .bar) name
  else return []

/-- Reads what follows the keyword of a type of the given kind: its name, its directives and
its body. -/
def typeNode (position : Position) (description : Option String) (kind : Kind) :
    Reader TypeNode := do
  let name ← name
  match kind with
  | .scalar =>
    let directives ← directives nesting
    return ⟨position, description, name, directives, .scalar⟩
  | .object =>
    let interfaces ← interfaces
    let directives ← directives nesting
    return ⟨position, description, name, directives,
      .object interfaces (← block fieldNode nesting)⟩
  | .interface =>
    let interfaces ← interfaces
    let directives ← directives nesting
    return ⟨position, description, name, directives,
      .interface interfaces (← block fieldNode nesting)⟩
  | .union =>
    let directives ← directives nesting
    return ⟨position, description, name, directives, .union (← members)⟩
  | .enum =>
    let directives ← directives nesting
    return ⟨position, description, name, directives,
      .enum (← block enumValueNode nesting)⟩
  | .inputObject =>
    let directives ← directives nesting
    return ⟨position, description, name, directives,
      .inputObject (← block inputNode nesting)⟩

/-- The kind of type that a keyword opens a definition of. -/
def kindOfKeyword? (keyword : String) : Option Kind :=
  Kind.all.find? (fun kind => kind.keyword == keyword)

/-- Reads an extension of a type, from the keyword after `extend` on. -/
def extensionNode : Reader TypeNode := do
  let position ← position
  let node ← typeNode position none (← nameOf kindOfKeyword?)
  if node.directives.isEmpty && !node.body.hasContent then throw position
  return node

/-! ### Directives and schema blocks -/

/-- Reads the sites of a directive, of which there may be none. -/
def sites : Reader (List Site) := do
  let site := nameOf Site.ofTag?
  if ← accept (.mark .bar) then separated (.mark .bar) site
  else
    match ← peek? with
    | some (.name _) => separated (.mark .bar) site
    | _ => return []

/-- Reads what follows the keyword of a directive. -/
def directiveNode (position : Position) (description : Option String) :
    Reader DirectiveNode := do
  mark .atSign
  let name ← name
  let arguments ← argumentNodes nesting
  let repeatable ← accept (.name "repeatable")
  expect (.name "on")
  return ⟨position, description, name, arguments, repeatable, ← sites⟩

/-- The operations and types of a schema block, if every name is that of an operation and no
operation is named twice. -/
def roots? : List (String × String) → Option (List (Operation × String))
  | [] => some []
  | (keyword, type) :: rest => do
    let operation ← Operation.ofKeyword? keyword
    let others ← roots? rest
    if others.any (fun root => root.1 == operation) then none
    else return (operation, type) :: others

/-- Reads what follows the keyword of a schema block. -/
def schemaNode (position : Position) : Reader SchemaNode := do
  let directives ← directives nesting
  let entries ← bracket .braceOpen (fun _ => many .braceClose (entry name)) nesting
  match roots? entries with
  | some roots => return ⟨position, directives, roots⟩
  | none => throw position

/-! ### Definitions -/

/-- What the keyword of a definition announces. -/
inductive Opening where
  | schema
  | extension
  | directive
  | type (kind : Kind)

/-- What a keyword announces; only types and directives may follow a description. -/
def openingOf? (described : Bool) (keyword : String) : Option Opening :=
  if keyword = "directive" then some .directive
  else if keyword = "schema" && !described then some .schema
  else if keyword = "extend" && !described then some .extension
  else (kindOfKeyword? keyword).map .type

/-- Reads a definition. -/
def definition : Reader Definition := do
  let description ← text?
  let position ← position
  match ← nameOf (openingOf? description.isSome) with
  | .schema => return .schema (← schemaNode position)
  | .extension => return .extension (← extensionNode)
  | .directive => return .directive (← directiveNode position description)
  | .type kind => return .type (← typeNode position description kind)

end Reader

/-- Reads a schema document. -/
def parseSchema (text : String) : Except Position (List Definition) :=
  Reader.parse (Reader.toEnd Reader.definition) text

end LinkedSchema.Document
