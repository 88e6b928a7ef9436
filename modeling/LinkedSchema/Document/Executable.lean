import LinkedSchema.Document.Definition

/-!
# Executable documents

Operations and fragments, which select fields.  `parseExecutable` reads an executable document,
or reports the position of its first fault.
-/

namespace LinkedSchema.Document

/-- What is selected: a field, a fragment by name, or a fragment in place. -/
inductive Selection where
  | field (name : String) (alias? : Option String) (arguments : List (String × Value))
      (directives : List AppliedDirective) (selections : List Selection)
  | spread (name : String) (directives : List AppliedDirective)
  | inline (on? : Option String) (directives : List AppliedDirective)
      (selections : List Selection)
deriving Inhabited

/-- A variable of an operation. -/
structure VariableNode where
  name : String
  type : TypeExpr String
  defaultValue : Option Value
deriving DecidableEq, Inhabited

/-- A definition of an executable document. -/
inductive Executable where
  | anonymous (selections : List Selection)
  | operation (operation : Operation) (name : Option String) (inputs : List VariableNode)
      (directives : List AppliedDirective) (selections : List Selection)
  | fragment (name on : String) (directives : List AppliedDirective)
      (selections : List Selection)
deriving Inhabited

/-- Whether a definition is an operation. -/
def Executable.isOperation : Executable → Bool
  | anonymous _ | operation .. => true
  | fragment .. => false

namespace Reader

/-! ### Selections -/

/-- Reads a name if it is next. -/
def name? : Reader (Option String) := do
  match ← peek? with
  | some (.name name) =>
    let _ ← next
    return some name
  | _ => return none

/-- Reads what follows the three dots of a fragment; `selections` reads what it selects in
place. -/
def fragmentUse (room : Nat) (selections : Reader (List Selection)) : Reader Selection := do
  if ← accept (.name "on") then
    let on ← name
    let directives ← directives room
    return .inline (some on) directives (← selections)
  else
    match ← name? with
    | some name => return .spread name (← directives room)
    | none =>
      let directives ← directives room
      return .inline none directives (← selections)

/-- Reads a selection; `selections` reads what is selected within it. -/
def selection (room : Nat) (selections : Reader (List Selection)) : Reader Selection := do
  if ← accept (.mark .spread) then fragmentUse room selections
  else
    let first ← name
    let second ← if ← accept (.mark .colon) then some <$> name else pure none
    let arguments ← arguments room
    let directives ← directives room
    let inner ← if (← peek?) = some (.mark .braceOpen) then selections else pure []
    match second with
    | some name => return .field name (some first) arguments directives inner
    | none => return .field first none arguments directives inner

/-- Reads selections between braces. -/
def selections : (room : Nat) → Reader (List Selection)
  | 0 => fail
  | room + 1 => do
    mark .braceOpen
    atLeastOne .braceClose (selection room (selections room))

/-! ### Definitions -/

/-- Reads a variable. -/
def variableNode (room : Nat) : Reader VariableNode := do
  mark .dollar
  let name ← name
  mark .colon
  let type ← type room
  return ⟨name, type, ← defaultValue room⟩

/-- Reads the variables of an operation, if there are any. -/
def variableNodes : Reader (List VariableNode) := do
  if (← peek?) = some (.mark .parenOpen) then
    bracket .parenOpen (fun room => atLeastOne .parenClose (variableNode room)) nesting
  else return []

/-- What the keyword of an executable definition announces: an operation, or a fragment. -/
def executableOf? (keyword : String) : Option (Option Operation) :=
  if keyword = "fragment" then some none else (Operation.ofKeyword? keyword).map some

/-- Reads an executable definition. -/
def executable : Reader Executable := do
  if (← peek?) = some (.mark .braceOpen) then
    return .anonymous (← selections nesting)
  match ← nameOf executableOf? with
  | some operation =>
    let name ← name?
    let inputs ← variableNodes
    let directives ← directives nesting
    return .operation operation name inputs directives (← selections nesting)
  | none =>
    let name ← name
    expect (.name "on")
    let on ← Reader.name
    let directives ← directives nesting
    return .fragment name on directives (← selections nesting)

end Reader

/-- Reads an executable document. -/
def parseExecutable (text : String) : Except Position (List Executable) :=
  Reader.parse (Reader.toEnd Reader.executable) text

end LinkedSchema.Document
