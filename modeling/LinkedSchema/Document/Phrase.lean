import LinkedSchema.Document.Reader
import LinkedSchema.Definition.TypeExpr
import LinkedSchema.Value

/-!
# Phrases

The parts that schema documents and executable documents share: values, types, and directives
that are applied to something.
-/

namespace LinkedSchema.Document

/-- A directive applied in a document, with its arguments as they are written there. -/
structure AppliedDirective where
  position : Position
  name : String
  arguments : List (String × Value)
deriving DecidableEq, Inhabited

/-- Entries in increasing order of their keys with one more entry, which replaces an entry of
the same key. -/
def putSorted (key : String) (value : Value) : List (String × Value) → List (String × Value)
  | [] => [(key, value)]
  | (k, v) :: rest =>
    if key = k then (key, value) :: rest
    else if key < k then (key, value) :: (k, v) :: rest
    else (k, v) :: putSorted key value rest

/-- The entries of an object in increasing order of their keys; of a repeated key the last
value counts. -/
def sortEntries (entries : List (String × Value)) : List (String × Value) :=
  entries.foldl (fun sorted entry => putSorted entry.1 entry.2 sorted) []

namespace Reader

/-- Reads a name, a colon and a value. -/
def entry {α : Type} (value : Reader α) : Reader (String × α) := do
  let name ← name
  mark .colon
  return (name, ← value)

/-- The value that a name on its own stands for. -/
def valueOfName (name : String) : Value :=
  if name = "true" then .bool true
  else if name = "false" then .bool false
  else if name = "null" then .null
  else .enum name

/-- Reads a variable, which may not stand in a constant. -/
def variableRef (constant : Bool) : Reader Value := do
  if constant then fail
  else
    let _ ← next
    return .variableRef (← name)

/-- Reads a value; a constant holds no variables. -/
def value (constant : Bool) (room : Nat) : Reader Value := do
  match ← peek? with
  | some (.name name) =>
    let _ ← next
    return valueOfName name
  | some (.int n) =>
    let _ ← next
    return .int n
  | some (.float x) =>
    let _ ← next
    return .float x
  | some (.text text) =>
    let _ ← next
    return .string text
  | some (.mark .dollar) => variableRef constant
  | some (.mark .bracketOpen) =>
    match room with
    | 0 => fail
    | room + 1 =>
      let _ ← next
      return .list (← many .bracketClose (value constant room))
  | some (.mark .braceOpen) =>
    match room with
    | 0 => fail
    | room + 1 =>
      let _ ← next
      return .object (sortEntries (← many .braceClose (entry (value constant room))))
  | _ => fail

/-- Reads an equals sign and a constant, if the sign is next. -/
def defaultValue (room : Nat) : Reader (Option Value) := do
  if ← accept (.mark .equals) then return some (← value true room) else return none

/-- Wraps a type as non-null if an exclamation mark follows. -/
def bang (type : TypeExpr String) : Reader (TypeExpr String) := do
  if ← accept (.mark .bang) then return .nonNull type else return type

/-- Reads a type. -/
def type (room : Nat) : Reader (TypeExpr String) := do
  match ← peek? with
  | some (.name name) =>
    let _ ← next
    bang (.named name)
  | some (.mark .bracketOpen) =>
    match room with
    | 0 => fail
    | room + 1 =>
      let _ ← next
      let inner ← type room
      mark .bracketClose
      bang (.list inner)
  | _ => fail

/-- Reads the arguments given to a field or a directive, if there are any. -/
def arguments (room : Nat) : Reader (List (String × Value)) := do
  if (← peek?) = some (.mark .parenOpen) then
    bracket .parenOpen (fun room => atLeastOne .parenClose (entry (value false room))) room
  else return []

/-- Reads the directives applied to something. -/
def directives (room : Nat) : Reader (List AppliedDirective) := do
  go room (← get).lexemes.length
where
  go (room : Nat) : (count : Nat) → Reader (List AppliedDirective)
    | 0 => return []
    | count + 1 => do
      let position ← position
      if ← accept (.mark .atSign) then
        let name ← name
        let arguments ← arguments room
        return ⟨position, name, arguments⟩ :: (← go room count)
      else return []

end Reader

end LinkedSchema.Document
