import LinkedSchema.OrderedMap
import LinkedSchema.Number.Shortest

/-!
# JSON

A `Json` tree, which tells integers from numbers with a fraction, and its text.
-/

namespace LinkedSchema

/-- A JSON tree.  An object keeps the order of its entries. -/
inductive Json where
  | null
  | bool (value : Bool)
  | int (value : Int)
  | float (value : Binary64)
  | string (value : String)
  | array (items : List Json)
  | object (entries : List (String × Json))
deriving Inhabited

namespace Json

/-- The array of the forms of a list of things. -/
def arrayOf {α : Type} (form : α → Json) (items : List α) : Json := array (items.map form)

/-- The form of a thing that may be absent, which then is null. -/
def optional {α : Type} (form : α → Json) : Option α → Json
  | some item => form item
  | none => null

/-- The form of a text that may be absent. -/
def optionalString : Option String → Json := optional string

/-- The form of a natural number. -/
def nat (n : Nat) : Json := int n

/-- The form of a number; one that is not finite has none and is null. -/
def number (x : Binary64) : Json :=
  match x.view with
  | .finite _ _ _ => float x
  | .infinite _ | .nan => null

/-- The object with the forms of the values of an ordered map. -/
def table {α : Type} (form : α → Json) (m : OrderedMap String α) : Json :=
  object (m.entries.map fun entry => (entry.1, form entry.2))

/-! ### Parts of a tree -/

/-- The value of a field of an object. -/
def field? (key : String) : Json → Option Json
  | object entries => OrderedMap.lookup key entries
  | _ => none

/-- The text that a tree is. -/
def string? : Json → Option String
  | string value => some value
  | _ => none

/-- The items that a tree is an array of. -/
def items? : Json → Option (List Json)
  | array items => some items
  | _ => none

/-- The object that a tree stands for: an array of the values of all fields of a thing, in order,
stands for the object with these fields. -/
def record (fields : List String) : Json → Json
  | array items => if items.length = fields.length then object (fields.zip items) else null
  | json => json

/-- The name of a choice without content, which may have null for its content. -/
def name? : Json → Option String
  | string name => some name
  | object [(name, null)] => some name
  | _ => none

/-- The integer that a tree is, if it is one of sixty-four bits without a sign. -/
def word? : Json → Option Nat
  | int n => if 0 ≤ n ∧ n < UInt64.size then some n.toNat else none
  | _ => none

/-- The truth value that a tree is. -/
def bool? : Json → Option Bool
  | bool value => some value
  | _ => none

/-! ### Text -/

/-- The characters that a letter after a backslash stands for, with their letters. -/
def escapes : List (Char × Char) := [
  ('"', '"'), ('\\', '\\'), ('\x08', 'b'), ('\x0c', 'f'), ('\n', 'n'), ('\r', 'r'), ('\t', 't')]

/-- The characters that stand for `c` within a JSON text. -/
def escape (c : Char) : List Char :=
  match OrderedMap.lookup c escapes with
  | some letter => ['\\', letter]
  | none =>
    if c.toNat < 32 then
      ['\\', 'u', '0', '0', Nat.digitChar (c.toNat / 16), Nat.digitChar (c.toNat % 16)]
    else [c]

/-- A text between quotes. -/
def quote (text : String) : String :=
  String.ofList ('"' :: text.toList.flatMap escape ++ ['"'])

/-- The text of a number with a fraction, which always shows a point. -/
def floatText (x : Binary64) : String :=
  if x.text.contains '.' then x.text else x.text ++ ".0"

mutual

/-- The text of a tree. -/
def text : Json → String
  | null => "null"
  | bool value => if value then "true" else "false"
  | int value => toString value
  | float value => floatText value
  | string value => quote value
  | array items => "[" ++ textItems items ++ "]"
  | object entries => "\x7b" ++ textEntries entries ++ "\x7d"

/-- The text of the items of an array. -/
def textItems : List Json → String
  | [] => ""
  | [item] => item.text
  | item :: rest => item.text ++ "," ++ textItems rest

/-- The text of the entries of an object. -/
def textEntries : List (String × Json) → String
  | [] => ""
  | [(key, value)] => quote key ++ ":" ++ value.text
  | (key, value) :: rest => quote key ++ ":" ++ value.text ++ "," ++ textEntries rest

end

end Json

end LinkedSchema
