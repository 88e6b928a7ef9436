import LinkedSchema.OrderedMap
import LinkedSchema.Number.Shortest
import LinkedSchema.Text.Quoted

/-!
# Values

A `Value` is a literal of a document: an argument of a directive, or a default.  The entries of
an object keep their order, and no key is meant to stand twice.  `Value.text` writes a value as
a document does; `Value.same` compares values as numbers and tables, so that the order of the
entries of an object does not count.
-/

namespace LinkedSchema

/-- A literal value. -/
inductive Value where
  | bool (value : Bool)
  | enum (name : String)
  | float (value : Binary64)
  | int (value : Int)
  | list (items : List Value)
  | null
  | object (entries : List (String × Value))
  | string (value : String)
  | variableRef (name : String)
deriving Inhabited

namespace Value

/-- The text of a value that is a string. -/
def string? : Value → Option String
  | string value => some value
  | _ => none

/-! ### Decidable equality -/

mutual

/-- Whether two values are the same, entry by entry. -/
def decEq : (v w : Value) → Decidable (v = w)
  | bool a, bool b => decidable_of_iff (a = b) (by simp)
  | enum a, enum b => decidable_of_iff (a = b) (by simp)
  | float a, float b => decidable_of_iff (a = b) (by simp)
  | int a, int b => decidable_of_iff (a = b) (by simp)
  | list a, list b =>
    match decEqItems a b with
    | isTrue h => isTrue (by rw [h])
    | isFalse h => isFalse (by simpa using h)
  | null, null => isTrue rfl
  | object a, object b =>
    match decEqEntries a b with
    | isTrue h => isTrue (by rw [h])
    | isFalse h => isFalse (by simpa using h)
  | string a, string b => decidable_of_iff (a = b) (by simp)
  | variableRef a, variableRef b => decidable_of_iff (a = b) (by simp)
  | bool _, enum _ | bool _, float _ | bool _, int _ | bool _, list _ | bool _, null
  | bool _, object _ | bool _, string _ | bool _, variableRef _
  | enum _, bool _ | enum _, float _ | enum _, int _ | enum _, list _ | enum _, null
  | enum _, object _ | enum _, string _ | enum _, variableRef _
  | float _, bool _ | float _, enum _ | float _, int _ | float _, list _ | float _, null
  | float _, object _ | float _, string _ | float _, variableRef _
  | int _, bool _ | int _, enum _ | int _, float _ | int _, list _ | int _, null
  | int _, object _ | int _, string _ | int _, variableRef _
  | list _, bool _ | list _, enum _ | list _, float _ | list _, int _ | list _, null
  | list _, object _ | list _, string _ | list _, variableRef _
  | null, bool _ | null, enum _ | null, float _ | null, int _ | null, list _
  | null, object _ | null, string _ | null, variableRef _
  | object _, bool _ | object _, enum _ | object _, float _ | object _, int _
  | object _, list _ | object _, null | object _, string _ | object _, variableRef _
  | string _, bool _ | string _, enum _ | string _, float _ | string _, int _
  | string _, list _ | string _, null | string _, object _ | string _, variableRef _
  | variableRef _, bool _ | variableRef _, enum _ | variableRef _, float _
  | variableRef _, int _ | variableRef _, list _ | variableRef _, null
  | variableRef _, object _ | variableRef _, string _ => isFalse nofun

/-- Whether two lists of values are the same. -/
def decEqItems : (v w : List Value) → Decidable (v = w)
  | [], [] => isTrue rfl
  | [], _ :: _ => isFalse nofun
  | _ :: _, [] => isFalse nofun
  | v :: vs, w :: ws =>
    match decEq v w, decEqItems vs ws with
    | isTrue h, isTrue t => isTrue (by rw [h, t])
    | isFalse h, _ => isFalse (by simp [h])
    | _, isFalse t => isFalse (by simp [t])

/-- Whether two lists of entries are the same. -/
def decEqEntries : (v w : List (String × Value)) → Decidable (v = w)
  | [], [] => isTrue rfl
  | [], _ :: _ => isFalse nofun
  | _ :: _, [] => isFalse nofun
  | (k, v) :: vs, (l, w) :: ws =>
    match decEq v w, decEqEntries vs ws with
    | isTrue h, isTrue t => decidable_of_iff (k = l) (by simp [h, t])
    | isFalse h, _ => isFalse (by simp [h])
    | _, isFalse t => isFalse (by simp [t])

end

instance : DecidableEq Value := decEq

/-! ### Text -/

mutual

/-- The text of a value. -/
def text : Value → String
  | bool value => if value then "true" else "false"
  | enum name => name
  | float value => value.text
  | int value => toString value
  | list items => "[" ++ textItems items ++ "]"
  | null => "null"
  | object entries => "\x7b" ++ textEntries entries ++ "\x7d"
  | string value => Text.quote value
  | variableRef name => "$" ++ name

/-- The text of the items of a list. -/
def textItems : List Value → String
  | [] => ""
  | [item] => item.text
  | item :: rest => item.text ++ ", " ++ textItems rest

/-- The text of the entries of an object. -/
def textEntries : List (String × Value) → String
  | [] => ""
  | [(key, value)] => key ++ ": " ++ value.text
  | (key, value) :: rest => key ++ ": " ++ value.text ++ ", " ++ textEntries rest

end

/-! ### Comparison -/

mutual

/-- Whether two values are equal: numbers as numbers, objects without regard to order. -/
def same : Value → Value → Bool
  | bool a, bool b => a == b
  | enum a, enum b => a == b
  | float a, float b => a.same b
  | int a, int b => a == b
  | list a, list b => sameItems a b
  | null, null => true
  | object a, object b => a.length == b.length && sameEntries a b
  | string a, string b => a == b
  | variableRef a, variableRef b => a == b
  | _, _ => false

/-- Whether two lists have equal items in the same order. -/
def sameItems : List Value → List Value → Bool
  | [], [] => true
  | v :: vs, w :: ws => same v w && sameItems vs ws
  | _, _ => false

/-- Whether every entry of the first list has an equal value under its key in the second. -/
def sameEntries : List (String × Value) → List (String × Value) → Bool
  | [], _ => true
  | (key, v) :: rest, entries =>
    (match OrderedMap.lookup key entries with
      | some w => same v w
      | none => false) && sameEntries rest entries

end

end Value

end LinkedSchema
