import LinkedSchema.Document.Scan

/-!
# Readers

A `Reader α` reads an `α` from the lexemes of a text, or fails at the position of the first
lexeme with which the text cannot go on.  Brackets may be nested up to `nesting` deep: readers
that open a bracket take the `room` that is left for it.
-/

namespace LinkedSchema.Document

/-- Reads an `α` from the front of an input; an error is the position of the fault. -/
abbrev Reader (α : Type) := StateT Input (Except Position) α

/-- How deep brackets may be nested. -/
def nesting : Nat := 50

namespace Reader

/-- Fails at the next lexeme. -/
def fail {α : Type} : Reader α := do throw (← get).position

/-- The position of the next lexeme. -/
def position : Reader Position := return (← get).position

/-- The next token, which stays in the input. -/
def peek? : Reader (Option Token) := return (← get).lexemes.head?.map Lexeme.token

/-- Takes the next token. -/
def next : Reader Token := do
  let input ← get
  match input.lexemes with
  | [] => fail
  | lexeme :: rest =>
    set { input with lexemes := rest }
    return lexeme.token

/-- Takes the given token if it is the next one, and says whether it was. -/
def accept (token : Token) : Reader Bool := do
  if (← peek?) = some token then
    let _ ← next
    return true
  else return false

/-- Takes the given token. -/
def expect (token : Token) : Reader Unit := do
  if (← peek?) = some token then
    let _ ← next
  else fail

/-- Takes a mark. -/
def mark (mark : Mark) : Reader Unit := expect (.mark mark)

/-- Takes a name. -/
def name : Reader String := do
  match ← peek? with
  | some (.name name) =>
    let _ ← next
    return name
  | _ => fail

/-- Takes a name that stands for something. -/
def nameOf {α : Type} (meaning? : String → Option α) : Reader α := do
  match ← peek? with
  | some (.name name) =>
    match meaning? name with
    | some meaning =>
      let _ ← next
      return meaning
    | none => fail
  | _ => fail

/-- Takes a text if it is next. -/
def text? : Reader (Option String) := do
  match ← peek? with
  | some (.text text) =>
    let _ ← next
    return some text
  | _ => return none

/-! ### Repetition -/

/-- Reads at most `count` items up to a closing mark, and the mark. -/
def upTo {α : Type} (close : Mark) (item : Reader α) : (count : Nat) → Reader (List α)
  | 0 => fail
  | count + 1 => do
    if ← accept (.mark close) then return []
    let first ← item
    return first :: (← upTo close item count)

/-- Reads items up to a closing mark, and the mark.  Every item takes a lexeme, so their
number is bounded by the lexemes of the input. -/
def many {α : Type} (close : Mark) (item : Reader α) : Reader (List α) := do
  upTo close item ((← get).lexemes.length + 1)

/-- Reads at least one item up to a closing mark, and the mark. -/
def atLeastOne {α : Type} (close : Mark) (item : Reader α) : Reader (List α) := do
  let first ← item
  return first :: (← many close item)

/-- Reads at most `count` items, each after a token `lead`. -/
def ledUpTo {α : Type} (lead : Token) (item : Reader α) : (count : Nat) → Reader (List α)
  | 0 => return []
  | count + 1 => do
    if ← accept lead then
      let first ← item
      return first :: (← ledUpTo lead item count)
    else return []

/-- Reads items, each after a token `lead`, as long as there are any. -/
def led {α : Type} (lead : Token) (item : Reader α) : Reader (List α) := do
  ledUpTo lead item (← get).lexemes.length

/-- Reads at least one item, with a token between any two. -/
def separated {α : Type} (between : Token) (item : Reader α) : Reader (List α) := do
  let first ← item
  return first :: (← led between item)

/-- Reads at most `count` items up to the end of the text. -/
def toEndUpTo {α : Type} (item : Reader α) : (count : Nat) → Reader (List α)
  | 0 => return []
  | count + 1 => do
    if (← get).lexemes.isEmpty && (← get).complete then return []
    let first ← item
    return first :: (← toEndUpTo item count)

/-- Reads at least one item up to the end of the text. -/
def toEnd {α : Type} (item : Reader α) : Reader (List α) := do
  let first ← item
  return first :: (← toEndUpTo item ((← get).lexemes.length + 1))

/-- Reads a bracket: the marks on both sides, and between them what `inside` reads with the
room that is left. -/
def bracket {α : Type} (opening : Mark) (inside : Nat → Reader α) : (room : Nat) → Reader α
  | 0 => fail
  | room + 1 => do
    mark opening
    inside room

/-- Reads a text from its beginning. -/
def parse {α : Type} (reader : Reader α) (text : String) : Except Position α :=
  (reader.run (scan text)).map Prod.fst

end Reader

end LinkedSchema.Document
