import LinkedSchema.Cache.Documents

/-!
# The command line

`Request.parse?` reads the arguments of the program.  Options may stand anywhere after the name
of the command; an option that takes a list may be repeated and separates its items by commas.
-/

namespace LinkedSchema.Command

/-- What is to be validated, and how. -/
structure Settings where
  /-- The files and directories of the schema. -/
  paths : List String
  /-- The extensions by which files of the schema are found in a directory. -/
  extensions : List String := ["graphql", "graphqls"]
  /-- The files and directories of executable documents. -/
  documents : List String := []
  /-- The extensions by which executable documents are found in a directory. -/
  documentExtensions : List String := ["graphql", "gql"]
  /-- The number of parsed documents that are kept. -/
  capacity : Nat := defaultCapacity
  /-- Whether directives may stand at sites that their definitions do not list. -/
  lenient : Bool := false
deriving DecidableEq, Inhabited

/-- What the program is asked for. -/
inductive Request where
  | help
  | version
  | validate (settings : Settings)
deriving DecidableEq, Inhabited

/-- The arguments read so far; an absent one has not been given. -/
structure Given where
  paths : List String := []
  extensions : Option (List String) := none
  documents : List String := []
  documentExtensions : Option (List String) := none
  capacity : Option Nat := none
  lenient : Bool := false
deriving DecidableEq, Inhabited

/-- The settings that the given arguments make, if there is a path among them. -/
def Given.settings? (g : Given) : Option Settings :=
  if g.paths.isEmpty then none
  else some {
    paths := g.paths
    extensions := g.extensions.getD ["graphql", "graphqls"]
    documents := g.documents
    documentExtensions := g.documentExtensions.getD ["graphql", "gql"]
    capacity := g.capacity.getD defaultCapacity
    lenient := g.lenient }

/-- An option that takes a value. -/
inductive ValueOption where
  | capacity
  | documentExtensions
  | documents
  | extensions
deriving DecidableEq

/-- The option with a name. -/
def ValueOption.ofName? (name : String) : Option ValueOption :=
  if name = "--cache-capacity" then some .capacity
  else if name = "--document-file-exts" then some .documentExtensions
  else if name = "--documents" then some .documents
  else if name = "--graphql-file-exts" then some .extensions
  else none

/-- The natural number of sixty-four bits that a text is; a plus sign may stand before it. -/
def word? (text : String) : Option Nat :=
  let digits := match text.toList with
    | '+' :: rest => rest
    | cs => cs
  if digits.isEmpty then none
  else (Decimal.natOfDigits? digits).filter (· < UInt64.size)

/-- The given arguments with the value of an option. -/
def Given.set? (g : Given) (option : ValueOption) (value : String) : Option Given :=
  let items := value.splitOn ","
  match option with
  | .capacity => if g.capacity.isSome then none else
    (word? value).map fun capacity => { g with capacity := some capacity }
  | .documentExtensions =>
    some { g with documentExtensions := some (g.documentExtensions.getD [] ++ items) }
  | .documents =>
    if items.contains "" then none else some { g with documents := g.documents ++ items }
  | .extensions => some { g with extensions := some (g.extensions.getD [] ++ items) }

/-- The given arguments with one more path, which must not be empty. -/
def Given.addPath? (g : Given) (path : String) : Option Given :=
  if path = "" then none else some { g with paths := g.paths ++ [path] }

/-- Whether an argument looks like an option: it begins with a dash and is more than that. -/
def isOption (argument : String) : Bool :=
  match argument.toList with
  | '-' :: _ :: _ => true
  | _ => false

/-- An argument up to its first equals sign, and what follows the sign. -/
def splitValue (argument : String) : String × Option String :=
  let name := argument.toList.takeWhile (· ≠ '=')
  match argument.toList.dropWhile (· ≠ '=') with
  | [] => (argument, none)
  | _ :: value => (String.ofList name, some (String.ofList value))

/-- Whether an argument asks for help: by the name of the option, or by a group of letters of
which the first does. -/
def asksHelp (argument : String) : Bool :=
  argument = "--help" || argument.toList.take 2 = ['-', 'h']

/-- Reads the arguments of the command that validates. -/
def parseValidate (g : Given) : List String → Option Request
  | [] => g.settings?.map .validate
  | argument :: rest =>
    if argument = "--" then
      (rest.foldlM Given.addPath? g).bind fun g => g.settings?.map .validate
    else if asksHelp argument then some .help
    else if argument = "--warn-invalid-directive-locations" then
      if g.lenient then none else parseValidate { g with lenient := true } rest
    else if isOption argument then
      match ValueOption.ofName? (splitValue argument).1, (splitValue argument).2, rest with
      | none, _, _ => none
      | some option, some value, rest => (g.set? option value).bind fun g => parseValidate g rest
      | some _, none, [] => none
      | some option, none, value :: rest =>
        if isOption value then none
        else (g.set? option value).bind fun g => parseValidate g rest
    else (g.addPath? argument).bind fun g => parseValidate g rest

/-- Reads the letters of a group of short options; the result is what they ask for, or else
whether the program is to be verbose. -/
def parseLetters (verbose : Bool) : List Char → Option (Bool ⊕ Request)
  | [] => some (.inl verbose)
  | c :: rest =>
    if c = 'v' then if verbose then none else parseLetters true rest
    else if c = 'V' then some (.inr .version)
    else if c = 'h' then some (.inr .help)
    else none

/-- Reads the arguments of the program; `verbose` says whether it has been asked for. -/
def parseFrom (verbose : Bool) : List String → Option Request
  | [] => some .help
  | argument :: rest =>
    if argument = "validate" then parseValidate {} rest
    else if argument = "help" then
      if rest.isEmpty ∨ rest = ["validate"] ∨ rest = ["help"] then some .help else none
    else if argument = "--version" then some .version
    else if argument = "--help" then some .help
    else if argument = "--" then if rest.isEmpty then some .help else none
    else if argument = "--verbose" then if verbose then none else parseFrom true rest
    else
      match argument.toList with
      | '-' :: c :: letters =>
        if c = '-' then none
        else
          match parseLetters verbose (c :: letters) with
          | some (.inl verbose) => parseFrom verbose rest
          | some (.inr request) => some request
          | none => none
      | _ => none

/-- What the arguments of the program ask for, if they can be understood. -/
def Request.parse? (arguments : List String) : Option Request := parseFrom false arguments

end LinkedSchema.Command
