import LinkedSchema.Cache.Basic
import LinkedSchema.Document.Executable
import LinkedSchema.Fingerprint

/-!
# Document caches

A `DocumentCache` keeps executable documents that have been parsed, under an id that the caller
chooses or under the fingerprint of their text.  A document carries the serial number of its
parsing, by which it can be seen whether two answers share it.
-/

namespace LinkedSchema

/-- A parsed document; `serial` counts the parsings of the cache before it. -/
structure SharedDocument where
  serial : Nat
  definitions : List Document.Executable
deriving Inhabited

/-- A document of an id that breaks the grammar at a position. -/
structure DocumentFault where
  id : String
  position : Position
deriving DecidableEq, Inhabited

/-- The text of a fault in a document. -/
def DocumentFault.message (fault : DocumentFault) : String :=
  "Error parsing document `" ++ fault.id ++ "`: query parse error: Parse error at "
    ++ fault.position.text

/-- The capacity of a document cache for which none is given. -/
def defaultCapacity : Nat := 100

/-- A cache of parsed documents, with the number of texts that it has parsed. -/
structure DocumentCache where
  cache : Cache SharedDocument DocumentFault
  parsed : Nat

namespace DocumentCache

/-- The document cache of a capacity, which must not be zero. -/
def new (capacity : Nat) : Except CacheFault DocumentCache :=
  (Cache.new capacity).map fun cache => ⟨cache, 0⟩

/-- What parsing a text under an id gives when nothing is cached. -/
def parseFresh (serial : Nat) (id source : String) : Except DocumentFault SharedDocument :=
  match Document.parseExecutable source with
  | .ok definitions => .ok ⟨serial, definitions⟩
  | .error position => .error ⟨id, position⟩

/-- How the factory ends that parses a text. -/
def parseOutcome (serial : Nat) (id source : String) : Outcome SharedDocument DocumentFault :=
  match parseFresh serial id source with
  | .ok document => .value document
  | .error fault => .error fault

/-- The document under an id; if there is none, the text is parsed and the document kept. -/
def parseAs (d : DocumentCache) (id source : String) :
    Except DocumentFault SharedDocument × DocumentCache :=
  let (outcome, ran, cache) :=
    d.cache.getOrCreate id fun cache => (parseOutcome d.parsed id source, (), cache)
  let parsed := if ran.isSome then d.parsed + 1 else d.parsed
  let result :=
    match outcome with
    | some (.value document) => .ok document
    | some (.error fault) => .error fault
    | some .unwound | none => parseFresh d.parsed id source
  (result, ⟨cache, parsed⟩)

/-- The document of a text, kept under its fingerprint. -/
def parse (d : DocumentCache) (source : String) :
    Except DocumentFault (String × SharedDocument) × DocumentCache :=
  let fingerprint := Fingerprint.ofText source
  let (result, d) := d.parseAs fingerprint source
  (result.map fun document => (fingerprint, document), d)

/-- Keeps a document under an id unless one is there, and says whether it did. -/
def add (d : DocumentCache) (id : String) (document : SharedDocument) : Bool × DocumentCache :=
  let (added, cache) := d.cache.add id document
  (added, { d with cache := cache })

/-- The document under an id, which is the most recently used then. -/
def get? (d : DocumentCache) (id : String) : Option SharedDocument × DocumentCache :=
  let (document, cache) := d.cache.get? id
  (document, { d with cache := cache })

/-- The cache without any documents. -/
def clear (d : DocumentCache) : DocumentCache := { d with cache := d.cache.clear }

/-- The number of documents kept. -/
def count (d : DocumentCache) : Nat := d.cache.size

/-- A line that sums a document cache up. -/
def summary (d : DocumentCache) : String :=
  "DocumentCache \x7b cache: " ++ d.cache.summary ++ " \x7d"

end DocumentCache

end LinkedSchema
