import LinkedSchema.Cache.Calls
import LinkedSchema.Cache.Documents

/-!
# Document requests in progress

Any number of requests may be in progress on one document cache.  A `DocumentRequest` is a call for
the id of its document, and an interleaving of requests is a list of `DocumentAction`, each of which
is an action on the cache (`DocumentAction.toAction`).
-/

namespace LinkedSchema

/-- A request to a document cache that may create a document. -/
inductive DocumentRequest where
  /-- The document of a text, kept under the fingerprint of the text. -/
  | parse (source : String)
  /-- The document under an id; if there is none, the text is parsed. -/
  | parseAs (id source : String)
  /-- The addition of a document under an id. -/
  | add (id : String) (document : SharedDocument)

namespace DocumentRequest

/-- The id under which the document of a request is kept. -/
def key : DocumentRequest → String
  | parse source => Fingerprint.ofText source
  | parseAs id _ | add id _ => id

/-- How the factory of a request ends; a document that it parses gets a serial number. -/
def outcome (serial : Nat) : DocumentRequest → Outcome SharedDocument DocumentFault
  | parse source => DocumentCache.parseOutcome serial (Fingerprint.ofText source) source
  | parseAs id source => DocumentCache.parseOutcome serial id source
  | add _ document => .value document

end DocumentRequest

/-- Something that happens to a document cache at one moment: a request begins or takes its next
step, or the cache is read, counted or cleared. -/
inductive DocumentAction where
  | begin (request : DocumentRequest) (serial : Nat)
  | advance (request : Nat)
  | get (id : String)
  | count
  | clear

namespace DocumentAction

/-- The action on the cache. -/
def toAction : DocumentAction → Action SharedDocument DocumentFault
  | begin request serial => .begin request.key (request.outcome serial)
  | advance request => .advance request
  | get id => .get id
  | count => .size
  | clear => .clear

/-- The request that begins, with the serial number for its document. -/
def begun? : DocumentAction → Option (DocumentRequest × Nat)
  | begin request serial => some (request, serial)
  | advance _ | get _ | count | clear => none

/-- The requests that begin, in order, each with the serial number for its document. -/
def begun (actions : List DocumentAction) : List (DocumentRequest × Nat) :=
  actions.filterMap begun?

/-- The requests that begin, in order. -/
def requests (actions : List DocumentAction) : List DocumentRequest := (begun actions).map Prod.fst

end DocumentAction

namespace DocumentCache

/-- What parsing a text gives without a cache, with its fingerprint. -/
def parseUncached (source : String) : Except DocumentFault (String × List Document.Executable) :=
  match Document.parseExecutable source with
  | .ok definitions => .ok (Fingerprint.ofText source, definitions)
  | .error position => .error ⟨Fingerprint.ofText source, position⟩

/-- What a request for the document of a text gives back if its call returns an outcome: nothing if
its factory unwound. -/
def answer? (source : String) (outcome : Outcome SharedDocument DocumentFault) :
    Option (Except DocumentFault (String × List Document.Executable)) :=
  match outcome with
  | .value document => some (.ok (Fingerprint.ofText source, document.definitions))
  | .error fault => some (.error fault)
  | .unwound => none

end DocumentCache

end LinkedSchema
