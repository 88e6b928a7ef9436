import LinkedSchema.Cache.DocumentCalls
import LinkedSchema.Proofs.Cache.Waiters

/-!
# Transparent document caches

The calls of a run are those that begin in it, in order (`Calls.map_heading_run`).  If the ids that
are given to a document cache are none of the fingerprints of the texts that it is asked to parse,
and these are told apart by their fingerprints, then only parsing a text gives what is kept or
returned under its fingerprint.  Hence the cache is transparent (`DocumentAction.transparent_run`):
whatever else is in progress, a request for the document of a text gives what parsing the text
without a cache gives.
-/

namespace LinkedSchema

open OrderedMap (lookup)

/-! ### Calls of a run -/

section Headings

variable {ν ε : Type}

/-- The key of a call and the outcome of its factory. -/
def Call.heading (call : Call ν ε) : String × Outcome ν ε := (call.key, call.outcome)

/-- The key of the call that begins with an action, and the outcome of its factory. -/
def Action.heading? : Action ν ε → Option (String × Outcome ν ε)
  | begin key outcome => some (key, outcome)
  | advance _ | get _ | contains _ | size | clear => none

/-- A step of a call leaves its key and the outcome of its factory. -/
theorem Call.heading_step (c : Cache ν ε) (call : Call ν ε) :
  (call.step c).2.heading = call.heading
  := by
  rw [step]
  split
  · split <;> rfl
  · split <;> rfl
  all_goals rfl

namespace Calls

/-- An action leaves the calls for their keys, and adds the one that begins. -/
theorem map_heading_act (s : Calls ν ε) (a : Action ν ε) :
  (s.act a).calls.map Call.heading = s.calls.map Call.heading ++ a.heading?.toList
  := by
  cases a with
  | begin key outcome => exact List.map_append
  | advance i =>
    rw [Action.heading?, Option.toList_none, List.append_nil]
    cases found : s.calls[i]? with
    | none => rw [act, found]
    | some call =>
      rw [act_advance found, List.map_set, Call.heading_step, ← List.map_set]
      exact congrArg (fun same : Calls ν ε => same.calls.map Call.heading) (set_self found)
  | get key => exact (List.append_nil _).symm
  | contains key => exact (List.append_nil _).symm
  | size => exact (List.append_nil _).symm
  | clear => exact (List.append_nil _).symm

/-- The calls of a run are those that begin in it, after the ones before. -/
theorem map_heading_run (s : Calls ν ε) (actions : List (Action ν ε)) :
  (s.run actions).calls.map Call.heading
    = s.calls.map Call.heading ++ actions.filterMap Action.heading?
  := by
  induction actions generalizing s with
  | nil => exact (List.append_nil _).symm
  | cons a rest ih =>
    apply (ih (s.act a)).trans
    rw [map_heading_act, List.append_assoc, List.filterMap_cons]
    cases a.heading? <;> rfl

end Calls

end Headings

/-! ### Documents -/

namespace DocumentCache

/-- The answer for a text that a factory has parsed is that of parsing it without a cache. -/
theorem answer?_parseOutcome (serial : Nat) (source : String) :
  answer? source (parseOutcome serial (Fingerprint.ofText source) source)
    = some (parseUncached source)
  := by
  rw [parseOutcome, parseFresh, parseUncached]
  cases Document.parseExecutable source <;> rfl

end DocumentCache

namespace DocumentRequest

/-- The id that a request is given. -/
def id? : DocumentRequest → Option String
  | parse _ => none
  | parseAs id _ | add id _ => some id

/-- Whether no id that is given is the fingerprint of a text that is to be parsed under its
fingerprint, and these texts are told apart by their fingerprints. -/
structure Apart (requests : List DocumentRequest) : Prop where
  ids : ∀ request ∈ requests, ∀ source, parse source ∈ requests →
    request.id? ≠ some (Fingerprint.ofText source)
  fingerprints : ∀ source other, parse source ∈ requests → parse other ∈ requests →
    Fingerprint.ofText source = Fingerprint.ofText other → source = other

/-- The only requests for the fingerprint of a text that is parsed under it are those to parse the
text. -/
theorem Apart.eq_parse {requests : List DocumentRequest} (apart : Apart requests) {source : String}
    (asked : parse source ∈ requests) {request : DocumentRequest} (member : request ∈ requests)
    (key : request.key = Fingerprint.ofText source) :
  request = parse source
  := by
  cases request with
  | parse other => rw [apart.fingerprints other source member asked key]
  | parseAs id text => exact absurd (congrArg some key) (apart.ids _ member source asked)
  | add id document => exact absurd (congrArg some key) (apart.ids _ member source asked)

end DocumentRequest

namespace DocumentAction

/-! ### Transparency -/

open DocumentRequest (Apart)

/-- Whether a cache that some requests have been made to, and others will be, is transparent. -/
structure Transparent (actions early : List DocumentAction)
    (s : Calls SharedDocument DocumentFault) : Prop where
  /-- A request for the document of a text that has returned gives what parsing the text without a
  cache gives. -/
  returned : ∀ (i : Nat) source serial outcome, (begun early)[i]? = some (.parse source, serial) →
    (s.calls[i]?).bind Call.result? = some outcome →
    DocumentCache.answer? source outcome = some (DocumentCache.parseUncached source)
  /-- Nothing is kept for a text that cannot be parsed. -/
  absent : ∀ source fault, DocumentRequest.parse source ∈ requests actions →
    DocumentCache.parseUncached source = .error fault →
    (s.cache.get? (Fingerprint.ofText source)).1 = none

/-- The calls of a run from an empty cache are those of the requests that begin in it. -/
theorem map_heading_run (capacity : Nat) (h : 0 < capacity) (early : List DocumentAction) :
  ((Calls.idle capacity h).run (early.map toAction)).calls.map Call.heading
    = (begun early).map fun b => (b.1.key, b.1.outcome b.2)
  := by
  rw [Calls.map_heading_run, List.filterMap_map, begun, List.map_filterMap]
  apply List.filterMap_congr
  intro a _
  cases a <;> rfl

section Run

variable {capacity : Nat} {h : 0 < capacity} {actions early : List DocumentAction}

/-- The call with a number is that of the request with that number. -/
theorem exists_begun_of_at {i : Nat} {call : Call SharedDocument DocumentFault}
    (at_i : ((Calls.idle capacity h).run (early.map toAction)).At i call) :
  ∃ request serial, (begun early)[i]? = some (request, serial) ∧ call.key = request.key
    ∧ call.outcome = request.outcome serial
  := by
  have heading := congrArg (fun headings => headings[i]?) (map_heading_run capacity h early)
  simp only [List.getElem?_map] at heading
  rw [at_i, Option.map_some] at heading
  obtain ⟨⟨request, serial⟩, found, same⟩ := Option.map_eq_some_iff.mp heading.symm
  obtain ⟨key, outcome⟩ := Prod.ext_iff.mp same
  exact ⟨request, serial, found, key.symm, outcome.symm⟩

theorem mem_requests_of_begun (before : early <+: actions) {i serial : Nat}
    {request : DocumentRequest} (found : (begun early)[i]? = some (request, serial)) :
  request ∈ requests actions
  := by
  obtain ⟨later, rfl⟩ := before
  rw [requests, begun, List.filterMap_append, List.map_append]
  apply List.mem_append_left
  exact List.mem_map_of_mem (List.mem_of_getElem? found)

/-- What is produced under the fingerprint of a text that is parsed under it is what parsing
gives. -/
theorem eq_parseOutcome_of_produced (apart : Apart (requests actions)) (before : early <+: actions)
    {source : String} (asked : .parse source ∈ requests actions)
    {outcome : Outcome SharedDocument DocumentFault}
    (produced : ((Calls.idle capacity h).run (early.map toAction)).Produced
      (Fingerprint.ofText source) outcome) :
  ∃ serial, outcome
    = DocumentCache.parseOutcome serial (Fingerprint.ofText source) source
  := by
  obtain ⟨i, call, at_i, key, rfl, -⟩ := produced
  obtain ⟨request, serial, found, request_key, outcome⟩ := exists_begun_of_at at_i
  have same : request = .parse source :=
    apart.eq_parse asked (mem_requests_of_begun before found) (request_key.symm.trans key)
  use serial
  rw [outcome, same]
  rfl

end Run

/-- If the ids given in a run from an empty cache are apart from the fingerprints of the texts that
are parsed under them, the cache is transparent at every moment of the run. -/
theorem transparent_run (capacity : Nat) (h : 0 < capacity) {actions early : List DocumentAction}
    (apart : Apart (requests actions)) (before : early <+: actions) :
  Transparent actions early ((Calls.idle capacity h).run (early.map toAction))
  := by
  have served := (Calls.chronicle_run capacity h (early.map toAction)).served
  constructor
  · intro i source serial outcome asked returned
    obtain ⟨call, at_i, result⟩ := Option.bind_eq_some_iff.mp returned
    obtain ⟨request, _, found, key, -⟩ := exists_begun_of_at at_i
    rw [asked] at found
    cases found
    have produced := served.returned i call outcome at_i result
    rw [key] at produced
    obtain ⟨serial, rfl⟩ :=
      eq_parseOutcome_of_produced apart before (mem_requests_of_begun before asked) produced
    apply DocumentCache.answer?_parseOutcome
  · intro source fault asked failed
    rw [Option.eq_none_iff_forall_ne_some]
    intro document found
    obtain ⟨serial, outcome⟩ :=
      eq_parseOutcome_of_produced apart before asked (served.read _ document found)
    have answer := DocumentCache.answer?_parseOutcome serial source
    rw [← outcome, failed] at answer
    cases answer

/-- Two requests for the document of one text, of which the second one waits for the first one, with
a request for a text that cannot be parsed and an addition. -/
def shared : List DocumentAction :=
  [.begin (.parse "{a}") 0, .begin (.parse "{a}") 1, .begin (.parse "\x7b") 2,
    .begin (.add "b" ⟨3, []⟩) 3, .advance 0, .advance 1, .advance 2, .advance 3, .clear]
    ++ List.replicate 3 (.advance 0) ++ [.advance 1] ++ List.replicate 3 (.advance 2)

theorem fingerprint_field :
  Fingerprint.ofText "{a}" = "460c3a93211614ac783c0f1d1bbbcb45a6da87d6421b5c0771772588f1015ff8"
  := by decide +kernel

theorem fingerprint_brace :
  Fingerprint.ofText "\x7b" = "021fb596db81e6d02bf3d2586ee3981fe519f275c0ac9ca76bbcf2ebb4097d96"
  := by decide +kernel

theorem apart_shared :
  Apart (requests shared)
  := by
  have asked : requests shared
      = [.parse "{a}", .parse "{a}", .parse "\x7b", .add "b" ⟨3, []⟩] := rfl
  rw [asked]
  constructor
  · simp [DocumentRequest.id?, fingerprint_field, fingerprint_brace]
  · have different : Fingerprint.ofText "{a}" ≠ Fingerprint.ofText "\x7b" := by
      rw [fingerprint_field, fingerprint_brace]
      decide
    intro source other first second same
    have first : source = "{a}" ∨ source = "\x7b" := by simpa using first
    have second : other = "{a}" ∨ other = "\x7b" := by simpa using second
    rcases first with rfl | rfl <;> rcases second with rfl | rfl
    · rfl
    · exact absurd same different
    · exact absurd same.symm different
    · rfl

/-- The second request gets what parsing the text gives, and nothing is kept for the text that
cannot be parsed. -/
theorem transparent_shared :
  ∃ outcome fault, Apart (requests shared)
    ∧ (((Calls.idle 1 Nat.one_pos).run (shared.map toAction)).calls[1]?).bind Call.result?
      = some outcome
    ∧ DocumentCache.answer? "{a}" outcome = some (DocumentCache.parseUncached "{a}")
    ∧ DocumentCache.parseUncached "\x7b" = .error fault
    ∧ (((Calls.idle 1 Nat.one_pos).run (shared.map toAction)).cache.get?
      (Fingerprint.ofText "\x7b")).1 = none
  := by
  have returns : ((((Calls.idle 1 Nat.one_pos).run (shared.map toAction)).calls[1]?).bind
      Call.result?).isSome := by
    simp only [shared, List.map_append, List.map_cons, List.map_nil, List.map_replicate, toAction,
      DocumentRequest.key, fingerprint_field, fingerprint_brace]
    decide +kernel
  have fails : (DocumentCache.parseUncached "\x7b").toOption.isNone := by decide +kernel
  obtain ⟨outcome, returned⟩ := Option.isSome_iff_exists.mp returns
  obtain ⟨given, absent⟩ := transparent_run 1 Nat.one_pos apart_shared (List.prefix_refl shared)
  cases parsed : DocumentCache.parseUncached "\x7b" with
  | ok answer =>
    rw [parsed] at fails
    cases fails
  | error fault =>
    exact ⟨outcome, fault, apart_shared, returned, given 1 "{a}" 1 outcome rfl returned, rfl,
      absent "\x7b" fault (by simp [requests, begun, shared, begun?]) parsed⟩

end DocumentAction

end LinkedSchema
