import LinkedSchema.Proofs.Cache.Retention
import LinkedSchema.Proofs.FirstOccurrences
import LinkedSchema.Proofs.Parsing.Agreement
import Mathlib.Data.List.Perm.Subperm

/-!
# Distinct documents

What the cache keeps in the end are documents of different texts, as many of them as there are or
as fit in (`Parsing.Recorded.size_eq`), in whatever order the tasks take turns.  So the number of
distinct documents in a report is that of the different texts as long as the capacity is not less
than it, and less than it otherwise (`Parsing.distinct_of_apart`).
-/

namespace LinkedSchema.Command

open DocumentAction (begun toAction)

/-- The different texts of the document files that can be read and parsed. -/
def contents (files : List DocumentFile) : List String :=
  (texts (files.filter fun file => file.parse.isOk)).eraseDups

/-- A document file whose text is known can be parsed if its text can. -/
theorem DocumentFile.isOk_parse {file : DocumentFile} {source : String}
    (text : file.text = .ok source) :
  file.parse.isOk = (DocumentCache.parseUncached source).isOk
  := by
  rw [DocumentFile.parse, text]
  dsimp only
  cases DocumentCache.parseUncached source <;> rfl

/-- A text is among the contents if a file that can be parsed has it. -/
theorem mem_contents_iff (files : List DocumentFile) (source : String) :
  source ∈ contents files
    ↔ source ∈ texts files ∧ (DocumentCache.parseUncached source).isOk = true
  := by
  rw [contents, List.mem_eraseDups, mem_texts_iff, mem_texts_iff]
  simp only [List.mem_filter]
  constructor
  · rintro ⟨file, ⟨member, parses⟩, text⟩
    rw [DocumentFile.isOk_parse text] at parses
    exact ⟨⟨file, member, text⟩, parses⟩
  · rintro ⟨⟨file, member, text⟩, parses⟩
    rw [← DocumentFile.isOk_parse text] at parses
    exact ⟨file, ⟨member, parses⟩, text⟩

/-- The fingerprints of the contents are different from each other. -/
theorem nodup_map_contents {files : List DocumentFile} (apart : Apart files) :
  ((contents files).map Fingerprint.ofText).Nodup
  := by
  apply List.Nodup.map_on _ (List.nodup_eraseDups _)
  intro source member other member' same
  apply apart source _ other _ same
  · apply ((mem_contents_iff files source).mp member).1
  · apply ((mem_contents_iff files other).mp member').1

namespace Parsing.Recorded

variable {capacity : Nat} {h : 0 < capacity} {files : List DocumentFile}
  {history : List DocumentAction} {p : Parsing} (recorded : Recorded capacity h files history p)

include recorded

/-- The cache keeps only documents of the contents. -/
theorem keys_subset :
  p.requests.cache.entries.map Prod.fst ⊆ (contents files).map Fingerprint.ofText
  := by
  intro key member
  obtain ⟨⟨id, document⟩, kept, rfl⟩ := List.mem_map.mp member
  have produced : p.requests.Produced id (.value document) := by
    have chronicle := Calls.chronicle_run capacity h (history.map toAction)
    rw [recorded.ran] at kept ⊢
    apply chronicle.kept id document kept
  obtain ⟨i, call, at_i, rfl, gives, -⟩ := produced
  obtain ⟨source, serial, found, key, outcome⟩ := recorded.exists_parse_of_at at_i
  obtain ⟨_, asked, same⟩ := recorded.asked _ (mem_requests_of_getElem? found)
  cases same
  rw [key]
  apply List.mem_map_of_mem
  rw [mem_contents_iff]
  use asked
  -- The factory of the call gave a document, so parsing its text did.
  have answer := DocumentCache.answer?_parseOutcome serial source
  rw [← outcome, gives] at answer
  rw [← Option.some.inj answer]
  rfl

section Complete

variable (complete : p.Complete)

include complete

/-- In the end the text of each file that can be read has been requested. -/
theorem requested {source : String} (member : source ∈ texts files) :
  .parse source ∈ DocumentAction.requests history
  := by
  obtain ⟨file, member, text⟩ := (mem_texts_iff files source).mp member
  rw [← recorded.map_file] at member
  obtain ⟨⟨file, stage⟩, there, rfl⟩ := List.mem_map.mp member
  obtain ⟨i, at_i⟩ := List.mem_iff_getElem?.mp there
  have joined : stage = .joined := complete ⟨file, stage⟩ there
  subst joined
  apply recorded.shown i _ at_i
  apply text

/-- In the end every request has returned. -/
theorem returned {call : Nat} {c : Call SharedDocument DocumentFault}
    (at_call : p.requests.At call c) :
  ∃ outcome, c.stage = .returned outcome
  := by
  cases result : c.result? with
  | none =>
    obtain ⟨i, file, source, at_i⟩ := recorded.unanswered call c at_call result
    cases complete _ (List.mem_of_getElem? at_i)
  | some outcome =>
    rw [Call.result?] at result
    split at result
    · next stage => exact ⟨_, stage⟩
    · cases result

/-- In the end a request for each of the contents has given a document. -/
theorem exists_gave (apart : Apart files) {source : String} (member : source ∈ contents files) :
  ∃ call c document, p.requests.At call c ∧ c.key = Fingerprint.ofText source
    ∧ Calls.Gave c document
  := by
  obtain ⟨member, parses⟩ := (mem_contents_iff files source).mp member
  obtain ⟨⟨_, serial⟩, begins, rfl⟩ := List.mem_map.mp (recorded.requested complete member)
  obtain ⟨call, asked⟩ := List.mem_iff_getElem?.mp begins
  obtain ⟨c, at_call⟩ := recorded.exists_at_of_begun asked
  have key : c.key = Fingerprint.ofText source := by
    obtain ⟨_, _, found, key, -⟩ := recorded.exists_parse_of_at at_call
    rw [asked] at found
    cases found
    apply key
  obtain ⟨outcome, stage⟩ := recorded.returned complete at_call
  obtain ⟨answer, answered⟩ := recorded.exists_answer_of_returned at_call stage source
  rw [recorded.answer_eq apart asked answered, Task.answer?, at_call, Option.bind_some,
    Call.result?, stage, Option.bind_some] at answered
  cases outcome with
  | value document => exact ⟨call, c, document, at_call, key, .inr stage⟩
  | error fault =>
    rw [← Option.some.inj answered] at parses
    cases parses
  | unwound => cases answered

/-- In the end the cache keeps as many documents as there are different texts, or as many as it
may. -/
theorem size_eq (apart : Apart files) :
  p.requests.cache.size = min capacity (contents files).length
  := by
  have same_capacity : p.requests.cache.capacity = capacity := by
    rw [recorded.ran, Calls.capacity_run]
    rfl
  have consistent : p.requests.Consistent := by
    rw [recorded.ran]
    apply Calls.consistent_run
  have fewer := (consistent.entries.subperm recorded.keys_subset).length_le
  have bounded := consistent.bounded
  have uncleared : .clear ∉ history.map toAction := by
    intro member
    obtain ⟨a, member, same⟩ := List.mem_map.mp member
    cases a with
    | clear => exact recorded.uncleared member
    | _ => cases same
  have fate := Calls.full_or_keeps_run capacity h uncleared
  rw [← recorded.ran] at fate
  rw [List.length_map, List.length_map] at fewer
  rw [same_capacity] at bounded
  rw [Cache.size]
  rcases fate with full | keeps
  · rw [Calls.Full, Cache.size, same_capacity] at full
    omega
  · have covers : (contents files).map Fingerprint.ofText
        ⊆ p.requests.cache.entries.map Prod.fst := by
      intro key member
      obtain ⟨source, content, rfl⟩ := List.mem_map.mp member
      obtain ⟨call, c, document, at_call, same, gave⟩ :=
        recorded.exists_gave complete apart content
      have there := keeps call c document at_call gave
      rw [Cache.contains, OrderedMap.lookup_isSome_iff, same] at there
      apply there
    have more := ((nodup_map_contents apart).subperm covers).length_le
    rw [List.length_map, List.length_map] at more
    omega

end Complete

end Parsing.Recorded

namespace Parsing

/-- Once the tasks of a run have been joined, the report counts the different texts that can be
parsed, or as many documents as the cache may keep. -/
theorem distinct_run (capacity : Nat) (h : 0 < capacity) {files : List DocumentFile}
    (apart : Apart files) {schedule : List TaskAction}
    (complete : ((start capacity h files).run schedule).Complete) :
  ((start capacity h files).run schedule).report.1.distinct = min capacity (contents files).length
  := by
  obtain ⟨history, recorded⟩ := exists_recorded_run capacity h files schedule
  apply recorded.size_eq complete apart

/-- If all document files can be read and parsed, the contents are their different texts. -/
theorem contents_of_isOk {files : List DocumentFile} (parse : ∀ file ∈ files, file.parse.isOk) :
  contents files = (texts files).eraseDups
  := by
  rw [contents, List.filter_eq_self.mpr parse]

/-- In whatever order the tasks of document files take turns, the number of distinct documents in
the report is that of the contents, cut off at the capacity of the cache. -/
theorem distinct_of_apart (capacity : Nat) (h : 0 < capacity) {files : List DocumentFile}
    (apart : Apart files) :
  (∀ schedule, ((start capacity h files).run schedule).Complete →
      ((start capacity h files).run schedule).report.1.distinct
        = min capacity (contents files).length)
    ∧ (parseFiles capacity files).1.distinct = min capacity (contents files).length
    ∧ ((∀ file ∈ files, file.parse.isOk) → contents files = (texts files).eraseDups)
  := by
  and_intros
  · intro schedule complete
    apply distinct_run capacity h apart complete
  · rw [parseFiles_eq capacity h]
    apply distinct_run capacity h apart (complete_inOrder capacity h files)
  · apply contents_of_isOk

/-- Three files of two texts. -/
def rivals : List DocumentFile :=
  [⟨"a.graphql", .ok "{a}"⟩, ⟨"b.graphql", .ok "{b}"⟩, ⟨"c.graphql", .ok "{a}"⟩]

theorem eraseDups_texts_rivals :
  (texts rivals).eraseDups = ["{a}", "{b}"]
  := by decide +kernel

theorem isOk_parse_rivals :
  ∀ file ∈ rivals, file.parse.isOk
  := by decide +kernel

theorem apart_rivals :
  Apart rivals
  := by
  rw [apart_iff_nodup, eraseDups_texts_rivals, List.map_cons, List.map_singleton,
    DocumentAction.fingerprint_field]
  decide +kernel

/-- Both texts are counted if there is room for both. -/
theorem distinct_rivals :
  Apart rivals
    ∧ (texts rivals).eraseDups = ["{a}", "{b}"]
    ∧ (parseFiles 2 rivals).1.distinct = 2
    ∧ (parseFiles 1 rivals).1.distinct = 1
  := by
  obtain ⟨-, both, same⟩ := distinct_of_apart 2 Nat.two_pos apart_rivals
  obtain ⟨-, one, -⟩ := distinct_of_apart 1 Nat.one_pos apart_rivals
  rw [same isOk_parse_rivals, eraseDups_texts_rivals] at both one
  exact ⟨apart_rivals, eraseDups_texts_rivals, both, one⟩

/-- A cache that keeps one document has one in the end, though the files have two texts. -/
theorem distinct_rivals_short :
  Apart rivals
    ∧ (∀ file ∈ rivals, file.parse.isOk)
    ∧ ((start 1 Nat.one_pos rivals).run (inOrder rivals.length)).Complete
    ∧ ((start 1 Nat.one_pos rivals).run (inOrder rivals.length)).report.1.distinct
      ≠ (texts rivals).eraseDups.length
  := by
  have complete := complete_inOrder 1 Nat.one_pos rivals
  refine ⟨apart_rivals, isOk_parse_rivals, complete, ?_⟩
  rw [distinct_run 1 Nat.one_pos apart_rivals complete, contents_of_isOk isOk_parse_rivals,
    eraseDups_texts_rivals]
  decide

end Parsing

end LinkedSchema.Command
