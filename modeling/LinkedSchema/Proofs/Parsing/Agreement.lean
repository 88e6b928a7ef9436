import LinkedSchema.Proofs.FirstOccurrences
import LinkedSchema.Proofs.Parsing.InOrder
import Mathlib.Data.List.Perm.Basic

/-!
# Parsing as if each file were alone

If the texts of document files are told apart by their fingerprints, then every task ends with what
its file comes to on its own (`Parsing.Faithful`), however the tasks take turns and whether or not
their requests share documents, wait for each other or parse a text again.  Hence all complete
schedules are summed up as parsing the files alone is, apart from the order of the faults
(`Parsing.sequential_of_apart`).
-/

namespace LinkedSchema.Command

open DocumentAction (begun toAction)

/-! ### Files told apart -/

/-- Whether the texts of document files are told apart by their fingerprints. -/
def Apart (files : List DocumentFile) : Prop :=
  ∀ source ∈ texts files, ∀ other ∈ texts files,
    Fingerprint.ofText source = Fingerprint.ofText other → source = other

/-- Texts are told apart by their fingerprints if no two different ones have the same. -/
theorem apart_iff_nodup (files : List DocumentFile) :
  Apart files ↔ ((texts files).eraseDups.map Fingerprint.ofText).Nodup
  := by
  rw [List.nodup_map_iff_inj_on (List.nodup_eraseDups _), Apart]
  simp only [List.mem_eraseDups]

/-- The definitions of the document of a file, if the file can be read and its text be parsed. -/
def DocumentFile.definitions? (file : DocumentFile) : Option (List Document.Executable) :=
  match file.text with
  | .error _ => none
  | .ok source => (DocumentCache.parseUncached source).toOption.map Prod.snd

/-- The fault of a document file that cannot be read, or whose text cannot be parsed. -/
def DocumentFile.fault? (file : DocumentFile) : Option CommandFault :=
  match file.text with
  | .error reason => some (.unreadable file.path reason)
  | .ok source =>
    match DocumentCache.parseUncached source with
    | .ok _ => none
    | .error fault => some (.document file.path fault)

/-- The operation counts of document files on their own are those of the definitions in them. -/
theorem countsOf_map_parse (files : List DocumentFile) :
  countsOf (files.map DocumentFile.parse)
    = (files.filterMap DocumentFile.definitions?).map (List.countP Document.Executable.isOperation)
  := by
  rw [countsOf, List.filterMap_map, List.map_filterMap]
  apply List.filterMap_congr
  intro file _
  rw [Function.comp_apply, DocumentFile.parse, DocumentFile.definitions?]
  cases file.text with
  | error reason => rfl
  | ok source =>
    dsimp only
    cases DocumentCache.parseUncached source <;> rfl

/-- The faults among what document files come to on their own are those of the files. -/
theorem faultsOf_map_parse (files : List DocumentFile) :
  faultsOf (files.map DocumentFile.parse) = files.filterMap DocumentFile.fault?
  := by
  rw [faultsOf, List.filterMap_map]
  apply List.filterMap_congr
  intro file _
  rw [Function.comp_apply, DocumentFile.parse, DocumentFile.fault?]
  cases file.text with
  | error reason => rfl
  | ok source =>
    dsimp only
    cases DocumentCache.parseUncached source <;> rfl

/-- Whether a report sums up what is in document files, apart from how many documents are
distinct. -/
structure Agrees (files : List DocumentFile) (report : Summary × List CommandFault) : Prop where
  /-- The documents are the files that can be read and parsed. -/
  documents : report.1.documents = files.countP fun file => file.definitions?.isSome
  /-- The operations are those among the definitions of these documents, added up. -/
  operations : report.1.operations
    = ((files.filterMap DocumentFile.definitions?).map
      (List.countP Document.Executable.isOperation)).foldr (· + ·) 0
  /-- Every other file has its own fault. -/
  faults : report.2.Perm (files.filterMap DocumentFile.fault?)

namespace Parsing

/-- A task that goes on stands among the same tasks. -/
theorem exists_amid {p : Parsing} {i : Nat} {old : Task} (at_i : p.At i old) (new : Task) :
  ∃ before after, p.tasks = before ++ old :: after ∧ p.tasks.set i new = before ++ new :: after
  := by
  obtain ⟨in_range, rfl⟩ := List.getElem?_eq_some_iff.mp at_i
  obtain ⟨before, after, same, -, replaced⟩ := List.exists_of_set in_range
  exact ⟨before, after, same, replaced⟩

/-- Whether every task ends with what its file comes to on its own, and these results have been
collected. -/
structure Faithful (p : Parsing) : Prop where
  ended : ∀ i file result, p.At i ⟨file, .ended result⟩ → result = file.parse
  results : p.results.Perm ((p.tasks.filter Task.isJoined).map fun task => task.file.parse)

theorem faithful_start (capacity : Nat) (h : 0 < capacity) (files : List DocumentFile) :
  (start capacity h files).Faithful
  where
  ended i file result at_i := by
    change (files.map _)[i]? = _ at at_i
    rw [List.getElem?_map] at at_i
    obtain ⟨_, -, spawned⟩ := Option.map_eq_some_iff.mp at_i
    cases spawned
  results := by
    have none : (start capacity h files).tasks.filter Task.isJoined = [] := by
      rw [List.filter_eq_nil_iff]
      intro task member
      obtain ⟨file, -, rfl⟩ := List.mem_map.mp member
      simp [Task.isJoined]
    rw [none]
    apply List.Perm.nil

/-- A task that has not been joined may go on, if it ends with what its file comes to on its own. -/
theorem Faithful.set {p : Parsing} (faithful : p.Faithful) {i : Nat} {old new : Task}
    (at_i : p.At i old) (requests : Calls SharedDocument DocumentFault)
    (unjoined : old.isJoined = false) (still : new.isJoined = false)
    (ends : ∀ file result, new = ⟨file, .ended result⟩ → result = file.parse) :
  Faithful ⟨requests, p.tasks.set i new, p.results⟩
  where
  ended j file result at_j := by
    rw [at_set_iff at_i] at at_j
    split at at_j
    · apply ends file result at_j.symm
    · apply faithful.ended j file result at_j
  results := by
    obtain ⟨before, after, same, replaced⟩ := exists_amid at_i new
    have collected := faithful.results
    rw [same] at collected
    rw [replaced]
    simpa [List.filter_append, unjoined, still] using collected

/-- Joining a task collects what its file comes to on its own. -/
theorem Faithful.join {p : Parsing} (faithful : p.Faithful) {i : Nat} {file : DocumentFile}
    {result : FileResult} (at_i : p.At i ⟨file, .ended result⟩) :
  Faithful ⟨p.requests, p.tasks.set i ⟨file, .joined⟩, p.results ++ [result]⟩
  where
  ended j other result at_j := by
    rw [at_set_iff at_i] at at_j
    split at at_j
    · cases at_j
    · apply faithful.ended j other result at_j
  results := by
    obtain ⟨before, after, same, replaced⟩ := exists_amid at_i ⟨file, .joined⟩
    have collected := faithful.results
    rw [same] at collected
    rw [replaced, faithful.ended i file result at_i]
    have ended : Task.isJoined ⟨file, .ended result⟩ = false := rfl
    have joined : Task.isJoined ⟨file, .joined⟩ = true := rfl
    simp only [List.filter_append, List.filter_cons, ended, joined, List.map_append, List.map_cons,
      Bool.false_eq_true, if_true, if_false] at collected ⊢
    apply (List.perm_append_singleton _ _).trans
    apply (collected.cons _).trans
    apply List.perm_middle.symm

section Recorded

variable {capacity : Nat} {h : 0 < capacity} {files : List DocumentFile}
  {history : List DocumentAction} {p : Parsing} (recorded : Recorded capacity h files history p)
  (apart : Apart files)

include recorded apart

/-- The requests of tasks are told apart by the fingerprints of their texts. -/
theorem Recorded.apart_requests :
  DocumentRequest.Apart (DocumentAction.requests history)
  where
  ids request member source _ := by
    obtain ⟨_, -, rfl⟩ := recorded.asked request member
    simp [DocumentRequest.id?]
  fingerprints source other member member' same := by
    obtain ⟨_, text, parses⟩ := recorded.asked _ member
    obtain ⟨_, text', parses'⟩ := recorded.asked _ member'
    cases parses
    cases parses'
    apply apart source text other text' same

/-- A request for the document of a text is answered as parsing the text without a cache is. -/
theorem Recorded.answer_eq {call serial : Nat} {source : String}
    {answer : Except DocumentFault (String × List Document.Executable)}
    (asked : (begun history)[call]? = some (.parse source, serial))
    (answered : Task.answer? p.requests source call = some answer) :
  answer = DocumentCache.parseUncached source
  := by
  obtain ⟨outcome, returned, given⟩ := Option.bind_eq_some_iff.mp answered
  have transparent := DocumentAction.transparent_run capacity h (recorded.apart_requests apart)
    (List.prefix_refl history)
  rw [recorded.ran] at returned
  have alone := transparent.returned call source serial outcome asked returned
  rw [given] at alone
  apply Option.some.inj alone

/-- Every step keeps tasks faithful. -/
theorem Faithful.step (faithful : p.Faithful) {a : TaskAction} {later : Parsing}
    (step : p.Step a later) :
  later.Faithful
  := by
  cases step with
  | fail at_i text =>
    apply faithful.set at_i _ rfl rfl
    intro file result same
    cases same
    rw [DocumentFile.parse, text]
  | read at_i _ =>
    apply faithful.set at_i _ rfl rfl
    intro file result same
    cases same
  | request _ _ => exact ⟨faithful.ended, faithful.results⟩
  | finish at_i answered =>
    apply faithful.set at_i _ rfl rfl
    intro file result same
    cases same
    obtain ⟨text, serial, asked⟩ := recorded.shown _ _ at_i
    rw [recorded.answer_eq apart asked answered, DocumentFile.parse, text]
  | join at_i => apply faithful.join at_i

end Recorded

/-- In every run the tasks of document files that are told apart are faithful. -/
theorem faithful_run (capacity : Nat) (h : 0 < capacity) {files : List DocumentFile}
    (apart : Apart files) (schedule : List TaskAction) :
  ((start capacity h files).run schedule).Faithful
  := by
  have kept : ((start capacity h files).run schedule).Faithful
      ∧ ∃ history, Recorded capacity h files history ((start capacity h files).run schedule) := by
    apply run_keeps
      (P := fun p => p.Faithful ∧ ∃ history, Recorded capacity h files history p)
    · rintro p a later ⟨faithful, history, recorded⟩ step
      obtain ⟨more, continued⟩ := recorded.step step
      exact ⟨faithful.step recorded apart step, _, continued⟩
    · exact ⟨faithful_start capacity h files, [], recorded_start capacity h files⟩
  apply kept.1

/-- Once all tasks have been joined, the results are what the files come to on their own. -/
theorem Faithful.results_perm {p : Parsing} (faithful : p.Faithful) (complete : p.Complete) :
  p.results.Perm ((p.tasks.map Task.file).map DocumentFile.parse)
  := by
  have all : p.tasks.filter Task.isJoined = p.tasks := by
    rw [List.filter_eq_self]
    intro task member
    apply (Task.isJoined_iff task).mpr (complete task member)
  have collected := faithful.results
  rw [all] at collected
  rw [List.map_map]
  apply collected

end Parsing

/-! ### Reports -/

/-- Results that are those of document files on their own, in whatever order, are summed up as what
is in the files. -/
theorem agrees_of_perm {files : List DocumentFile} {results : List FileResult}
    (same : results.Perm (files.map DocumentFile.parse)) (distinct : Nat) :
  Agrees files (.ofResults results distinct, faultsOf results)
  := by
  have counts : (countsOf results).Perm (countsOf (files.map DocumentFile.parse)) :=
    same.filterMap _
  have faults : (faultsOf results).Perm (faultsOf (files.map DocumentFile.parse)) :=
    same.filterMap _
  rw [countsOf_map_parse] at counts
  rw [faultsOf_map_parse] at faults
  constructor
  · apply counts.length_eq.trans
    rw [List.length_map]
    apply List.length_filterMap_eq_countP
  · apply counts.foldr_eq
  · apply faults

namespace Parsing

/-- Once every task has been joined, nothing happens any more. -/
theorem Complete.act_eq {p : Parsing} (complete : p.Complete) (a : TaskAction) :
  p.act a = p
  := by
  have joined {i : Nat} {file : DocumentFile} {stage : TaskStage} (at_i : p.At i ⟨file, stage⟩) :
      stage = .joined := complete ⟨file, stage⟩ (List.mem_of_getElem? at_i)
  rcases p.act_cases a with same | step
  · apply same
  · generalize p.act a = later at step
    cases step with
    | fail at_i _ | read at_i _ | request at_i _ | finish at_i _ | join at_i => cases joined at_i

/-- Whether parsing document files through a cache of a capacity comes to what the files come to on
their own, in whatever order their tasks take turns and are joined. -/
structure Sequential (capacity : Nat) (h : 0 < capacity) (files : List DocumentFile) : Prop where
  /-- The tasks take only so many steps. -/
  ends : ∀ schedule, (start capacity h files).Busy schedule → schedule.length ≤ 7 * files.length
  /-- The tasks go on until every one of them has been joined. -/
  joins : ∀ schedule,
    (∀ a, ((start capacity h files).run schedule).act a = (start capacity h files).run schedule)
      ↔ ((start capacity h files).run schedule).Complete
  /-- Then the report sums up what the files come to on their own. -/
  agrees : ∀ schedule, ((start capacity h files).run schedule).Complete →
    Agrees files ((start capacity h files).run schedule).report
  /-- So it does if one task after another takes its steps. -/
  inOrder : Agrees files (parseFiles capacity files)

/-- Document files that are told apart are parsed as if each of them were alone. -/
theorem sequential_of_apart (capacity : Nat) (h : 0 < capacity) {files : List DocumentFile}
    (apart : Apart files) :
  Sequential capacity h files
  := by
  have agrees (schedule : List TaskAction)
      (complete : ((start capacity h files).run schedule).Complete) :
      Agrees files ((start capacity h files).run schedule).report := by
    obtain ⟨history, recorded⟩ := exists_recorded_run capacity h files schedule
    have collected := (faithful_run capacity h apart schedule).results_perm complete
    rw [recorded.map_file] at collected
    apply agrees_of_perm collected
  constructor
  · intro schedule busy
    apply length_le_of_busy capacity h files busy
  · intro schedule
    obtain ⟨history, recorded⟩ := exists_recorded_run capacity h files schedule
    exact ⟨recorded.complete_of_stuck, Complete.act_eq⟩
  · apply agrees
  · rw [parseFiles_eq capacity h]
    apply agrees _ (complete_inOrder capacity h files)

/-- A text with two operations and a fragment. -/
def textWithFragment : String := "{a}query B{b}fragment F on T{c}"

/-- Two files of that text, one that cannot be parsed and one that cannot be read. -/
def mixed : List DocumentFile :=
  [⟨"a.graphql", .ok textWithFragment⟩, ⟨"b.graphql", .ok textWithFragment⟩,
    ⟨"c.graphql", .ok "\x7b"⟩, ⟨"d.graphql", .error "stream did not contain valid UTF-8"⟩]

/-- The tasks of these files take turns, so that the second one waits for the first one, and are
joined in another order. -/
def turns : List TaskAction :=
  (List.range 9).flatMap (fun _ => [.advance 0, .advance 1, .advance 2, .advance 3])
    ++ [.join 3, .join 1, .join 2, .join 0]

theorem apart_mixed :
  Apart mixed
  := by
  have different : (texts mixed).eraseDups = [textWithFragment, "\x7b"] := by decide +kernel
  rw [apart_iff_nodup, different, List.map_cons, List.map_singleton,
    DocumentAction.fingerprint_brace]
  decide +kernel

/-- Two documents with two operations each are parsed, whose fragments do not count, and two files
have a fault each. -/
theorem sequential_mixed :
  Apart mixed
    ∧ ((start 1 Nat.one_pos mixed).run turns).Complete
    ∧ ((start 1 Nat.one_pos mixed).run turns).report.1.documents = 2
    ∧ ((start 1 Nat.one_pos mixed).run turns).report.1.operations = 4
    ∧ mixed.filterMap (fun file => file.definitions?.map List.length) = [3, 3]
    ∧ ((start 1 Nat.one_pos mixed).run turns).report.2.Perm (mixed.filterMap DocumentFile.fault?)
    ∧ (mixed.filterMap DocumentFile.fault?).length = 2
  := by
  have sequential := sequential_of_apart 1 Nat.one_pos apart_mixed
  have complete : ((start 1 Nat.one_pos mixed).run turns).Complete := by decide +kernel
  have agrees := sequential.agrees turns complete
  exact ⟨apart_mixed, complete, agrees.documents.trans (by decide +kernel),
    agrees.operations.trans (by decide +kernel), by decide +kernel, agrees.faults,
    by decide +kernel⟩

end Parsing

end LinkedSchema.Command
