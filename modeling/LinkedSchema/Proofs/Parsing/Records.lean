import LinkedSchema.Proofs.Parsing.Steps

/-!
# Requests of tasks

The tasks of document files go through a history of actions on the cache that they share.
`Parsing.Recorded` says how a history shows where the tasks stand: a task that has read its file has
requested the document of its text, and a request that has not been answered is that of a task.
Every run has such a history (`Parsing.exists_recorded_run`).
-/

namespace LinkedSchema.Command

open DocumentAction (begun toAction)

/-- The texts of the document files that can be read. -/
def texts (files : List DocumentFile) : List String :=
  files.filterMap fun file => file.text.toOption

theorem mem_texts_iff (files : List DocumentFile) (source : String) :
  source ∈ texts files ↔ ∃ file ∈ files, file.text = .ok source
  := by
  have text_iff (file : DocumentFile) :
      file.text.toOption = some source ↔ file.text = .ok source := by
    cases file.text <;> simp [Except.toOption]
  simp only [texts, List.mem_filterMap, text_iff]

/-- Whether a history of the cache shows where a task stands. -/
def Task.Recorded (history : List DocumentAction) (task : Task) : Prop :=
  match task.stage with
  | .spawned => True
  | .requesting source call =>
    task.file.text = .ok source
      ∧ ∃ serial, (begun history)[call]? = some (.parse source, serial)
  | .ended _ | .joined =>
    ∀ source, task.file.text = .ok source → .parse source ∈ DocumentAction.requests history

section History

variable (history more : List DocumentAction)

theorem begun_append :
  begun (history ++ more) = begun history ++ begun more
  := List.filterMap_append

theorem requests_append :
  DocumentAction.requests (history ++ more)
    = DocumentAction.requests history ++ DocumentAction.requests more
  := by simp only [DocumentAction.requests, begun_append, List.map_append]

variable {history}

/-- A longer history shows as much. -/
theorem Task.Recorded.append {task : Task} (h : task.Recorded history) :
  task.Recorded (history ++ more)
  := by
  obtain ⟨file, stage⟩ := task
  cases stage with
  | spawned => trivial
  | requesting source call =>
    obtain ⟨text, serial, asked⟩ := h
    use text, serial
    rw [begun_append]
    rw [← asked]
    apply List.getElem?_append_left (List.getElem?_eq_some_iff.mp asked).1
  | ended _ | joined =>
    intro source text
    rw [requests_append]
    apply List.mem_append_left
    apply h source text

/-- A request with a number is among the requests. -/
theorem mem_requests_of_getElem? {call serial : Nat} {request : DocumentRequest}
    (asked : (begun history)[call]? = some (request, serial)) :
  request ∈ DocumentAction.requests history
  := List.mem_map_of_mem (List.mem_of_getElem? asked)

end History

namespace Parsing

/-- The tasks of document files, with a cache of a capacity that keeps nothing yet. -/
def start (capacity : Nat) (h : 0 < capacity) (files : List DocumentFile) : Parsing :=
  spawn (.ofCapacity capacity h) files

/-- Whether the tasks of document files have gone through a history of the cache that they share. -/
structure Recorded (capacity : Nat) (h : 0 < capacity) (files : List DocumentFile)
    (history : List DocumentAction) (p : Parsing) : Prop where
  ran : p.requests = (Calls.idle capacity h).run (history.map toAction)
  map_file : p.tasks.map Task.file = files
  uncleared : .clear ∉ history
  /-- Only documents of texts of the files are requested. -/
  asked : ∀ request ∈ DocumentAction.requests history,
    ∃ source ∈ texts files, request = .parse source
  shown : ∀ i task, p.At i task → task.Recorded history
  /-- A request that has not been answered is that of a task. -/
  unanswered : ∀ call c, p.requests.At call c → c.result? = none →
    ∃ i file source, p.At i ⟨file, .requesting source call⟩

/-- Tasks that have been spawned have an empty history. -/
theorem recorded_start (capacity : Nat) (h : 0 < capacity) (files : List DocumentFile) :
  Recorded capacity h files [] (start capacity h files)
  where
  ran := rfl
  map_file := by
    rw [start, spawn, List.map_map]
    apply List.map_id
  uncleared := List.not_mem_nil
  asked request member := by cases member
  shown i task at_i := by
    rw [At, start, spawn, List.getElem?_map] at at_i
    obtain ⟨file, -, rfl⟩ := Option.map_eq_some_iff.mp at_i
    trivial
  unanswered call c at_call _ := by cases at_call

namespace Recorded

variable {capacity : Nat} {h : 0 < capacity} {files : List DocumentFile}
  {history : List DocumentAction} {p : Parsing} (recorded : Recorded capacity h files history p)

include recorded

theorem map_heading :
  p.requests.calls.map Call.heading = (begun history).map fun b => (b.1.key, b.1.outcome b.2)
  := by
  rw [recorded.ran]
  apply DocumentAction.map_heading_run

theorem length_begun :
  (begun history).length = p.requests.calls.length
  := by
  have same := congrArg List.length recorded.map_heading
  rw [List.length_map, List.length_map] at same
  apply same.symm

/-- The file of a task is one of the document files. -/
theorem mem_files {i : Nat} {task : Task} (at_i : p.At i task) :
  task.file ∈ files
  := by
  rw [← recorded.map_file]
  apply List.mem_map_of_mem (List.mem_of_getElem? at_i)

/-- A request that has begun has a call. -/
theorem exists_at_of_begun {call serial : Nat} {request : DocumentRequest}
    (asked : (begun history)[call]? = some (request, serial)) :
  ∃ c, p.requests.At call c
  := by
  have in_range := (List.getElem?_eq_some_iff.mp asked).1
  rw [recorded.length_begun] at in_range
  exact ⟨_, List.getElem?_eq_getElem in_range⟩

section Set

variable {i : Nat} {file : DocumentFile} {old new : TaskStage} (at_i : p.At i ⟨file, old⟩)

include at_i

/-- After a step of one task, the history shows where the tasks stand if it shows where that task
does. -/
theorem shown_set (new : Task) (more : List DocumentAction)
    (requests : Calls SharedDocument DocumentFault) (results : List FileResult)
    (shown : new.Recorded (history ++ more)) (j : Nat) (task : Task)
    (at_j : At ⟨requests, p.tasks.set i new, results⟩ j task) :
  task.Recorded (history ++ more)
  := by
  rw [at_set_iff at_i] at at_j
  split at at_j
  · rw [at_j]
    apply shown
  · apply (recorded.shown j task at_j).append

/-- A task that goes on without its request keeps the history, if its request has been answered. -/
theorem set (results : List FileResult) (shown : Task.Recorded history ⟨file, new⟩)
    (answered : ∀ source call c, old = .requesting source call → p.requests.At call c →
      c.result? ≠ none) :
  Recorded capacity h files history ⟨p.requests, p.tasks.set i ⟨file, new⟩, results⟩
  where
  ran := recorded.ran
  map_file := (map_file_set at_i new).trans recorded.map_file
  uncleared := recorded.uncleared
  asked := recorded.asked
  shown := by
    have shown_set := recorded.shown_set at_i ⟨file, new⟩ [] p.requests results
    rw [List.append_nil] at shown_set
    apply shown_set shown
  unanswered call c at_call unanswered := by
    obtain ⟨j, other, source, at_j⟩ := recorded.unanswered call c at_call unanswered
    use j, other, source
    rw [at_set_iff at_i, if_neg]
    · apply at_j
    · rintro rfl
      cases at_j.unique at_i
      exact answered source call c rfl at_call unanswered

/-- A task that reads its file requests the document of its text. -/
theorem read {source : String} (text : file.text = .ok source) (stage : old = .spawned) :
  Recorded capacity h files (history ++ [.begin (.parse source) p.requests.calls.length])
    ⟨p.requests.act (DocumentAction.begin (.parse source) p.requests.calls.length).toAction,
      p.tasks.set i ⟨file, .requesting source p.requests.calls.length⟩, p.results⟩
  where
  ran := by
    rw [List.map_append, List.map_singleton, Calls.run_concat, ← recorded.ran]
  map_file := (map_file_set at_i _).trans recorded.map_file
  uncleared := by
    rw [List.mem_append, not_or]
    exact ⟨recorded.uncleared, by simp⟩
  asked request member := by
    rw [requests_append, List.mem_append] at member
    rcases member with before | new
    · apply recorded.asked request before
    · use source
      rw [mem_texts_iff]
      exact ⟨⟨file, recorded.mem_files at_i, text⟩, List.mem_singleton.mp new⟩
  shown := by
    apply recorded.shown_set at_i
    use text, p.requests.calls.length
    rw [begun_append, ← recorded.length_begun]
    apply List.getElem?_concat_length
  unanswered call c at_call unanswered := by
    rcases (Calls.at_append_iff _ _ _ call c).mp at_call with before | ⟨rfl, -⟩
    · obtain ⟨j, other, text, at_j⟩ := recorded.unanswered call c before unanswered
      use j, other, text
      rw [at_set_iff at_i, if_neg]
      · apply at_j
      · rintro rfl
        cases (at_j.unique at_i).trans (congrArg _ stage)
    · use i, file, source
      rw [at_set_iff at_i, if_pos rfl]

end Set

/-- A request goes on. -/
theorem request {i call : Nat} {file : DocumentFile} {source : String}
    (at_i : p.At i ⟨file, .requesting source call⟩) :
  Recorded capacity h files (history ++ [.advance call])
    { p with requests := p.requests.act (DocumentAction.advance call).toAction }
  where
  ran := by
    rw [List.map_append, List.map_singleton, Calls.run_concat, ← recorded.ran]
  map_file := recorded.map_file
  uncleared := by
    rw [List.mem_append, not_or]
    exact ⟨recorded.uncleared, by simp⟩
  asked request member := by
    rw [requests_append, List.mem_append] at member
    rcases member with before | new
    · apply recorded.asked request before
    · cases new
  shown j task at_j := (recorded.shown j task at_j).append _
  unanswered other c at_other unanswered := by
    obtain ⟨-, serial, asked⟩ := recorded.shown i _ at_i
    obtain ⟨old, at_call⟩ := recorded.exists_at_of_begun asked
    rw [DocumentAction.toAction, Calls.act_advance at_call, Calls.at_set_iff at_call] at at_other
    split at at_other
    · next same =>
      rw [same]
      exact ⟨i, file, source, at_i⟩
    · apply recorded.unanswered other c at_other unanswered

/-- Every step of a task continues the history. -/
theorem step {a : TaskAction} {later : Parsing} (step : p.Step a later) :
  ∃ more, Recorded capacity h files (history ++ more) later
  := by
  cases step with
  | fail at_i text =>
    use []
    rw [List.append_nil]
    apply recorded.set at_i
    · intro source read
      rw [text] at read
      cases read
    · intro _ _ _ stage
      cases stage
  | read at_i text => exact ⟨_, recorded.read at_i text rfl⟩
  | request at_i _ => exact ⟨_, recorded.request at_i⟩
  | @finish i call file source answer at_i answered =>
    use []
    rw [List.append_nil]
    obtain ⟨text, serial, asked⟩ := recorded.shown i _ at_i
    apply recorded.set at_i
    · intro other read
      rw [text] at read
      cases read
      apply mem_requests_of_getElem? asked
    · intro _ _ c stage at_call unanswered
      cases stage
      rw [Task.answer?, at_call, Option.bind_some, unanswered] at answered
      cases answered
  | join at_i =>
    use []
    rw [List.append_nil]
    apply recorded.set at_i _ _
    · intro _ _ _ stage
      cases stage
    · apply recorded.shown _ _ at_i

end Recorded

/-- In every run the tasks of document files have a history. -/
theorem exists_recorded_run (capacity : Nat) (h : 0 < capacity) (files : List DocumentFile)
    (schedule : List TaskAction) :
  ∃ history, Recorded capacity h files history ((start capacity h files).run schedule)
  := by
  apply run_keeps (P := fun p => ∃ history, Recorded capacity h files history p)
  · rintro p a later ⟨history, recorded⟩ step
    obtain ⟨more, continued⟩ := recorded.step step
    exact ⟨_, continued⟩
  · exact ⟨[], recorded_start capacity h files⟩

end Parsing

end LinkedSchema.Command
