import LinkedSchema.Command.Tasks
import LinkedSchema.Proofs.Cache.Transparency

/-!
# Steps of tasks

`Parsing.Step p a later` lists everything that can happen at one moment to tasks that parse document
files.  An action is one of these steps, or nothing happens (`Parsing.act_cases`).
-/

namespace LinkedSchema.Command.Parsing

/-- Whether a task is the one with a number. -/
def At (p : Parsing) (i : Nat) (task : Task) : Prop := p.tasks[i]? = some task

theorem At.unique {p : Parsing} {i : Nat} {task other : Task} (h : p.At i task)
    (h' : p.At i other) :
  task = other
  := Option.some.inj (h.symm.trans h')

/-- Everything that can happen at one moment, with the action that it is. -/
inductive Step (p : Parsing) : TaskAction → Parsing → Prop where
  /-- A task cannot read its file. -/
  | fail {i : Nat} {file : DocumentFile} {reason : String} : p.At i ⟨file, .spawned⟩ →
      file.text = .error reason →
      Step p (.advance i)
        { p with tasks := p.tasks.set i ⟨file, .ended (file.unreadable reason)⟩ }
  /-- A task reads its file and requests the document. -/
  | read {i : Nat} {file : DocumentFile} {source : String} : p.At i ⟨file, .spawned⟩ →
      file.text = .ok source →
      Step p (.advance i)
        { p with
          requests := p.requests.act
            (DocumentAction.begin (.parse source) p.requests.calls.length).toAction
          tasks := p.tasks.set i ⟨file, .requesting source p.requests.calls.length⟩ }
  /-- The request of a task goes on. -/
  | request {i call : Nat} {file : DocumentFile} {source : String} :
      p.At i ⟨file, .requesting source call⟩ → Task.answer? p.requests source call = none →
      Step p (.advance i)
        { p with requests := p.requests.act (DocumentAction.advance call).toAction }
  /-- A task takes up the answer to its request. -/
  | finish {i call : Nat} {file : DocumentFile} {source : String}
      {answer : Except DocumentFault (String × List Document.Executable)} :
      p.At i ⟨file, .requesting source call⟩ →
      Task.answer? p.requests source call = some answer →
      Step p (.advance i)
        { p with tasks := p.tasks.set i ⟨file, .ended (.ofAnswer file.path answer)⟩ }
  /-- A task that has ended is joined. -/
  | join {i : Nat} {file : DocumentFile} {result : FileResult} : p.At i ⟨file, .ended result⟩ →
      Step p (.join i)
        { p with tasks := p.tasks.set i ⟨file, .joined⟩, results := p.results ++ [result] }

theorem set_self {p : Parsing} {i : Nat} {task : Task} (at_i : p.At i task) :
  p.tasks.set i task = p.tasks
  := by
  obtain ⟨in_range, rfl⟩ := List.getElem?_eq_some_iff.mp at_i
  apply List.set_getElem_self

/-- A task that goes on leaves the files. -/
theorem map_file_set {p : Parsing} {i : Nat} {file : DocumentFile} {old : TaskStage}
    (at_i : p.At i ⟨file, old⟩) (new : TaskStage) :
  (p.tasks.set i ⟨file, new⟩).map Task.file = p.tasks.map Task.file
  := by
  have same := congrArg (List.map Task.file) (set_self at_i)
  rw [List.map_set] at same ⊢
  apply same

/-- What the next step of a task does. -/
theorem act_advance {p : Parsing} {i : Nat} {task : Task} (at_i : p.At i task) :
  p.act (.advance i)
    = { p with
        requests := (task.step p.requests).1
        tasks := p.tasks.set i (task.step p.requests).2 }
  := by
  rw [At] at at_i
  rw [act, at_i]

/-- The steps are what the actions do. -/
theorem Step.act_eq {p later : Parsing} {a : TaskAction} (step : p.Step a later) :
  p.act a = later
  := by
  cases step with
  | fail at_i text => simp only [act_advance at_i, Task.step, text]
  | read at_i text => simp only [act_advance at_i, Task.step, text]
  | request at_i unanswered => simp only [act_advance at_i, Task.step, unanswered, set_self at_i]
  | finish at_i answered => simp only [act_advance at_i, Task.step, answered]
  | join at_i =>
    rw [At] at at_i
    rw [act, at_i]

/-- The next step of a task is one of the steps, or nothing happens. -/
theorem advance_cases {p : Parsing} {i : Nat} {task : Task} (at_i : p.At i task) :
  p.act (.advance i) = p ∨ p.Step (.advance i) (p.act (.advance i))
  := by
  obtain ⟨file, stage⟩ := task
  cases stage with
  | spawned =>
    right
    cases text : file.text with
    | error reason =>
      have step := Step.fail at_i text
      rw [step.act_eq]
      apply step
    | ok source =>
      have step := Step.read at_i text
      rw [step.act_eq]
      apply step
  | requesting source call =>
    right
    cases answered : Task.answer? p.requests source call with
    | none =>
      have step := Step.request at_i answered
      rw [step.act_eq]
      apply step
    | some answer =>
      have step := Step.finish at_i answered
      rw [step.act_eq]
      apply step
  | ended _ | joined =>
    left
    simp only [act_advance at_i, Task.step, set_self at_i]

/-- An action is one of the steps, or nothing happens. -/
theorem act_cases (p : Parsing) (a : TaskAction) :
  p.act a = p ∨ p.Step a (p.act a)
  := by
  cases a with
  | advance i =>
    cases found : p.tasks[i]? with
    | none =>
      left
      rw [act, found]
    | some task => apply advance_cases found
  | join i =>
    rw [act]
    split
    · next file result found =>
      right
      apply Step.join found
    · left
      rfl

/-- What every step keeps is kept by a run. -/
theorem run_keeps {P : Parsing → Prop} (step : ∀ {p a later}, P p → p.Step a later → P later)
    {p : Parsing} (first : P p) (schedule : List TaskAction) :
  P (p.run schedule)
  := by
  induction schedule generalizing p with
  | nil => apply first
  | cons a rest ih =>
    apply ih
    rcases p.act_cases a with same | taken
    · rw [same]
      apply first
    · apply step first taken

/-- After a step of one task, that task is the new one, and the others are as before. -/
theorem at_set_iff {p : Parsing} {i : Nat} {old : Task} (at_i : p.At i old)
    (requests : Calls SharedDocument DocumentFault) (results : List FileResult) (new : Task)
    (j : Nat) (task : Task) :
  At ⟨requests, p.tasks.set i new, results⟩ j task ↔ if j = i then task = new else p.At j task
  := by
  rw [At, List.getElem?_set]
  have in_range : i < p.tasks.length := (List.getElem?_eq_some_iff.mp at_i).1
  by_cases same : j = i
  · subst same
    simp [in_range, eq_comm]
  · simp [same, Ne.symm same, At]

end LinkedSchema.Command.Parsing
