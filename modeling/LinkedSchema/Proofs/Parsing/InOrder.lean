import LinkedSchema.Proofs.Parsing.Completion

/-!
# One task after another

A task whose request meets no other ends after six steps (`Task.ends_in_six_steps`).  Hence the
schedule in which one task after another takes its steps and is joined is complete
(`Parsing.complete_inOrder`), and it is the one that `parseFiles` runs (`parseFiles_eq`).
-/

namespace LinkedSchema.Command

open OrderedMap (lookup)
open DocumentAction (toAction)

/-! ### One task -/

namespace Task

/-- The requests and a task after some steps of the task. -/
def steps (requests : Calls SharedDocument DocumentFault) (task : Task) :
    Nat → Calls SharedDocument DocumentFault × Task
  | 0 => (requests, task)
  | n + 1 => (task.step requests).2.steps (task.step requests).1 n

theorem step_of_ended (requests : Calls SharedDocument DocumentFault) (file : DocumentFile)
    (result : FileResult) :
  Task.step requests ⟨file, .ended result⟩ = (requests, ⟨file, .ended result⟩)
  := rfl

/-- A step of a task whose request is the last one. -/
theorem step_of_last (cache : Cache SharedDocument DocumentFault)
    (calls : List (Call SharedDocument DocumentFault)) (c : Call SharedDocument DocumentFault)
    (file : DocumentFile) (source : String) :
  Task.step ⟨cache, calls ++ [c]⟩ ⟨file, .requesting source calls.length⟩
    = match c.result?.bind (DocumentCache.answer? source) with
      | some answer => (⟨cache, calls ++ [c]⟩, ⟨file, .ended (.ofAnswer file.path answer)⟩)
      | none => (⟨(c.step cache).1, calls ++ [(c.step cache).2]⟩,
        ⟨file, .requesting source calls.length⟩)
  := by
  have last : (calls ++ [c])[calls.length]? = some c := List.getElem?_concat_length
  have at_last : Calls.At ⟨cache, calls ++ [c]⟩ calls.length c := last
  simp only [Task.step, Task.answer?, last, Option.bind_some, toAction, Calls.act_advance at_last]
  cases c.result?.bind (DocumentCache.answer? source) with
  | some answer => rfl
  | none => simp only [List.set_append_right _ _ (Nat.le_refl _), Nat.sub_self, List.set_cons_zero]

/-- A task whose request meets no other ends after six steps, and leaves no key in flight. -/
theorem ends_in_six_steps (requests : Calls SharedDocument DocumentFault) (file : DocumentFile)
    (landed : requests.cache.inFlight = []) :
  ∃ later result, steps requests ⟨file, .spawned⟩ 6 = (later, ⟨file, .ended result⟩)
    ∧ later.cache.inFlight = []
  := by
  obtain ⟨cache, calls⟩ := requests
  have landed : cache.inFlight = [] := landed
  cases text : file.text with
  | error reason =>
    have fails : Task.step ⟨cache, calls⟩ ⟨file, .spawned⟩
        = (⟨cache, calls⟩, ⟨file, .ended (file.unreadable reason)⟩) := by
      simp only [Task.step, text]
    simp only [steps, fails, step_of_ended]
    exact ⟨_, _, rfl, landed⟩
  | ok source =>
    have free : cache.flight? (Fingerprint.ofText source) = none := by
      rw [Cache.flight?, landed]
      rfl
    have begins : Task.step ⟨cache, calls⟩ ⟨file, .spawned⟩
        = (⟨cache, calls ++ [⟨Fingerprint.ofText source,
            DocumentCache.parseOutcome calls.length (Fingerprint.ofText source) source,
            .claiming, false⟩]⟩, ⟨file, .requesting source calls.length⟩) := by
      simp only [Task.step, text]
      rfl
    cases found : lookup (Fingerprint.ofText source) cache.entries with
    | some document =>
      simp only [steps, begins, step_of_last, Call.result?, Call.step, Cache.claim, found,
        Option.bind_some, Option.bind_none, DocumentCache.answer?, step_of_ended]
      exact ⟨_, _, rfl, landed⟩
    | none =>
      have answered := DocumentCache.answer?_parseOutcome calls.length source
      simp only [steps, begins, step_of_last, Call.result?, Call.step, Cache.claim, found, free,
        Option.bind_some, Option.bind_none, answered]
      refine ⟨_, _, rfl, ?_⟩
      simp [Cache.publish, Cache.settle_inFlight, landed]

end Task

/-! ### All tasks -/

namespace Parsing

/-- Steps of one task alone are steps of that task and the requests. -/
theorem run_replicate_advance {p : Parsing} {i : Nat} {task : Task} (at_i : p.At i task) (n : Nat) :
  p.run (List.replicate n (.advance i))
    = { p with
        requests := (task.steps p.requests n).1
        tasks := p.tasks.set i (task.steps p.requests n).2 }
  := by
  induction n generalizing p task with
  | zero =>
    rw [Task.steps, set_self at_i]
    rfl
  | succ n ih =>
    have next : (p.act (.advance i)).At i (task.step p.requests).2 := by
      rw [act_advance at_i, at_set_iff at_i, if_pos rfl]
    have later := ih next
    rw [List.replicate_succ, run, List.foldl_cons]
    apply later.trans
    simp only [act_advance at_i, Task.steps, List.set_set]

/-- A task that takes all its steps while no other does is joined, and leaves no key in flight. -/
theorem run_alone {p : Parsing} {i : Nat} {file : DocumentFile} (at_i : p.At i ⟨file, .spawned⟩)
    (landed : p.requests.cache.inFlight = []) :
  ∃ requests results, p.run (List.replicate 6 (.advance i) ++ [.join i])
      = ⟨requests, p.tasks.set i ⟨file, .joined⟩, results⟩
    ∧ requests.cache.inFlight = []
  := by
  obtain ⟨requests, result, ends, left⟩ := Task.ends_in_six_steps p.requests file landed
  have advanced := run_replicate_advance at_i 6
  rw [ends] at advanced
  have at_end : At ⟨requests, p.tasks.set i ⟨file, .ended result⟩, p.results⟩ i
      ⟨file, .ended result⟩ := by
    rw [at_set_iff at_i, if_pos rfl]
  rw [run, List.foldl_append, List.foldl_cons, List.foldl_nil]
  rw [run] at advanced
  rw [advanced, (Step.join at_end).act_eq, List.set_set]
  exact ⟨requests, _, rfl, left⟩

/-- After the first tasks have taken their turns, they have been joined, the others have not begun,
and no key is in flight. -/
theorem run_inOrder (capacity : Nat) (h : 0 < capacity) (files : List DocumentFile) {count : Nat}
    (bounded : count ≤ files.length) :
  let p := (start capacity h files).run (inOrder count)
  p.requests.cache.inFlight = []
    ∧ p.tasks.map Task.file = files
    ∧ ∀ i task, p.At i task → task.stage = if i < count then .joined else .spawned
  := by
  induction count with
  | zero =>
    and_intros
    · rfl
    · apply (recorded_start capacity h files).map_file
    · intro i task at_i
      change (files.map _)[i]? = some task at at_i
      rw [List.getElem?_map] at at_i
      obtain ⟨file, -, rfl⟩ := Option.map_eq_some_iff.mp at_i
      rfl
  | succ count ih =>
    obtain ⟨landed, same_files, stages⟩ := ih (Nat.le_of_succ_le bounded)
    generalize before : (start capacity h files).run (inOrder count) = p at landed same_files stages
    have in_range : count < p.tasks.length := by
      rw [← List.length_map (f := Task.file), same_files]
      apply bounded
    obtain ⟨file, at_count⟩ : ∃ file, p.At count ⟨file, .spawned⟩ := by
      have at_count : p.At count p.tasks[count] := List.getElem?_eq_getElem in_range
      have stage := stages count _ at_count
      rw [if_neg (Nat.lt_irrefl count)] at stage
      use p.tasks[count].file
      rw [← stage]
      apply at_count
    obtain ⟨requests, results, ran, left⟩ := run_alone at_count landed
    have after : (start capacity h files).run (inOrder (count + 1))
        = ⟨requests, p.tasks.set count ⟨file, .joined⟩, results⟩ := by
      rw [← ran, ← before]
      simp only [inOrder, List.range_succ, List.flatMap_append, List.flatMap_singleton, run,
        List.foldl_append]
    rw [after]
    use left
    constructor
    · apply (map_file_set at_count _).trans same_files
    · intro i task at_i
      rw [at_set_iff at_count] at at_i
      split at at_i
      · next same =>
        rw [at_i, if_pos (by omega)]
      · next different =>
        rw [stages i task at_i]
        have earlier : i < count + 1 ↔ i < count := by omega
        simp only [earlier]

/-- The schedule in which one task after another takes its steps joins every task. -/
theorem complete_inOrder (capacity : Nat) (h : 0 < capacity) (files : List DocumentFile) :
  ((start capacity h files).run (inOrder files.length)).Complete
  := by
  obtain ⟨-, same_files, stages⟩ := run_inOrder capacity h files (Nat.le_refl _)
  intro task member
  obtain ⟨i, at_i⟩ := List.mem_iff_getElem?.mp member
  rw [stages i task at_i, if_pos]
  rw [← same_files, List.length_map]
  apply (List.getElem?_eq_some_iff.mp at_i).1

end Parsing

/-- Document files are parsed by the schedule in which one task after another takes its steps. -/
theorem parseFiles_eq (capacity : Nat) (h : 0 < capacity) (files : List DocumentFile) :
  parseFiles capacity files
    = ((Parsing.start capacity h files).run (Parsing.inOrder files.length)).report
  := by
  rw [parseFiles, Cache.new, dif_pos h]
  rfl

end LinkedSchema.Command
