import LinkedSchema.Cache.DocumentCalls
import LinkedSchema.Command.Find

/-!
# Tasks that parse documents

Every document file is parsed by a task of its own, and all tasks share a document cache.  A task
reads its file, requests the document of the text and ends with what the file comes to; then it is
joined, and its result is collected.  A `Parsing` goes on by one task at a time (`Parsing.act`), and
a schedule is a list of actions.  In the end the results are summed up (`Parsing.report`).  What a
file comes to on its own, without a cache, is `DocumentFile.parse`.
-/

namespace LinkedSchema.Command

/-! ### Document files -/

/-- A document file: its path, and its text or the reason why it cannot be read. -/
structure DocumentFile where
  path : String
  text : Except String String

/-- The document file of a file that was found. -/
def FoundFile.document (file : FoundFile) : DocumentFile where
  path := file.path
  text := (Text.Utf8.decode file.bytes).mapError fun _ => "stream did not contain valid UTF-8"

/-- What a document file comes to: the number of operations in it, or a fault. -/
abbrev FileResult := Except CommandFault Nat

/-- The number of operations in a document. -/
def operationCount (definitions : List Document.Executable) : Nat :=
  definitions.countP Document.Executable.isOperation

/-- What a document file at a path comes to when a request for the document of its text is given an
answer. -/
def FileResult.ofAnswer (path : String)
    (answer : Except DocumentFault (String × List Document.Executable)) : FileResult :=
  match answer with
  | .ok (_, definitions) => .ok (operationCount definitions)
  | .error fault => .error (.document path fault)

/-- What a document file that cannot be read comes to. -/
def DocumentFile.unreadable (file : DocumentFile) (reason : String) : FileResult :=
  .error (.unreadable file.path reason)

/-- What a document file comes to on its own, with its text parsed without a cache. -/
def DocumentFile.parse (file : DocumentFile) : FileResult :=
  match file.text with
  | .error reason => file.unreadable reason
  | .ok source => .ofAnswer file.path (DocumentCache.parseUncached source)

/-! ### Results -/

/-- What parsing documents comes to. -/
structure Summary where
  documents : Nat := 0
  distinct : Nat := 0
  operations : Nat := 0
deriving DecidableEq, Inhabited

/-- The faults among results. -/
def faultsOf (results : List FileResult) : List CommandFault :=
  results.filterMap fun
    | .ok _ => none
    | .error fault => some fault

/-- The operation counts among results. -/
def countsOf (results : List FileResult) : List Nat := results.filterMap Except.toOption

/-- Sums up the results of files, of which the cache keeps `distinct` documents. -/
def Summary.ofResults (results : List FileResult) (distinct : Nat) : Summary where
  documents := (countsOf results).length
  distinct := distinct
  operations := (countsOf results).foldr (· + ·) 0

/-! ### Tasks -/

/-- Where the task of a document file stands. -/
inductive TaskStage where
  /-- The file has not been read yet. -/
  | spawned
  /-- The document of the text has been requested, by the call with a number. -/
  | requesting (source : String) (call : Nat)
  /-- The task has ended, and nobody knows yet. -/
  | ended (result : FileResult)
  /-- The result of the task has been collected. -/
  | joined

/-- A task, with the document file that it parses. -/
structure Task where
  file : DocumentFile
  stage : TaskStage

/-- The answer to the request for the document of a text, once the call that makes it has
returned. -/
def Task.answer? (requests : Calls SharedDocument DocumentFault) (source : String) (call : Nat) :
    Option (Except DocumentFault (String × List Document.Executable)) :=
  ((requests.calls[call]?).bind Call.result?).bind (DocumentCache.answer? source)

/-- The next step of a task.  A task whose request has not been answered takes the next step of the
request. -/
def Task.step (requests : Calls SharedDocument DocumentFault) (task : Task) :
    Calls SharedDocument DocumentFault × Task :=
  match task.stage with
  | .spawned =>
    match task.file.text with
    | .error reason => (requests, { task with stage := .ended (task.file.unreadable reason) })
    | .ok source =>
      let call := requests.calls.length
      (requests.act (DocumentAction.begin (.parse source) call).toAction,
        { task with stage := .requesting source call })
  | .requesting source call =>
    match Task.answer? requests source call with
    | some answer => (requests, { task with stage := .ended (.ofAnswer task.file.path answer) })
    | none => (requests.act (DocumentAction.advance call).toAction, task)
  | .ended _ | .joined => (requests, task)

/-- Document files that are being parsed. -/
structure Parsing where
  /-- The cache that the tasks share, with their requests. -/
  requests : Calls SharedDocument DocumentFault
  tasks : List Task
  /-- The results of the tasks that have been joined, in this order. -/
  results : List FileResult

/-- Something that happens to tasks at one moment: one of them takes its next step, or one that has
ended is joined. -/
inductive TaskAction where
  | advance (task : Nat)
  | join (task : Nat)
deriving DecidableEq, Inhabited

namespace Parsing

/-- Spawns a task for every document file. -/
def spawn (cache : Cache SharedDocument DocumentFault) (files : List DocumentFile) : Parsing where
  requests := ⟨cache, []⟩
  tasks := files.map fun file => ⟨file, .spawned⟩
  results := []

/-- The effect of an action. -/
def act (p : Parsing) : TaskAction → Parsing
  | .advance i =>
    match p.tasks[i]? with
    | none => p
    | some task =>
      let (requests, task) := task.step p.requests
      { p with requests := requests, tasks := p.tasks.set i task }
  | .join i =>
    match p.tasks[i]? with
    | some ⟨file, .ended result⟩ =>
      { p with tasks := p.tasks.set i ⟨file, .joined⟩, results := p.results ++ [result] }
    | _ => p

/-- The effect of actions one after another. -/
def run (p : Parsing) (schedule : List TaskAction) : Parsing := schedule.foldl act p

/-- The schedule of some tasks in which one after another takes its steps and is joined. -/
def inOrder (count : Nat) : List TaskAction :=
  (List.range count).flatMap fun i => List.replicate 6 (.advance i) ++ [.join i]

/-- The summary of the results collected, and the faults among them.  The distinct documents are
those that the cache holds. -/
def report (p : Parsing) : Summary × List CommandFault :=
  (.ofResults p.results p.requests.cache.size, faultsOf p.results)

end Parsing

/-- Parses document files through a cache of a capacity, one after another. -/
def parseFiles (capacity : Nat) (files : List DocumentFile) : Summary × List CommandFault :=
  match Cache.new capacity with
  | .error fault => ({}, [.cache fault])
  | .ok cache => ((Parsing.spawn cache files).run (Parsing.inOrder files.length)).report

end LinkedSchema.Command
