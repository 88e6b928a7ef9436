import LinkedSchema.Proofs.Loading.Contents

/-!
# Histories

The definitions that a loader has taken up, each with the name of its file, are its history
(`Loader.History`).  A visit does not look at the faults found before it, nor at the number of
documents without a file name (`Loader.visit_following`).  Hence a loader is what visiting its
history from the start makes of it, but for that number (`Loader.History.eq_visitEach`).
-/

/-- If what is computed passes a test, the computation has not failed. -/
theorem Except.exists_ok_of_any {ε α : Type} {computed : Except ε α} {test : α → Bool}
    (passed : computed.toOption.any test) :
  ∃ a, computed = .ok a ∧ test a
  := by
  cases computed with
  | error _ => cases passed
  | ok a => exact ⟨a, rfl, passed⟩

namespace LinkedSchema.Loader

open Document (Definition SchemaNode TypeNode DirectiveNode Operation)

/-! ### Visits of a history -/

/-- Takes up definitions, each of its own file. -/
def visitEach (l : Loader) (ds : List (String × Definition)) : Loader :=
  ds.foldl (fun l d => l.visit d.1 d.2) l

theorem visitEach_cons (l : Loader) (d : String × Definition) (rest : List (String × Definition)) :
  l.visitEach (d :: rest) = (l.visit d.1 d.2).visitEach rest
  := rfl

theorem visitEach_append (l : Loader) (ds more : List (String × Definition)) :
  l.visitEach (ds ++ more) = (l.visitEach ds).visitEach more
  := List.foldl_append

/-- The definitions of one file are taken up as those of their file. -/
theorem visitAll_eq_visitEach (file : String) (l : Loader) (ds : List Definition) :
  l.visitAll file ds = l.visitEach (ds.map fun d => (file, d))
  := by rw [visitEach, List.foldl_map, visitAll]

/-- A definition as it is visited: the file in which it stands, and the registry in which it is
built. -/
structure Visit (α : Type) where
  file : String
  node : α
  registry : Registry

/-- A visit of what is of a sort. -/
def Visit.of? {α : Type} (sort : Definition → Option α) (v : Visit Definition) :
    Option (Visit α) :=
  (sort v.node).map fun node => ⟨v.file, node, v.registry⟩

/-- The visits of definitions from a loader on. -/
def visits (l : Loader) : List (String × Definition) → List (Visit Definition)
  | [] => []
  | d :: rest => ⟨d.1, d.2, l.registry⟩ :: (l.visit d.1 d.2).visits rest

/-- The visits of types from a loader on. -/
def typeVisits (l : Loader) (ds : List (String × Definition)) : List (Visit TypeNode) :=
  (l.visits ds).filterMap (Visit.of? Definition.type?)

/-- The visits of extensions from a loader on. -/
def extensionVisits (l : Loader) (ds : List (String × Definition)) : List (Visit TypeNode) :=
  (l.visits ds).filterMap (Visit.of? Definition.extension?)

/-- The visits of directives from a loader on. -/
def directiveVisits (l : Loader) (ds : List (String × Definition)) :
    List (Visit DirectiveNode) :=
  (l.visits ds).filterMap (Visit.of? Definition.directive?)

/-! ### Faults found before -/

/-- A loader that had found some faults before its own, and has taken up some number of documents
without a file name. -/
def following (l : Loader) (faults : List Fault) (unnamed : UInt16) : Loader :=
  { l with faults := faults ++ l.faults, unnamed := unnamed }

/-- A visit does not look at the faults found before, nor at the number of documents. -/
theorem visit_following (l : Loader) (faults : List Fault) (n : UInt16) (file : String)
    (d : Definition) :
  (l.following faults n).visit file d = (l.visit file d).following faults n
  := by
  calc (l.following faults n).visit file d
    _ = (l.visit file d).amid l.options faults n := visit_amid l l.options faults n file d
    _ = (l.visit file d).following faults n := by rw [amid, ← options_visit file l d, following]

theorem visitEach_following (l : Loader) (faults : List Fault) (n : UInt16)
    (ds : List (String × Definition)) :
  (l.following faults n).visitEach ds = (l.visitEach ds).following faults n
  := by
  induction ds generalizing l with
  | nil => rfl
  | cons d rest ih =>
    rw [visitEach_cons, visitEach_cons, visit_following]
    apply ih

/-- More definitions account for visits of them. -/
theorem Accounts.visitEach {options : Options} {ds : List Definition} {l : Loader}
    (h : Accounts options ds l) (more : List (String × Definition)) :
  Accounts options (ds ++ more.map Prod.snd) (l.visitEach more)
  := by
  induction more generalizing ds l with
  | nil =>
    rw [List.map_nil, List.append_nil]
    apply h
  | cons d rest ih =>
    rw [List.map_cons, List.append_cons]
    apply ih (h.visit d.1 d.2)

/-! ### Histories -/

/-- The name of the file of a document that is loaded: one without a name is named after the number
of such documents before it. -/
def sourceName (l : Loader) (file : Option String) : String :=
  file.getD ("str://" ++ toString l.unnamed)

/-- Whether loads of texts lead to a loader from the one that knows nothing but the built-in
definitions, and the texts hold certain definitions, each in a certain file. -/
inductive History (options : Options) : List (String × Definition) → Loader → Prop
  | start : History options [] (start options)
  | load {ds : List (String × Definition)} {more : List Definition} {l later : Loader}
      {file : Option String} {text : String} :
      History options ds l → Document.parseSchema text = .ok more → l.load file text = .ok later →
      History options (ds ++ more.map fun d => (l.sourceName file, d)) later

/-- A text that is loaded holds definitions, and these are visited. -/
theorem load_eq_ok {l later : Loader} {file : Option String} {text : String}
    (loaded : l.load file text = .ok later) :
  ∃ ds n, Document.parseSchema text = .ok ds
    ∧ later = (l.visitEach (ds.map fun d => (l.sourceName file, d))).following [] n
  := by
  cases file with
  | some file =>
    obtain ⟨ds, parsed, rfl⟩ := (loadNamed_eq_ok_iff _ _ _ _).mp loaded
    use ds, l.unnamed, parsed
    rw [visitAll_eq_visitEach, ← visitEach_following]
    rfl
  | none =>
    obtain ⟨ds, parsed, rfl⟩ := (loadNamed_eq_ok_iff _ _ _ _).mp loaded
    use ds, l.unnamed + 1, parsed
    rw [visitAll_eq_visitEach, ← visitEach_following]
    rfl

/-- A loader is what visiting its history from the start makes of it, but for the number of
documents without a file name. -/
theorem History.eq_visitEach {options : Options} {ds : List (String × Definition)} {l : Loader}
    (h : History options ds l) :
  ∃ n, l = ((Loader.start options).visitEach ds).following [] n
  := by
  induction h with
  | start => exact ⟨0, rfl⟩
  | @load ds more l later file text _ parsed loaded ih =>
    obtain ⟨m, same⟩ := ih
    obtain ⟨others, n, parsed_others, rfl⟩ := load_eq_ok loaded
    rw [parsed] at parsed_others
    cases parsed_others
    use n
    -- Only the loader that is visited is replaced: the name of the file stays as it is.
    generalize l.sourceName file = name
    rw [same, visitEach_following, visitEach_append]
    rfl

/-- Definitions that are loaded have been taken up in certain files. -/
theorem Loads.exists_history {options : Options} {ds : List Definition} {l : Loader}
    (h : Loads options ds l) :
  ∃ placed, placed.map Prod.snd = ds ∧ History options placed l
  := by
  induction h with
  | start => exact ⟨[], rfl, .start⟩
  | @load ds more l later file text _ parsed loaded ih =>
    obtain ⟨placed, rfl, history⟩ := ih
    use placed ++ more.map fun d => (l.sourceName file, d)
    use by simp [Function.comp_def], history.load parsed loaded

/-- Every reachable loader has a history. -/
theorem Reachable.exists_history {options : Options} {l : Loader} (h : Reachable options l) :
  ∃ ds, History options ds l
  := by
  obtain ⟨ds, loads⟩ := h.exists_loads
  obtain ⟨placed, -, history⟩ := loads.exists_history
  exact ⟨placed, history⟩

end LinkedSchema.Loader
