import LinkedSchema.Proofs.Loading.Reachable

/-!
# Sequences of loads

A sequence of loads (`Loader.loadEach`) takes up texts and files one after another.  No visit looks
at the options of the loader (`Loader.visit_withOptions`).  Hence a sequence of loads stops with the
same fault whatever the options are, or else takes up the same definitions
(`Loader.loadEach_withOptions`).
-/

namespace LinkedSchema

open Document (Definition Operation)

/-- A load: of a text, under the name of its file if it has one, or of files that can be read. -/
inductive Load where
  | text (file : Option String) (text : String)
  | files (read : String → Except ReadFault String) (names : List String)

namespace Loader

/-- Takes up what a load gives. -/
def loadOne (l : Loader) : Load → Except LoadFault Loader
  | .text file text => l.load file text
  | .files read names => l.loadFiles read names

/-- Takes up what loads give, one after another, until one of them stops the loading. -/
def loadEach (l : Loader) : List Load → Except LoadFault Loader
  | [] => .ok l
  | load :: rest =>
    match l.loadOne load with
    | .error fault => .error fault
    | .ok l => l.loadEach rest

/-- A loader that loads lead to from a reachable one is reachable. -/
theorem Reachable.loadEach {options : Options} {l later : Loader} (h : Reachable options l)
    {loads : List Load} (loaded : l.loadEach loads = .ok later) :
  Reachable options later
  := by
  induction loads generalizing l with
  | nil =>
    cases loaded
    apply h
  | cons load rest ih =>
    rw [Loader.loadEach] at loaded
    split at loaded
    · cases loaded
    · next next taken =>
      cases load with
      | text file text => apply ih (h.load taken) loaded
      | files read names => apply ih (h.loadFiles taken) loaded

/-! ### What loads do not look at -/

/-- A loader with other options. -/
def withOptions (options : Options) (l : Loader) : Loader := { l with options := options }

section WithOptions

variable (options : Options)

/-- A visit does not look at the options. -/
theorem visit_withOptions (file : String) (l : Loader) (d : Definition) :
  (l.withOptions options).visit file d = (l.visit file d).withOptions options
  := by
  calc (l.withOptions options).visit file d
    _ = (l.visit file d).amid options [] l.unnamed := visit_amid l options [] l.unnamed file d
    _ = (l.visit file d).withOptions options := by
      rw [amid, ← unnamed_visit l file d, List.nil_append, withOptions]

theorem visitAll_withOptions (file : String) (l : Loader) (ds : List Definition) :
  (l.withOptions options).visitAll file ds = (l.visitAll file ds).withOptions options
  := by
  induction ds generalizing l with
  | nil => rfl
  | cons d rest ih =>
    rw [visitAll, visitAll, List.foldl_cons, List.foldl_cons, visit_withOptions]
    apply ih

theorem loadNamed_withOptions (l : Loader) (file text : String) :
  (l.withOptions options).loadNamed file text
    = (l.loadNamed file text).map (withOptions options)
  := by
  rw [loadNamed, loadNamed]
  cases Document.parseSchema text with
  | error position => rfl
  | ok ds => exact congrArg Except.ok (visitAll_withOptions options file l ds)

theorem load_withOptions (l : Loader) (file : Option String) (text : String) :
  (l.withOptions options).load file text = (l.load file text).map (withOptions options)
  := by
  cases file with
  | some file => apply loadNamed_withOptions
  | none => exact loadNamed_withOptions options { l with unnamed := l.unnamed + 1 } _ text

theorem loadFiles_withOptions (read : String → Except ReadFault String) (l : Loader)
    (files : List String) :
  (l.withOptions options).loadFiles read files
    = (l.loadFiles read files).map (withOptions options)
  := by
  induction files generalizing l with
  | nil => rfl
  | cons file rest ih =>
    rw [loadFiles, loadFiles]
    cases read file with
    | error reason => rfl
    | ok text =>
      simp only [loadNamed_withOptions]
      cases l.loadNamed file text with
      | error fault => rfl
      | ok next => apply ih

/-- Loads stop with the same fault whatever the options are, or take up the same definitions. -/
theorem loadEach_withOptions (l : Loader) (loads : List Load) :
  (l.withOptions options).loadEach loads = (l.loadEach loads).map (withOptions options)
  := by
  induction loads generalizing l with
  | nil => rfl
  | cons load rest ih =>
    have one : (l.withOptions options).loadOne load
        = (l.loadOne load).map (withOptions options) := by
      cases load with
      | text file text => apply load_withOptions
      | files read names => apply loadFiles_withOptions
    rw [loadEach, loadEach, one]
    cases l.loadOne load with
    | error fault => rfl
    | ok next => apply ih

end WithOptions

end Loader

end LinkedSchema
