import LinkedSchema.Proofs.Loading.Visits

/-!
# Reachable loaders

A loader is reachable with some options if loads of texts and of files lead to it from the start.
What every visit keeps holds of all reachable loaders (`Loader.Reachable.induction`); in
particular the registry of a reachable loader declares every reference in what was taken up
(`Loader.Reachable.declared`).  `Loader.Loads` keeps track of the definitions that the texts hold.
-/

namespace LinkedSchema.Loader

open Document (Definition TypeNode DirectiveNode)

/-- Whether loads of texts and of files lead to a loader from the one that knows nothing but the
built-in definitions. -/
inductive Reachable (options : Options) : Loader → Prop where
  | start : Reachable options (start options)
  | load {l later : Loader} {file : Option String} {text : String} :
      Reachable options l → l.load file text = .ok later → Reachable options later
  | loadFiles {l later : Loader} {read : String → Except ReadFault String}
      {files : List String} :
      Reachable options l → l.loadFiles read files = .ok later → Reachable options later

/-- Whether loads of texts lead to a loader from the one that knows nothing but the built-in
definitions, and the texts hold certain definitions, one after another. -/
inductive Loads (options : Options) : List Definition → Loader → Prop
  | start : Loads options [] (start options)
  | load {ds more : List Definition} {l later : Loader} {file : Option String} {text : String} :
      Loads options ds l → Document.parseSchema text = .ok more → l.load file text = .ok later →
      Loads options (ds ++ more) later

/-- A text that is loaded holds definitions, and these are visited. -/
theorem loadNamed_eq_ok_iff (l later : Loader) (file text : String) :
  l.loadNamed file text = .ok later
    ↔ ∃ ds, Document.parseSchema text = .ok ds ∧ l.visitAll file ds = later
  := by
  rw [loadNamed]
  cases Document.parseSchema text <;> simp

/-- The definitions of files that are loaded follow those of the texts before. -/
theorem Loads.loadFiles {options : Options} {ds : List Definition} {l later : Loader}
    (h : Loads options ds l) {read : String → Except ReadFault String} {files : List String}
    (loaded : l.loadFiles read files = .ok later) :
  ∃ more, Loads options (ds ++ more) later
  := by
  induction files generalizing l ds with
  | nil =>
    cases loaded
    use []
    rw [List.append_nil]
    apply h
  | cons file rest ih =>
    rw [Loader.loadFiles] at loaded
    split at loaded
    · cases loaded
    · next text _ =>
      split at loaded
      · cases loaded
      · next next taken =>
        obtain ⟨more, parsed, -⟩ := (loadNamed_eq_ok_iff _ _ _ _).mp taken
        have taken : l.load (some file) text = .ok next := taken
        obtain ⟨others, loads⟩ := ih (h.load parsed taken) loaded
        use more ++ others
        rw [← List.append_assoc]
        apply loads

/-- A reachable loader is led to by texts that hold some definitions. -/
theorem Reachable.exists_loads {options : Options} {l : Loader} (h : Reachable options l) :
  ∃ ds, Loads options ds l
  := by
  induction h with
  | start => exact ⟨[], .start⟩
  | @load l later file text _ loaded ih =>
    obtain ⟨ds, loads⟩ := ih
    have parsed : ∃ more, Document.parseSchema text = .ok more := by
      cases file with
      | some file =>
        obtain ⟨more, parsed, -⟩ := (loadNamed_eq_ok_iff _ _ _ _).mp loaded
        exact ⟨more, parsed⟩
      | none =>
        obtain ⟨more, parsed, -⟩ := (loadNamed_eq_ok_iff _ _ _ _).mp loaded
        exact ⟨more, parsed⟩
    obtain ⟨more, parsed⟩ := parsed
    exact ⟨ds ++ more, loads.load parsed loaded⟩
  | loadFiles _ loaded ih =>
    obtain ⟨ds, loads⟩ := ih
    obtain ⟨more, loads⟩ := loads.loadFiles loaded
    exact ⟨ds ++ more, loads⟩

/-- A loader to which loads of texts lead is reachable. -/
theorem Loads.reachable {options : Options} {ds : List Definition} {l : Loader}
    (loads : Loads options ds l) :
  Reachable options l
  := by
  induction loads with
  | start => apply Reachable.start
  | load _ _ loaded ih => apply ih.load loaded

section Keeps

variable {P : Loader → Prop} (visit : ∀ l file definition, P l → P (l.visit file definition))

include visit

/-- What every visit keeps is kept by the visits of a document. -/
theorem visitAll_keeps {l : Loader} (h : P l) (file : String) (definitions : List Definition) :
  P (l.visitAll file definitions)
  := by
  induction definitions generalizing l with
  | nil => apply h
  | cons definition rest ih => apply ih (visit l file definition h)

/-- What every visit keeps is kept when a document of a file is taken up. -/
theorem loadNamed_keeps {l later : Loader} (h : P l) {file text : String}
    (loaded : l.loadNamed file text = .ok later) :
  P later
  := by
  rw [loadNamed] at loaded
  split at loaded
  · cases loaded
  · cases loaded
    apply visitAll_keeps visit h

/-- What every visit keeps is kept when files are taken up. -/
theorem loadFiles_keeps {l later : Loader} (h : P l) {read : String → Except ReadFault String}
    {files : List String} (loaded : l.loadFiles read files = .ok later) :
  P later
  := by
  induction files generalizing l with
  | nil =>
    cases loaded
    apply h
  | cons file rest ih =>
    rw [loadFiles] at loaded
    split at loaded
    · cases loaded
    · split at loaded
      · cases loaded
      · next taken => apply ih (loadNamed_keeps visit h taken) loaded

/-- What holds at the start and is kept by every visit, and does not depend on the number of
documents without a file name, holds of every reachable loader. -/
theorem Reachable.induction {options : Options} (start : P (Loader.start options))
    (unnamed : ∀ l n, P l → P { l with unnamed := n }) {l : Loader} (h : Reachable options l) :
  P l
  := by
  induction h with
  | start => apply start
  | @load l later file text _ loaded ih =>
    cases file with
    | some file => apply loadNamed_keeps visit ih loaded
    | none => apply loadNamed_keeps visit (unnamed l _ ih) loaded
  | loadFiles _ loaded ih => apply loadFiles_keeps visit ih loaded

end Keeps

/-! ### Declared references -/

/-- Whether the registry of a loader declares every reference in what was taken up. -/
structure Declared (l : Loader) : Prop where
  types : ∀ entry ∈ l.types.entries, ∀ r ∈ entry.2.references, l.registry.Declares r
  extensions : ∀ extension ∈ l.extensions, ∀ r ∈ extension.references, l.registry.Declares r
  directives : ∀ entry ∈ l.directives.entries, ∀ r ∈ entry.2.references, l.registry.Declares r

/-- A loader that has declared more has still declared what it did. -/
theorem Declared.mono {l : Loader} (h : l.Declared) {registry : Registry}
    (grows : l.registry.declared <+: registry.declared) :
  Declared { l with registry := registry }
  where
  types entry member r mentioned := (h.types entry member r mentioned).mono grows
  extensions extension member r mentioned := (h.extensions extension member r mentioned).mono grows
  directives entry member r mentioned := (h.directives entry member r mentioned).mono grows

/-- After a type is kept, its references are declared too. -/
theorem Declared.type {l : Loader} (h : l.Declared) (file : Option String) (node : TypeNode) :
  Declared { l.declaring (node.declarations file) with
    types := l.types.insert node.name (node.define file l.registry.size) }
  := by
  have grown := h.mono (List.prefix_append l.registry.declared (node.declarations file))
  refine ⟨?_, grown.extensions, grown.directives⟩
  intro entry member r mentioned
  rcases OrderedMap.mem_put member with rfl | before
  · apply TypeNode.declares_of_mem_define mentioned
  · apply grown.types entry before r mentioned

/-- After an extension is kept, its references are declared too. -/
theorem Declared.extension {l : Loader} (h : l.Declared) (file : Option String)
    (node : TypeNode) :
  Declared { l.declaring (node.declarations file) with
    extensions := l.extensions ++ [node.define file l.registry.size] }
  := by
  have grown := h.mono (List.prefix_append l.registry.declared (node.declarations file))
  refine ⟨grown.types, ?_, grown.directives⟩
  intro extension member r mentioned
  rcases List.mem_append.mp member with before | new
  · apply grown.extensions extension before r mentioned
  · rw [List.mem_singleton] at new
    subst new
    apply TypeNode.declares_of_mem_define mentioned

/-- After a directive is kept, its references are declared too. -/
theorem Declared.directive {l : Loader} (h : l.Declared) (file : Option String)
    (node : DirectiveNode) :
  Declared { l.declaring (node.declarations file) with
    directives := l.directives.insert node.name (node.define file l.registry.size) }
  := by
  have grown := h.mono (List.prefix_append l.registry.declared (node.declarations file))
  refine ⟨grown.types, grown.extensions, ?_⟩
  intro entry member r mentioned
  rcases OrderedMap.mem_put member with rfl | before
  · apply DirectiveNode.declares_of_mem_define mentioned
  · apply grown.directives entry before r mentioned

/-- Every visit declares the references in what it takes up. -/
theorem Declared.visit {l : Loader} (h : l.Declared) (file : String) (definition : Definition) :
  (l.visit file definition).Declared
  := by
  cases definition with
  | schema node =>
    obtain ⟨faults, roots, visited, -⟩ := l.visitSchema_cases file node
    rw [Loader.visit, visited]
    exact ⟨h.types, h.extensions, h.directives⟩
  | type node =>
    obtain ⟨-, registry, faults, -, grows, visited⟩ | ⟨-, existing, -, visited⟩
        | ⟨-, -, visited⟩ := l.visitType_cases file node
    · rw [Loader.visit, visited]
      have grown := h.mono grows
      exact ⟨grown.types, grown.extensions, grown.directives⟩
    · rw [Loader.visit, visited]
      have grown := h.mono
        (List.prefix_append l.registry.declared (node.declarations (some file)))
      exact ⟨grown.types, grown.extensions, grown.directives⟩
    · rw [Loader.visit, visited]
      apply h.type
  | extension node =>
    obtain ⟨-, registry, faults, -, grows, visited⟩ | ⟨-, visited⟩ :=
      l.visitExtension_cases file node
    · rw [Loader.visit, visited]
      have grown := h.mono grows
      exact ⟨grown.types, grown.extensions, grown.directives⟩
    · rw [Loader.visit, visited]
      apply h.extension
  | directive node =>
    obtain ⟨-, fault, visited⟩ | ⟨-, -, registry, faults, -, grows, visited⟩ | ⟨-, -, visited⟩ :=
      l.visitDirective_cases file node
    · rw [Loader.visit, visited]
      exact ⟨h.types, h.extensions, h.directives⟩
    · rw [Loader.visit, visited]
      have grown := h.mono grows
      exact ⟨grown.types, grown.extensions, grown.directives⟩
    · rw [Loader.visit, visited]
      apply h.directive

/-- The references of the built-in definitions are declared. -/
theorem declared_start (options : Options) :
  (start options).Declared
  where
  types := by
    intro entry member r mentioned
    simp only [start, BuiltIn.scalars, List.mem_map] at member
    obtain ⟨text, -, rfl⟩ := member
    simp [BuiltIn.scalar, TypeDefinition.references, OrderedMap.empty, OrderedMap.values]
      at mentioned
  extensions := by
    intro extension member
    cases member
  directives := by
    have declared : ∀ entry ∈ BuiltIn.directives.1.entries, ∀ r ∈ entry.2.references,
        BuiltIn.directives.2.declared[r.symbol]? = some ⟨r.name, r.location⟩ := by decide
    apply declared

/-- Every reference in what a reachable loader has taken up is declared. -/
theorem Reachable.declared {options : Options} {l : Loader} (h : Reachable options l) :
  l.Declared
  := by
  apply Reachable.induction (fun l file definition h => h.visit file definition)
    (declared_start options) _ h
  intro l n h
  exact ⟨h.types, h.extensions, h.directives⟩

end LinkedSchema.Loader
