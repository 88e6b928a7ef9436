import LinkedSchema.Proofs.Linking.Merging
import LinkedSchema.Proofs.Loading.Reports

/-!
# Gathering

What the visits of a history build: its types, its extensions and its directives, each at its own
visit (`Loader.Gathers`).  If the visits report nothing, the loader has the types and the directives
added to its tables and the extensions held back, all of them in the order of the visits
(`Loader.exists_gathers`).
-/

namespace LinkedSchema

open Document (Definition TypeNode DirectiveNode)

/-! ### What sound nodes make -/

/-- Whether no two references of a type to its interfaces have the same name, nor any to its
members. -/
structure TypeDefinition.MentionsOnce (type : TypeDefinition) : Prop where
  interfaces : (type.interfaces.map Reference.name).Nodup
  members : (type.members.map Reference.name).Nodup

namespace Document.TypeNode

variable {node : TypeNode} (sound : node.Sound) (file : Option String) (n : Nat)

include sound

theorem Sound.mentionsOnce_define :
  (node.define file n).MentionsOnce
  where
  interfaces := by
    rw [define, Declaration.map_name_references, map_name_declarationsOf]
    apply sound.interfaces
  members := by
    rw [define, Declaration.map_name_references, map_name_declarationsOf]
    apply sound.members

theorem Sound.distinct_define :
  (node.define file n).Distinct
  where
  fields := by
    rw [(describes_define file node n).fields]
    apply sound.fields.2
  inputFields := by
    rw [(describes_define file node n).inputFields]
    apply sound.inputFields.2
  values := by
    rw [(describes_define file node n).values]
    apply sound.values.2

end Document.TypeNode

namespace Loader

/-! ### Visits that build something -/

/-- Whether a type or an extension is built at a visit. -/
def Visit.Builds (v : Visit TypeNode) (type : TypeDefinition) : Prop :=
  (v.node.build (some v.file) v.registry).1 = .ok type

/-- Whether a directive is built at a visit. -/
def Visit.BuildsDirective (v : Visit DirectiveNode) (directive : DirectiveDefinition) : Prop :=
  (v.node.build (some v.file) v.registry).1 = .ok directive

theorem Visit.builds_of_sound {v : Visit TypeNode} (sound : v.node.Sound) :
  v.Builds (v.node.define (some v.file) v.registry.size)
  := by rw [Builds, TypeNode.build_of_sound sound]

theorem Visit.buildsDirective_of_sound {v : Visit DirectiveNode} (sound : v.node.Sound) :
  v.BuildsDirective (v.node.define (some v.file) v.registry.size)
  := by rw [BuildsDirective, DirectiveNode.build_of_sound sound]

/-- What is built at a visit is what a sound node makes. -/
theorem Visit.Builds.eq_define {v : Visit TypeNode} {type : TypeDefinition} (h : v.Builds type) :
  v.node.Sound ∧ type = v.node.define (some v.file) v.registry.size
  := TypeNode.eq_define_of_build h

/-- What is built at a visit is what a sound node makes. -/
theorem Visit.BuildsDirective.eq_define {v : Visit DirectiveNode}
    {directive : DirectiveDefinition} (h : v.BuildsDirective directive) :
  directive = v.node.define (some v.file) v.registry.size
  := by
  have sound : v.node.Sound := by
    rw [← DirectiveNode.build_isOk_iff (some v.file) v.node v.registry, h]
    rfl
  rw [BuildsDirective, DirectiveNode.build_of_sound sound] at h
  cases h
  rfl

/-! ### Gathering -/

/-- Whether types, extensions and directives are what the visits of definitions build, in order. -/
structure Gathers (l : Loader) (ds : List (String × Definition))
    (bases extensions : List TypeDefinition) (directives : List DirectiveDefinition) : Prop where
  bases : List.Forall₂ Visit.Builds (l.typeVisits ds) bases
  extensions : List.Forall₂ Visit.Builds (l.extensionVisits ds) extensions
  directives : List.Forall₂ Visit.BuildsDirective (l.directiveVisits ds) directives

/-- Whether a later loader has types and directives added to its tables, and extensions held back,
after those of a loader. -/
structure Adds (l later : Loader) (bases extensions : List TypeDefinition)
    (directives : List DirectiveDefinition) : Prop where
  types : later.types.entries = l.types.entries ++ bases.map fun base => (base.name, base)
  extensions : later.extensions = l.extensions ++ extensions
  directives : later.directives.entries
    = l.directives.entries ++ directives.map fun directive => (directive.name, directive)

theorem Gathers.cons {l : Loader} {d : String × Definition} {rest : List (String × Definition)}
    {bases bases' extensions extensions' : List TypeDefinition}
    {directives directives' : List DirectiveDefinition}
    (first : l.Gathers [d] bases extensions directives)
    (others : (l.visit d.1 d.2).Gathers rest bases' extensions' directives') :
  l.Gathers (d :: rest) (bases ++ bases') (extensions ++ extensions') (directives ++ directives')
  := by
  have visited : l.visits (d :: rest) = l.visits [d] ++ (l.visit d.1 d.2).visits rest := rfl
  constructor
  · rw [typeVisits, visited, List.filterMap_append]
    apply List.rel_append first.bases others.bases
  · rw [extensionVisits, visited, List.filterMap_append]
    apply List.rel_append first.extensions others.extensions
  · rw [directiveVisits, visited, List.filterMap_append]
    apply List.rel_append first.directives others.directives

theorem Adds.refl (l : Loader) :
  l.Adds l [] [] []
  where
  types := (List.append_nil _).symm
  extensions := (List.append_nil _).symm
  directives := (List.append_nil _).symm

theorem Adds.trans {l between later : Loader}
    {bases bases' extensions extensions' : List TypeDefinition}
    {directives directives' : List DirectiveDefinition}
    (h : l.Adds between bases extensions directives)
    (h' : between.Adds later bases' extensions' directives') :
  l.Adds later (bases ++ bases') (extensions ++ extensions') (directives ++ directives')
  where
  types := by rw [h'.types, h.types, List.map_append, List.append_assoc]
  extensions := by rw [h'.extensions, h.extensions, List.append_assoc]
  directives := by rw [h'.directives, h.directives, List.map_append, List.append_assoc]

/-- A visit that reports nothing adds what it builds. -/
theorem exists_gathers_visit (l : Loader) (d : String × Definition)
    (clean : (l.visit d.1 d.2).faults = []) :
  ∃ bases extensions directives, l.Gathers [d] bases extensions directives
    ∧ l.Adds (l.visit d.1 d.2) bases extensions directives
  := by
  obtain ⟨file, d⟩ := d
  cases d with
  | schema node =>
    obtain ⟨faults, roots, visited, -⟩ := l.visitSchema_cases file node
    use [], [], [], ⟨.nil, .nil, .nil⟩
    rw [visit, visited]
    exact ⟨(List.append_nil _).symm, (List.append_nil _).symm, (List.append_nil _).symm⟩
  | type node =>
    rw [visit] at clean ⊢
    obtain ⟨-, registry, faults, some_fault, -, visited⟩ | ⟨-, existing, -, visited⟩
        | ⟨sound, new, visited⟩ := l.visitType_cases file node
    · rw [visited] at clean
      exact absurd (List.append_eq_nil_iff.mp clean).2 some_fault
    · rw [visited] at clean
      exact absurd (List.append_eq_nil_iff.mp clean).2 (List.cons_ne_nil _ _)
    · use [node.define (some file) l.registry.size], [], []
      rw [visited]
      constructor
      · exact ⟨.cons (Visit.builds_of_sound sound) .nil, .nil, .nil⟩
      · exact ⟨OrderedMap.put_of_not_mem new, (List.append_nil _).symm, (List.append_nil _).symm⟩
  | extension node =>
    rw [visit] at clean ⊢
    obtain ⟨-, registry, faults, some_fault, -, visited⟩ | ⟨sound, visited⟩ :=
      l.visitExtension_cases file node
    · rw [visited] at clean
      exact absurd (List.append_eq_nil_iff.mp clean).2 some_fault
    · use [], [node.define (some file) l.registry.size], []
      rw [visited]
      constructor
      · exact ⟨.nil, .cons (Visit.builds_of_sound sound) .nil, .nil⟩
      · exact ⟨(List.append_nil _).symm, rfl, (List.append_nil _).symm⟩
  | directive node =>
    rw [visit] at clean ⊢
    obtain ⟨-, fault, visited⟩ | ⟨-, -, registry, faults, some_fault, -, visited⟩
        | ⟨new, sound, visited⟩ := l.visitDirective_cases file node
    · rw [visited] at clean
      exact absurd (List.append_eq_nil_iff.mp clean).2 (List.cons_ne_nil _ _)
    · rw [visited] at clean
      exact absurd (List.append_eq_nil_iff.mp clean).2 some_fault
    · use [], [], [node.define (some file) l.registry.size]
      rw [visited]
      constructor
      · exact ⟨.nil, .nil, .cons (Visit.buildsDirective_of_sound sound) .nil⟩
      · exact ⟨(List.append_nil _).symm, (List.append_nil _).symm, OrderedMap.put_of_not_mem new⟩

/-- Visits that report nothing add what they build, one after another. -/
theorem exists_gathers (l : Loader) (ds : List (String × Definition))
    (clean : (l.visitEach ds).faults = []) :
  ∃ bases extensions directives, l.Gathers ds bases extensions directives
    ∧ l.Adds (l.visitEach ds) bases extensions directives
  := by
  induction ds generalizing l with
  | nil => exact ⟨[], [], [], ⟨.nil, .nil, .nil⟩, Adds.refl l⟩
  | cons d rest ih =>
    have first_clean : (l.visit d.1 d.2).faults = [] := by
      have reported := faults_visitEach (l.visit d.1 d.2) rest
      rw [← visitEach_cons, clean] at reported
      apply (List.append_eq_nil_iff.mp reported.symm).1
    obtain ⟨bases, extensions, directives, gathers, adds⟩ := exists_gathers_visit l d first_clean
    obtain ⟨bases', extensions', directives', gathers', adds'⟩ := ih (l.visit d.1 d.2) clean
    exact ⟨_, _, _, gathers.cons gathers', adds.trans adds'⟩

end Loader

end LinkedSchema
