import LinkedSchema.Definition.Build
import LinkedSchema.Proofs.OrderedMap

/-!
# Steps of building

A step of building only adds declarations and faults (`Drafting.Grows`).  Most steps do more:
`Drafting.Makes step sound value declared` says that `step` reports nothing if and only if
`sound` holds, and that it then declares `declared` and gives `value n`, where `n` is the number
of declarations before it.  Steps that follow one another add up (`Drafting.Makes.bind`).
-/

namespace LinkedSchema

/-! ### Numbered lists -/

/-- The list of what `make` gives for nodes, each with the number of declarations before it:
`start` before the first one, and `width` of a node more after it. -/
def numbered {ν δ : Type} (width : ν → Nat) (make : Nat → ν → δ) : Nat → List ν → List δ
  | _, [] => []
  | start, node :: rest => make start node :: numbered width make (start + width node) rest

/-- What does not depend on the numbers can be read off the nodes. -/
theorem map_numbered {ν δ μ : Type} {width : ν → Nat} {make : Nat → ν → δ} {f : δ → μ}
    {g : ν → μ} (h : ∀ n node, f (make n node) = g node) (start : Nat) (nodes : List ν) :
  (numbered width make start nodes).map f = nodes.map g
  := by
  induction nodes generalizing start with
  | nil => rfl
  | cons node rest ih => rw [numbered, List.map_cons, List.map_cons, h, ih]

/-- What is made for nodes is paired with them. -/
theorem forall₂_numbered {ν δ : Type} {width : ν → Nat} {make : Nat → ν → δ} {R : δ → ν → Prop}
    (h : ∀ n node, R (make n node) node) (start : Nat) (nodes : List ν) :
  List.Forall₂ R (numbered width make start nodes) nodes
  := by
  induction nodes generalizing start with
  | nil => apply List.Forall₂.nil
  | cons node rest ih => apply List.Forall₂.cons (h start node) (ih _)

/-- The references that declarations give of which the first one has the symbol `start`. -/
def Declaration.references : (start : Nat) → List Declaration → List Reference :=
  numbered (fun _ => 1) fun n declaration => ⟨declaration.name, declaration.location, n⟩

theorem Declaration.references_cons (start : Nat) (d : Declaration) (ds : List Declaration) :
  references start (d :: ds) = ⟨d.name, d.location, start⟩ :: references (start + 1) ds
  := rfl

theorem Declaration.references_append (start : Nat) (ds es : List Declaration) :
  references start (ds ++ es) = references start ds ++ references (start + ds.length) es
  := by
  induction ds generalizing start with
  | nil => rfl
  | cons d rest ih =>
    rw [List.cons_append, references_cons, references_cons, ih, List.length_cons,
      List.cons_append, Nat.add_assoc, Nat.add_comm 1]

/-- The symbol of a reference is the place of its declaration. -/
theorem Declaration.getElem?_of_mem_references {start : Nat} {ds : List Declaration}
    {r : Reference} (h : r ∈ references start ds) :
  start ≤ r.symbol ∧ ds[r.symbol - start]? = some ⟨r.name, r.location⟩
  := by
  induction ds generalizing start with
  | nil => simp [references, numbered] at h
  | cons d rest ih =>
    rw [references_cons] at h
    rcases List.mem_cons.mp h with same | later
    · cases same
      simp
    · obtain ⟨past, found⟩ := ih later
      have next : r.symbol - start = (r.symbol - (start + 1)) + 1 := by omega
      constructor
      · omega
      · rw [next, List.getElem?_cons_succ, found]

namespace Drafting

variable {α β : Type}

/-! ### Steps that grow a draft -/

/-- A step that only adds declarations and faults. -/
structure Grows (step : Drafting α) : Prop where
  declared : ∀ draft, draft.registry.declared <+: (step.run draft).2.registry.declared
  faults : ∀ draft, draft.faults <+: (step.run draft).2.faults

theorem Grows.pure (a : α) :
  Grows (pure a)
  where
  declared _ := List.prefix_refl _
  faults _ := List.prefix_refl _

theorem Grows.report (faults : List Fault) :
  Grows (report faults)
  where
  declared _ := List.prefix_refl _
  faults _ := List.prefix_append _ _

theorem Grows.declare (location : Location) (name : String) :
  Grows (declare location name)
  where
  declared _ := List.prefix_append _ _
  faults _ := List.prefix_refl _

theorem Grows.bind {step : Drafting α} {next : α → Drafting β} (h : Grows step)
    (h' : ∀ a, Grows (next a)) :
  Grows (step >>= next)
  where
  declared draft := (h.declared draft).trans ((h' _).declared _)
  faults draft := (h.faults draft).trans ((h' _).faults _)

/-! ### Steps that make something -/

/-- A step that reports nothing if and only if `sound` holds, and then declares `declared` and
gives `value n`, where `n` is the number of declarations before it. -/
structure Makes (step : Drafting α) (sound : Prop) (value : Nat → α)
    (declared : List Declaration) : Prop where
  grows : Grows step
  sound_of_faults : ∀ draft, (step.run draft).2.faults = draft.faults → sound
  run_eq : sound → ∀ draft, step.run draft
    = (value draft.registry.size, ⟨⟨draft.registry.declared ++ declared⟩, draft.faults⟩)

theorem Makes.pure (a : α) :
  Makes (pure a) True (fun _ => a) []
  where
  grows := Grows.pure a
  sound_of_faults _ _ := trivial
  run_eq _ draft := by
    rw [List.append_nil]
    rfl

theorem Makes.report (faults : List Fault) :
  Makes (report faults) (faults = []) (fun _ => ()) []
  where
  grows := Grows.report faults
  sound_of_faults draft h := by
    apply List.append_right_eq_self.mp h
  run_eq h draft := by
    subst h
    rw [List.append_nil]
    change (_, { draft with faults := draft.faults ++ [] }) = _
    rw [List.append_nil]

theorem Makes.declare (location : Location) (name : String) :
  Makes (declare location name) True (fun n => ⟨name, location, n⟩) [⟨name, location⟩]
  where
  grows := Grows.declare location name
  sound_of_faults _ _ := trivial
  run_eq _ _ := rfl

/-- The number of declarations that the second of two steps finds is that before the first one
and those of the first one. -/
theorem Makes.bind {step : Drafting α} {next : α → Drafting β} {sound sound' : Prop}
    {value : Nat → α} {value' : Nat → Nat → β} {declared declared' : List Declaration}
    (h : Makes step sound value declared) (grows : ∀ a, Grows (next a))
    (h' : ∀ n, Makes (next (value n)) sound' (value' n) declared') :
  Makes (step >>= next) (sound ∧ sound') (fun n => value' n (n + declared.length))
    (declared ++ declared')
  where
  grows := h.grows.bind grows
  sound_of_faults draft same := by
    -- Neither step may add a fault if both together add none.
    have first : (step.run draft).2.faults = draft.faults := by
      have second := (grows (step.run draft).1).faults (step.run draft).2
      apply List.IsPrefix.eq_of_length_le _ (h.grows.faults draft).length_le
      rw [← same]
      apply second
    have sound := h.sound_of_faults draft first
    have run := h.run_eq sound draft
    constructor
    · apply sound
    · apply (h' draft.registry.size).sound_of_faults
        ⟨⟨draft.registry.declared ++ declared⟩, draft.faults⟩
      change ((next (step.run draft).1).run (step.run draft).2).2.faults = draft.faults at same
      rw [run] at same
      apply same
  run_eq both draft := by
    change (next (step.run draft).1).run (step.run draft).2 = _
    rw [h.run_eq both.1 draft, (h' draft.registry.size).run_eq both.2]
    simp [Registry.size]

/-- Two steps of which the second one declares the same whatever the first one gives. -/
theorem Makes.andThen {step : Drafting α} {next : α → Drafting β} {sound sound' : Prop}
    {value : Nat → α} {value' : α → Nat → β} {declared declared' : List Declaration}
    (h : Makes step sound value declared) (h' : ∀ a, Makes (next a) sound' (value' a) declared') :
  Makes (step >>= next) (sound ∧ sound') (fun n => value' (value n) (n + declared.length))
    (declared ++ declared')
  := h.bind (fun a => (h' a).grows) fun n => h' (value n)

/-- The condition under which a step is sound may be stated in other words. -/
theorem Makes.of_iff {step : Drafting α} {sound sound' : Prop} {value : Nat → α}
    {declared : List Declaration} (h : Makes step sound value declared) (iff : sound ↔ sound') :
  Makes step sound' value declared
  := propext iff ▸ h

/-- A step that always reports something may be said to make anything, soundly never. -/
theorem Makes.of_unsound {step : Drafting α} {sound sound' : Prop} {value value' : Nat → α}
    {declared declared' : List Declaration} (h : Makes step sound value declared)
    (unsound : ¬ sound) (unsound' : ¬ sound') :
  Makes step sound' value' declared'
  where
  grows := h.grows
  sound_of_faults draft same := absurd (h.sound_of_faults draft same) unsound
  run_eq sound := absurd sound unsound'

end Drafting

end LinkedSchema
