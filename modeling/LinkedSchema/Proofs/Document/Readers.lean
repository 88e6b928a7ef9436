import LinkedSchema.Document.SchemaDocument

/-!
# What readers give

A reader gives things of some sort if everything that it reads, from whatever input, is of this sort
(`Document.Reader.Gives`).  A reader that is put together from others gives what these give, and so
does every item of a list that is read.
-/

namespace LinkedSchema.Document

namespace Reader

/-- Whether everything that a reader gives is so. -/
structure Gives {α : Type} (reader : Reader α) (P : α → Prop) : Prop where
  given : ∀ input a rest, reader input = .ok (a, rest) → P a

namespace Gives

variable {α β : Type} {P : α → Prop} {Q : β → Prop}

theorem pure {a : α} (holds : P a) :
  Gives (Pure.pure a) P
  := by
  constructor
  rintro input _ _ ⟨⟩
  apply holds

theorem fail :
  Gives fail P
  := ⟨nofun⟩

theorem throw (position : Position) :
  Gives (MonadExcept.throw position) P
  := ⟨nofun⟩

theorem bind {reader : Reader α} (h : reader.Gives P) {next : α → Reader β}
    (others : ∀ a, P a → (next a).Gives Q) :
  (reader >>= next).Gives Q
  := by
  constructor
  intro input b rest run
  change (reader input >>= fun result => next result.1 result.2) = _ at run
  cases read : reader input with
  | error position =>
    rw [read] at run
    cases run
  | ok result =>
    rw [read] at run
    apply (others result.1 (h.given input _ _ read)).given result.2 b rest run

/-- What is given at the end does not depend on what is read first. -/
theorem after {reader : Reader α} {next : α → Reader β} (others : ∀ a, (next a).Gives Q) :
  (reader >>= next).Gives Q
  := by
  have anything : reader.Gives fun _ => True := ⟨fun _ _ _ _ => trivial⟩
  apply anything.bind
  intro a _
  apply others

/-- What is given after something has been taken is so. -/
theorem pure_after {reader : Reader α} {b : β} (holds : Q b) :
  (reader >>= fun _ => Pure.pure b).Gives Q
  := .after fun _ => .pure holds

section Lists

variable {item : Reader α} (h : item.Gives P)

include h

/-- An item is put before a list of items. -/
theorem cons {others : Reader (List α)} (all : others.Gives fun list => ∀ a ∈ list, P a) :
  (do return (← item) :: (← others)).Gives fun list => ∀ a ∈ list, P a
  := by
  apply h.bind
  intro first holds
  apply all.bind
  intro rest in_rest
  apply Gives.pure (List.forall_mem_cons.mpr ⟨holds, in_rest⟩)

theorem upTo (close : Mark) (count : Nat) :
  (upTo close item count).Gives fun list => ∀ a ∈ list, P a
  := by
  induction count with
  | zero => apply Gives.fail
  | succ count ih =>
    apply Gives.after
    intro closed
    split
    · apply Gives.pure (List.forall_mem_nil P)
    · apply h.cons ih

theorem many (close : Mark) :
  (many close item).Gives fun list => ∀ a ∈ list, P a
  := by
  apply Gives.after
  intro input
  apply h.upTo

theorem atLeastOne (close : Mark) :
  (atLeastOne close item).Gives fun list => ∀ a ∈ list, P a
  := h.cons (h.many close)

theorem toEndUpTo (count : Nat) :
  (toEndUpTo item count).Gives fun list => ∀ a ∈ list, P a
  := by
  induction count with
  | zero => apply Gives.pure (List.forall_mem_nil P)
  | succ count ih =>
    apply Gives.after
    intro input
    apply Gives.after
    intro later
    split
    · apply Gives.pure (List.forall_mem_nil P)
    · apply h.cons ih

theorem toEnd :
  (toEnd item).Gives fun list => ∀ a ∈ list, P a
  := by
  apply h.bind
  intro first holds
  apply Gives.after
  intro input
  apply (h.toEndUpTo _).bind
  intro others all
  apply Gives.pure (List.forall_mem_cons.mpr ⟨holds, all⟩)

end Lists

theorem bracket {inside : Nat → Reader α} (h : ∀ room, (inside room).Gives P) (opening : Mark)
    (room : Nat) :
  (bracket opening inside room).Gives P
  := by
  cases room with
  | zero => apply Gives.fail
  | succ room =>
    apply Gives.after
    intro opened
    apply h

/-- A bracket of items that may be left out. -/
theorem optionalBracket {item : Nat → Reader α} (h : ∀ room, (item room).Gives P)
    (opening close : Mark) (room : Nat) :
  (do
    if (← peek?) = some (Token.mark opening) then
      Reader.bracket opening (fun room => Reader.atLeastOne close (item room)) room
    else return []).Gives fun list => ∀ a ∈ list, P a
  := by
  apply Gives.after
  intro token
  split
  · apply Gives.bracket
    intro room
    apply (h room).atLeastOne
  · apply Gives.pure (List.forall_mem_nil P)

theorem block {item : Nat → Reader α} (h : ∀ room, (item room).Gives P) (room : Nat) :
  (block item room).Gives fun list => ∀ a ∈ list, P a
  := optionalBracket h .braceOpen .braceClose room

theorem entry {reader : Reader α} (h : reader.Gives P) :
  (entry reader).Gives fun entry => P entry.2
  := by
  apply Gives.after
  intro name
  apply Gives.after
  intro colon
  apply h.bind
  intro a holds
  apply Gives.pure
  apply holds

/-- What is read from a text is so. -/
theorem of_parse {reader : Reader α} (h : reader.Gives P) {text : String} {a : α}
    (parsed : parse reader text = .ok a) :
  P a
  := by
  rw [parse] at parsed
  cases read : reader.run (scan text) with
  | error position =>
    rw [read] at parsed
    cases parsed
  | ok result =>
    rw [read] at parsed
    cases parsed
    apply h.given (scan text) result.1 result.2 read

end Gives

end Reader

end LinkedSchema.Document
