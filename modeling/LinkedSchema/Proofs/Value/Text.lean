import LinkedSchema.Document.Scan
import LinkedSchema.Proofs.Text.Readable
import LinkedSchema.Proofs.Value.Parts

/-!
# The text of a value

The text of a value tells the value, if there are no numbers with a fraction in it and the names in
it are names (`Value.text_eq_iff`).  The first character tells what sort of a value begins
(`Value.opening_of_text`), and a value ends where a comma or a closing bracket follows: this carries
the induction, in which the text of the value is followed by anything of this sort
(`Value.Readable`).
-/

namespace LinkedSchema

namespace Document

/-- Whether a text is a name. -/
def IsName (name : String) : Prop :=
  ∃ first rest, name.toList = first :: rest ∧ opensName first ∧ ∀ c ∈ rest, continuesName c

theorem continuesName_of_opensName {c : Char} (opens : opensName c) :
  continuesName c
  := by
  rw [opensName, Bool.or_eq_true] at opens
  rw [continuesName, Char.isAlphanum, Bool.or_eq_true, Bool.or_eq_true]
  apply opens.imp_left Or.inl

/-- All characters of a name may stand in names. -/
theorem IsName.continues {name : String} (h : IsName name) :
  ∀ c ∈ name.toList, continuesName c
  := by
  obtain ⟨first, rest, chars, opens, continues⟩ := h
  rw [chars]
  exact List.forall_mem_cons.mpr ⟨continuesName_of_opensName opens, continues⟩

end Document

namespace Value

open Document (IsName opensName continuesName)

/-! ### Legible values -/

/-- The words that stand for values other than enum values. -/
def reservedWords : List String := ["true", "false", "null"]

/-- Whether a value, its parts apart, is no number with a fraction, and its name or its keys, if it
has any, are names. -/
def Plain : Value → Prop
  | enum name => IsName name ∧ name ∉ reservedWords
  | float _ => False
  | object entries => ∀ entry ∈ entries, IsName entry.1
  | variableRef name => IsName name
  | _ => True

/-- Whether a value and all of its parts are plain. -/
def Legible (v : Value) : Prop := v.Everywhere Plain

/-! ### Sequences -/

/-- The texts of things with separators between them. -/
def sequence {α : Type} (text : α → List Char) : List α → List Char
  | [] => []
  | first :: rest => text first ++ rest.flatMap fun item => ',' :: ' ' :: text item

theorem toList_textItems (items : List Value) :
  (textItems items).toList = sequence (fun item => item.text.toList) items
  := by
  induction items with
  | nil => rfl
  | cons item rest ih =>
    cases rest with
    | nil => exact (List.append_nil _).symm
    | cons next rest =>
      rw [textItems, String.toList_append, String.toList_append, ih, sequence, sequence,
        List.flatMap_cons, List.append_assoc]
      · rfl
      · exact List.cons_ne_nil _ _

/-- The text of an entry of an object. -/
def entryText (entry : String × Value) : List Char :=
  entry.1.toList ++ ':' :: ' ' :: entry.2.text.toList

theorem toList_textEntries (entries : List (String × Value)) :
  (textEntries entries).toList = sequence entryText entries
  := by
  induction entries with
  | nil => rfl
  | cons entry rest ih =>
    have first : (entry.1 ++ ": " ++ entry.2.text).toList = entryText entry := by
      rw [String.toList_append, String.toList_append, List.append_assoc]
      rfl
    cases rest with
    | nil => exact first.trans (List.append_nil _).symm
    | cons next rest =>
      rw [textEntries, String.toList_append, String.toList_append, first, ih, sequence, sequence,
        List.flatMap_cons, List.append_assoc]
      · rfl
      · exact List.cons_ne_nil _ _

/-- Whether a value ends where a text begins: there is nothing, a comma or a closing bracket. -/
def Closes (rest : List Char) : Prop := ∀ c ∈ rest.head?, c = ',' ∨ c = ']' ∨ c = '\x7d'

section Sequences

variable {α : Type} {text : α → List Char} {mark : Char} (closing : mark = ']' ∨ mark = '\x7d')

include closing

theorem closes_mark (rest : List Char) :
  Closes (mark :: rest)
  := by
  intro c first
  cases first
  right
  apply closing

/-- What follows a member of a sequence closes it. -/
theorem closes_rest (items : List α) (rest : List Char) :
  Closes ((items.flatMap fun item => ',' :: ' ' :: text item) ++ mark :: rest)
  := by
  cases items with
  | nil => apply closes_mark closing
  | cons item items =>
    intro c first
    cases first
    left
    rfl

/-- What follows the first members of sequences tells the others, if these can be told from their
texts when something that closes them follows. -/
theorem eq_of_rest {items others : List α}
    (readable : ∀ item ∈ items, ∀ other ∈ others, ∀ rest rest', Closes rest → Closes rest' →
      text item ++ rest = text other ++ rest' → item = other ∧ rest = rest')
    {rest rest' : List Char}
    (same : (items.flatMap fun item => ',' :: ' ' :: text item) ++ mark :: rest
      = (others.flatMap fun item => ',' :: ' ' :: text item) ++ mark :: rest') :
  items = others ∧ rest = rest'
  := by
  have other_mark : mark ≠ ',' := by rcases closing with rfl | rfl <;> decide
  induction items generalizing others with
  | nil =>
    cases others with
    | nil => exact ⟨rfl, (List.cons.inj same).2⟩
    | cons other others => exact absurd (List.cons.inj same).1 other_mark
  | cons item items ih =>
    cases others with
    | nil => exact absurd (List.cons.inj same).1.symm other_mark
    | cons other others =>
      simp only [List.flatMap_cons, List.cons_append, List.append_assoc, List.cons.injEq,
        true_and] at same
      obtain ⟨rfl, later⟩ := readable item List.mem_cons_self other List.mem_cons_self _ _
        (closes_rest closing items rest) (closes_rest closing others rest') same
      obtain ⟨rfl, rests⟩ := ih (fun item member other member' => readable item
        (List.mem_cons_of_mem _ member) other (List.mem_cons_of_mem _ member')) later
      exact ⟨rfl, rests⟩

/-- Sequences can be told from their texts if their members can when something that closes them
follows, and no member begins with the mark after the sequence. -/
theorem eq_of_sequence {items others : List α}
    (begins : ∀ item, item ∈ items ∨ item ∈ others → ∃ c rest, text item = c :: rest ∧ c ≠ mark)
    (readable : ∀ item ∈ items, ∀ other ∈ others, ∀ rest rest', Closes rest → Closes rest' →
      text item ++ rest = text other ++ rest' → item = other ∧ rest = rest')
    {rest rest' : List Char}
    (same : sequence text items ++ mark :: rest = sequence text others ++ mark :: rest') :
  items = others ∧ rest = rest'
  := by
  cases items with
  | nil =>
    cases others with
    | nil => exact ⟨rfl, (List.cons.inj same).2⟩
    | cons other others =>
      obtain ⟨c, tail, chars, unmarked⟩ := begins other (.inr List.mem_cons_self)
      simp only [sequence, chars, List.nil_append, List.cons_append, List.cons.injEq] at same
      exact absurd same.1.symm unmarked
  | cons item items =>
    cases others with
    | nil =>
      obtain ⟨c, tail, chars, unmarked⟩ := begins item (.inl List.mem_cons_self)
      simp only [sequence, chars, List.nil_append, List.cons_append, List.cons.injEq] at same
      exact absurd same.1 unmarked
    | cons other others =>
      simp only [sequence, List.append_assoc] at same
      obtain ⟨rfl, later⟩ := readable item List.mem_cons_self other List.mem_cons_self _ _
        (closes_rest closing items rest) (closes_rest closing others rest') same
      obtain ⟨rfl, rests⟩ := eq_of_rest closing (fun item member other member' => readable item
        (List.mem_cons_of_mem _ member) other (List.mem_cons_of_mem _ member')) later
      exact ⟨rfl, rests⟩

end Sequences

/-! ### Beginnings -/

/-- The sorts of values that can be told from their first characters. -/
inductive Opening where
  | word | number | text | list | object | variableRef
deriving DecidableEq

/-- What begins with a character. -/
def Opening.ofChar (c : Char) : Option Opening :=
  if c = '"' then some .text
  else if c = '[' then some .list
  else if c = '\x7b' then some .object
  else if c = '$' then some .variableRef
  else if Text.inInteger c then some .number
  else if opensName c then some .word
  else none

/-- What a value begins with. -/
def opening : Value → Opening
  | bool _ | enum _ | null => .word
  | float _ | int _ => .number
  | list _ => .list
  | object _ => .object
  | string _ => .text
  | variableRef _ => .variableRef

/-- A character that opens a name begins a word. -/
theorem Opening.ofChar_of_opensName {c : Char} (opens : opensName c) :
  ofChar c = some .word
  := by
  have marks : c ∉ ['"', '[', '\x7b', '$', '-'] := Text.not_mem_of_sort opens (by decide)
  have no_digit : c.isDigit = false := by
    rw [opensName, Bool.or_eq_true, decide_eq_true_eq] at opens
    rcases opens with letter | rfl
    · have letters : (decide (c.val ≥ 'A'.val ∧ c.val ≤ 'Z'.val)
          || decide (c.val ≥ 'a'.val) && decide (c.val ≤ 'z'.val)) = true := letter
      grind [Char.isDigit]
    · decide
  simp only [List.mem_cons, List.not_mem_nil, or_false, not_or] at marks
  simp [ofChar, Text.inInteger, marks, no_digit, opens]

/-- A character of an integer begins a number. -/
theorem Opening.ofChar_of_inInteger {c : Char} (digit : Text.inInteger c) :
  ofChar c = some .number
  := by
  have marks : c ∉ ['"', '[', '\x7b', '$'] := Text.not_mem_of_sort digit (by decide)
  simp only [List.mem_cons, List.not_mem_nil, or_false, not_or] at marks
  simp [ofChar, marks, digit]

/-! ### Texts of values -/

theorem toList_text_list (items : List Value) :
  (list items).text.toList = '[' :: (sequence (fun item => item.text.toList) items ++ [']'])
  := by
  rw [text, String.toList_append, String.toList_append, toList_textItems]
  rfl

theorem toList_text_object (entries : List (String × Value)) :
  (object entries).text.toList = '\x7b' :: (sequence entryText entries ++ ['\x7d'])
  := by
  rw [text, String.toList_append, String.toList_append, toList_textEntries]
  rfl

theorem toList_text_variableRef (name : String) :
  (variableRef name).text.toList = '$' :: name.toList
  := String.toList_append

/-- A legible value begins with a character that tells its sort. -/
theorem Legible.begins {v : Value} (legible : v.Legible) :
  ∃ c rest, v.text.toList = c :: rest ∧ Opening.ofChar c = some v.opening
  := by
  cases v with
  | bool value => cases value <;> exact ⟨_, _, rfl, by decide⟩
  | enum name =>
    obtain ⟨first, rest, chars, opens, -⟩ := legible.self.1
    exact ⟨first, rest, chars, Opening.ofChar_of_opensName opens⟩
  | float value => cases legible.self
  | int value =>
    have digits := Text.inInteger_of_mem_toString value
    cases chars : (toString value).toList with
    | nil => exact absurd chars (Text.toList_toString_int_ne_nil value)
    | cons c rest =>
      rw [chars] at digits
      exact ⟨c, rest, chars, Opening.ofChar_of_inInteger (digits c List.mem_cons_self)⟩
  | list items => exact ⟨_, _, toList_text_list items, rfl⟩
  | null => exact ⟨_, _, rfl, rfl⟩
  | object entries => exact ⟨_, _, toList_text_object entries, rfl⟩
  | string value => exact ⟨_, _, Text.toList_quote value, rfl⟩
  | variableRef name => exact ⟨_, _, toList_text_variableRef name, rfl⟩

/-- Legible values with texts that begin with the same character are of one sort. -/
theorem opening_of_text {v w : Value} (legible : v.Legible) (legible' : w.Legible)
    {rest rest' : List Char} (same : v.text.toList ++ rest = w.text.toList ++ rest') :
  v.opening = w.opening
  := by
  obtain ⟨c, tail, chars, opens⟩ := legible.begins
  obtain ⟨d, tail', chars', opens'⟩ := legible'.begins
  rw [chars, chars'] at same
  rw [(List.cons.inj same).1, opens'] at opens
  exact (Option.some.inj opens).symm

/-- A legible value does not begin with a mark that begins nothing. -/
theorem Legible.begins_ne {v : Value} (legible : v.Legible) {mark : Char}
    (nothing : Opening.ofChar mark = none) :
  ∃ c rest, v.text.toList = c :: rest ∧ c ≠ mark
  := by
  obtain ⟨c, rest, chars, opens⟩ := legible.begins
  use c, rest, chars
  rintro rfl
  rw [nothing] at opens
  cases opens

/-! ### Readable values -/

/-- Whether a value can be told from its text, when something that closes it follows. -/
def Readable (v : Value) : Prop :=
  ∀ w : Value, w.Legible → ∀ rest rest', Closes rest → Closes rest' →
    v.text.toList ++ rest = w.text.toList ++ rest' → v = w ∧ rest = rest'

/-- What closes a value is not of a sort of which no comma and no closing bracket is. -/
theorem Closes.stops {rest : List Char} (closes : Closes rest) {p : Char → Bool}
    (others : [',', ']', '\x7d'].all fun c => !p c) :
  ∀ c ∈ rest.head?, p c = false
  := by
  intro c first
  apply (Bool.not_eq_true' _).mp
  apply List.all_eq_true.mp others
  rcases closes c first with rfl | rfl | rfl <;> decide

/-- The value that a word stands for. -/
def ofWord (word : String) : Value :=
  if word = "true" then bool true
  else if word = "false" then bool false
  else if word = "null" then null
  else enum word

/-- The text of a value that begins with a word is this word, and it tells the value. -/
theorem Legible.eq_ofWord {v : Value} (legible : v.Legible) (word : v.opening = .word) :
  v = ofWord v.text ∧ ∀ c ∈ v.text.toList, continuesName c
  := by
  cases v with
  | bool value => cases value <;> exact ⟨rfl, List.all_eq_true.mp rfl⟩
  | enum name =>
    obtain ⟨named, unreserved⟩ := legible.self
    simp only [reservedWords, List.mem_cons, List.not_mem_nil, or_false, not_or] at unreserved
    constructor
    · simp only [text, ofWord, unreserved, if_false]
    · apply named.continues
  | null => exact ⟨rfl, List.all_eq_true.mp rfl⟩
  | _ => cases word

/-- Words can be told from their texts. -/
theorem Legible.readable_word {v : Value} (legible : v.Legible) (word : v.opening = .word) :
  v.Readable
  := by
  intro w legible' rest rest' closes closes' same
  obtain ⟨told, continues⟩ := legible.eq_ofWord word
  obtain ⟨told', continues'⟩ :=
    legible'.eq_ofWord (word ▸ (opening_of_text legible legible' same).symm)
  obtain ⟨texts, rests⟩ := Text.eq_of_runs continues continues' (closes.stops (by decide))
    (closes'.stops (by decide)) same
  rw [told, told', String.toList_inj.mp texts]
  exact ⟨rfl, rests⟩

/-- An entry of an object begins with its key, and not with a closing brace. -/
theorem begins_entryText {entry : String × Value} (named : IsName entry.1) :
  ∃ c rest, entryText entry = c :: rest ∧ c ≠ '\x7d'
  := by
  obtain ⟨first, rest, chars, opens, -⟩ := named
  use first, rest ++ ':' :: ' ' :: entry.2.text.toList
  constructor
  · rw [entryText, chars]
    rfl
  · rintro rfl
    cases opens

/-- Entries of objects can be told from their texts if their values can. -/
theorem readable_entry {entry other : String × Value} (named : IsName entry.1)
    (named' : IsName other.1) (readable : entry.2.Readable) (legible' : other.2.Legible)
    {rest rest' : List Char} (closes : Closes rest) (closes' : Closes rest')
    (same : entryText entry ++ rest = entryText other ++ rest') :
  entry = other ∧ rest = rest'
  := by
  simp only [entryText, List.append_assoc, List.cons_append] at same
  obtain ⟨keys, values⟩ := Text.eq_of_runs named.continues named'.continues (by simp; decide)
    (by simp; decide) same
  simp only [List.cons.injEq, true_and] at values
  obtain ⟨same_value, rests⟩ := readable other.2 legible' _ _ closes closes' values
  exact ⟨Prod.ext (String.toList_inj.mp keys) same_value, rests⟩

theorem Legible.readable_int {value : Int} (legible : (int value).Legible) :
  (int value).Readable
  := by
  intro w legible' rest rest' closes closes' same
  have sort := opening_of_text legible legible' same
  cases w with
  | int other =>
    obtain ⟨texts, rests⟩ := Text.eq_of_runs (Text.inInteger_of_mem_toString value)
      (Text.inInteger_of_mem_toString other) (closes.stops (by decide))
      (closes'.stops (by decide)) same
    rw [Text.toString_int_injective texts]
    exact ⟨rfl, rests⟩
  | float other => cases legible'.self
  | _ => cases sort

/-- Lists can be told from their texts if their items can. -/
theorem Legible.readable_list {items : List Value} (legible : (list items).Legible)
    (readable : ∀ item ∈ items, item.Legible → item.Readable) :
  (list items).Readable
  := by
  intro w legible' rest rest' closes closes' same
  have sort := opening_of_text legible legible' same
  cases w with
  | list others =>
    obtain ⟨-, all⟩ := Everywhere.list_iff.mp legible
    obtain ⟨-, all'⟩ := Everywhere.list_iff.mp legible'
    have begins : ∀ item, item ∈ items ∨ item ∈ others
        → ∃ c rest, item.text.toList = c :: rest ∧ c ≠ ']' := by
      rintro item (member | member)
      · apply Legible.begins_ne (all item member) rfl
      · apply Legible.begins_ne (all' item member) rfl
    simp only [toList_text_list, List.cons_append, List.append_assoc, List.nil_append,
      List.cons.injEq, true_and] at same
    obtain ⟨rfl, rests⟩ := eq_of_sequence (.inl rfl) begins (fun item member other member' =>
      readable item member (all item member) other (all' other member')) same
    exact ⟨rfl, rests⟩
  | _ => cases sort

/-- Objects can be told from their texts if the values of their entries can. -/
theorem Legible.readable_object {entries : List (String × Value)}
    (legible : (object entries).Legible)
    (readable : ∀ entry ∈ entries, entry.2.Legible → entry.2.Readable) :
  (object entries).Readable
  := by
  intro w legible' rest rest' closes closes' same
  have sort := opening_of_text legible legible' same
  cases w with
  | object others =>
    obtain ⟨named, all⟩ := Everywhere.object_iff.mp legible
    obtain ⟨named', all'⟩ := Everywhere.object_iff.mp legible'
    have begins : ∀ entry, entry ∈ entries ∨ entry ∈ others
        → ∃ c rest, entryText entry = c :: rest ∧ c ≠ '\x7d' := by
      rintro entry (member | member)
      · apply begins_entryText (named entry member)
      · apply begins_entryText (named' entry member)
    simp only [toList_text_object, List.cons_append, List.append_assoc, List.nil_append,
      List.cons.injEq, true_and] at same
    obtain ⟨rfl, rests⟩ := eq_of_sequence (.inr rfl) begins (fun entry member other member' _ _ =>
      readable_entry (named entry member) (named' other member')
        (readable entry member (all entry member)) (all' other member')) same
    exact ⟨rfl, rests⟩
  | _ => cases sort

theorem Legible.readable_string {value : String} (legible : (string value).Legible) :
  (string value).Readable
  := by
  intro w legible' rest rest' closes closes' same
  have sort := opening_of_text legible legible' same
  cases w with
  | string other =>
    obtain ⟨rfl, rests⟩ := Text.prefixCode_quote value other rest rest' same
    exact ⟨rfl, rests⟩
  | _ => cases sort

theorem Legible.readable_variableRef {name : String} (legible : (variableRef name).Legible) :
  (variableRef name).Readable
  := by
  intro w legible' rest rest' closes closes' same
  have sort := opening_of_text legible legible' same
  cases w with
  | variableRef other =>
    simp only [toList_text_variableRef, List.cons_append, List.cons.injEq, true_and] at same
    have named : IsName name := legible.self
    have named' : IsName other := legible'.self
    obtain ⟨names, rests⟩ := Text.eq_of_runs named.continues named'.continues
      (closes.stops (by decide)) (closes'.stops (by decide)) same
    rw [String.toList_inj.mp names]
    exact ⟨rfl, rests⟩
  | _ => cases sort

/-- A legible value can be told from its text, when something that closes it follows. -/
theorem Legible.readable {v : Value} (legible : v.Legible) :
  v.Readable
  := by
  induction v with
  | bool value => apply legible.readable_word rfl
  | enum name => apply legible.readable_word rfl
  | float value => cases legible.self
  | int value => apply legible.readable_int
  | list items ih => apply legible.readable_list ih
  | null => apply legible.readable_word rfl
  | object entries ih => apply legible.readable_object ih
  | string value => apply legible.readable_string
  | variableRef name => apply legible.readable_variableRef

/-- Legible values have the same text if and only if they are the same. -/
theorem text_eq_iff {v w : Value} (legible : v.Legible) (legible' : w.Legible) :
  v.text = w.text ↔ v = w
  := by
  constructor
  · intro same
    have nothing : Closes [] := nofun
    apply (legible.readable w legible' [] [] nothing nothing _).1
    rw [same]
  · rintro rfl
    rfl

/-- An object with one list of texts. -/
def ofTexts (texts : List String) : Value := object [("key", list (texts.map string))]

theorem legible_ofTexts (texts : List String) :
  (ofTexts texts).Legible
  := by
  have named : IsName "key" := ⟨'k', ['e', 'y'], rfl, rfl, List.all_eq_true.mp rfl⟩
  rw [ofTexts, Legible, Everywhere.object_iff]
  constructor
  · intro entry member
    rw [List.mem_singleton.mp member]
    apply named
  · refine List.forall_mem_singleton.mpr (Everywhere.list_iff.mpr ⟨trivial, ?_⟩)
    intro item member
    obtain ⟨text, -, rfl⟩ := List.mem_map.mp member
    rintro part ⟨⟩
    trivial

/-- A quoted text that looks like the end of one and the beginning of another one is told from two
texts. -/
theorem text_eq_iff_quotes :
  (ofTexts ["a\", \"b"]).Legible ∧ (ofTexts ["a", "b"]).Legible
    ∧ (ofTexts ["a\", \"b"]).text ≠ (ofTexts ["a", "b"]).text
  := by
  have legible := legible_ofTexts ["a\", \"b"]
  have legible' := legible_ofTexts ["a", "b"]
  use legible, legible'
  intro same
  have values := (text_eq_iff legible legible').mp same
  exact absurd values (by decide)

end Value

end LinkedSchema
