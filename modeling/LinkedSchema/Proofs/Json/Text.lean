import LinkedSchema.Json.Read
import LinkedSchema.Proofs.OrderedMap
import LinkedSchema.Proofs.Text.Readable

/-!
# Reading the text of a JSON tree

A tree without fractions in which no object has a key twice is read back from its text
(`Json.parse?_text`).
-/

namespace LinkedSchema

/-! ### Integers -/

namespace Decimal

theorem natOfDigits?_concat (cs : List Char) (c : Char) :
  natOfDigits? (cs ++ [c])
    = (natOfDigits? cs).bind fun n =>
      if c.isDigit then some (10 * n + (c.toNat - '0'.toNat)) else none
  := by
  rw [natOfDigits?, List.foldl_append]
  rfl

/-- The digits of a number are read as this number. -/
theorem natOfDigits?_toDigits (n : Nat) :
  natOfDigits? (Nat.toDigits 10 n) = some n
  := by
  have digits : ∀ digit < 10, (Nat.digitChar digit).isDigit = true
      ∧ (Nat.digitChar digit).toNat - '0'.toNat = digit := by decide
  induction n using Nat.strongRecOn with
  | ind n ih =>
    rcases Nat.lt_or_ge n 10 with small | large
    · obtain ⟨digit, value⟩ := digits n small
      rw [Nat.toDigits_of_lt_base small, ← List.nil_append [n.digitChar], natOfDigits?_concat,
        digit, value]
      simp [natOfDigits?]
    · obtain ⟨digit, value⟩ := digits (n % 10) (Nat.mod_lt n (by decide))
      rw [Nat.toDigits_of_base_le (by decide) large, natOfDigits?_concat, digit, value,
        ih (n / 10) (Nat.div_lt_self (by omega) (by decide))]
      simp [Nat.div_add_mod]

end Decimal

namespace Document.Literal

/-- A digit can be added to a number that is not zero. -/
theorem isPlainInt_concat {cs : List Char} (plain : isPlainInt cs) (nonzero : cs ≠ ['0']) {c : Char}
    (digit : c.isDigit) :
  isPlainInt (cs ++ [c])
  := by
  rw [isPlainInt.eq_def] at plain
  split at plain
  · cases plain
  · contradiction
  · next first rest _ =>
    simp only [Bool.and_eq_true, bne_iff_ne] at plain
    rw [isPlainInt.eq_def]
    simp [plain, digit]

/-- The digits of a number have no superfluous zero. -/
theorem isPlainInt_toDigits (n : Nat) :
  isPlainInt (Nat.toDigits 10 n)
  := by
  have digits : ∀ digit < 10, (Nat.digitChar digit).isDigit = true
      ∧ isPlainInt [Nat.digitChar digit] = true := by decide
  induction n using Nat.strongRecOn with
  | ind n ih =>
    rcases Nat.lt_or_ge n 10 with small | large
    · rw [Nat.toDigits_of_lt_base small]
      apply (digits n small).2
    · rw [Nat.toDigits_of_base_le (by decide) large]
      apply isPlainInt_concat
      · apply ih (n / 10) (Nat.div_lt_self (by omega) (by decide))
      · intro zero
        have same : Nat.toDigits 10 (n / 10) = Nat.toDigits 10 0 := zero
        have quotient := Text.toDigits_injective (by decide) (by decide) same
        omega
      · apply (digits (n % 10) (Nat.mod_lt n (by decide))).1

/-- The text of an integer is one. -/
theorem isInt_toString (i : Int) :
  isInt (toString i).toList
  := by
  rw [Text.toList_toString_int]
  split
  · apply isPlainInt_toDigits
  · rw [isInt]
    · apply isPlainInt_toDigits
    · intro rest same
      exact Text.cons_sign_ne_toDigits _ _ same.symm

/-- The text of an integer is read as this integer. -/
theorem intOf?_toString (i : Int) :
  intOf? (toString i).toList = some i
  := by
  rw [Text.toList_toString_int]
  split
  · rw [intOf?, Decimal.natOfDigits?_toDigits]
    apply congrArg some
    change -(i.natAbs : Int) = i
    omega
  · rw [intOf?, Decimal.natOfDigits?_toDigits]
    · apply congrArg some
      apply Int.natAbs_of_nonneg
      omega
    · intro rest same
      exact Text.cons_sign_ne_toDigits _ _ same.symm

end Document.Literal

namespace Json

open Document.Literal (hexOf?)

/-- The text of an integer is not that of minus zero. -/
theorem toString_ne_minus_zero (i : Int) :
  (toString i).toList ≠ ['-', '0']
  := by
  intro same
  rw [Text.toList_toString_int] at same
  split at same
  · have zero : Nat.toDigits 10 i.natAbs = Nat.toDigits 10 0 := (List.cons.inj same).2
    have magnitude := Text.toDigits_injective (by decide) (by decide) zero
    omega
  · exact Text.cons_sign_ne_toDigits _ _ same.symm

/-- The text of an integer is read as this number. -/
theorem number?_toString (i : Int) :
  number? (toString i).toList = some (int i)
  := by
  have no_mark : ∀ c ∈ (toString i).toList, (!Decimal.isExponentMark c) = true := by
    intro c member
    have digit := Text.inInteger_of_mem_toString i c member
    rw [Bool.not_eq_true', Bool.eq_false_iff]
    intro mark
    rw [Decimal.isExponentMark, Bool.or_eq_true, decide_eq_true_eq, decide_eq_true_eq] at mark
    rcases mark with rfl | rfl <;> cases digit
  have no_point : ∀ c ∈ (toString i).toList, decide (c ≠ '.') = true := by
    intro c member
    apply decide_eq_true
    rintro rfl
    cases Text.inInteger_of_mem_toString i '.' member
  have isInt := Document.Literal.isInt_toString i
  have intOf := Document.Literal.intOf?_toString i
  have no_minus_zero := toString_ne_minus_zero i
  generalize (toString i).toList = cs at *
  rw [number?]
  simp only [List.takeWhile_eq_self_iff.mpr no_mark, List.dropWhile_eq_nil_iff.mpr no_mark,
    List.takeWhile_eq_self_iff.mpr no_point, List.dropWhile_eq_nil_iff.mpr no_point, isInt, intOf]
  simp [no_minus_zero]

/-! ### Quoted texts -/

/-- The letter of a character stands for this character, and does not begin a number. -/
theorem character?_of_lookup {c letter : Char}
    (found : OrderedMap.lookup c escapes = some letter) :
  character? letter = some c ∧ letter ≠ 'u'
  := by
  have each : ∀ entry ∈ escapes, character? entry.2 = some entry.1 ∧ entry.2 ≠ 'u' := by decide
  apply each (c, letter) (OrderedMap.mem_of_lookup found)

/-- The escape of a character is read as this character. -/
theorem readChars_escape_append (c : Char) {cs after rest : List Char}
    (read : readChars after = some (cs, rest)) :
  readChars (escape c ++ after) = some (c :: cs, rest)
  := by
  rw [escape]
  cases found : OrderedMap.lookup c escapes with
  | some letter =>
    obtain ⟨character, no_number⟩ := character?_of_lookup found
    simp [readChars, read, character, no_number]
  | none =>
    have no_quote : c ≠ '"' := by rintro rfl; cases found
    have no_backslash : c ≠ '\\' := by rintro rfl; cases found
    simp only
    split
    · next control =>
      have hex : ∀ n < 32, hexOf? 0 ['0', '0', (n / 16).digitChar, (n % 16).digitChar] = some n
          ∧ isHighHalf n = false ∧ isLowHalf n = false := by decide
      obtain ⟨value, no_high, no_low⟩ := hex c.toNat control
      simp [readChars, read, value, no_high, no_low]
    · next no_control =>
      simp [readChars, read, no_backslash, no_control]

/-- The inside of a quoted text is read as the text, with what follows the closing quote. -/
theorem readChars_flatMap_escape (cs rest : List Char) :
  readChars (cs.flatMap escape ++ '"' :: rest) = some (cs, rest)
  := by
  induction cs with
  | nil => rfl
  | cons c cs ih =>
    rw [List.flatMap_cons, List.append_assoc]
    apply readChars_escape_append c ih

theorem toList_quote (text : String) :
  (quote text).toList = '"' :: (text.toList.flatMap escape ++ ['"'])
  := String.toList_ofList

/-! ### Trees -/

/-- Whether a tree has no fraction in it, and no object in it has a key twice. -/
inductive Exact : Json → Prop
  | null : Exact .null
  | bool (value : Bool) : Exact (.bool value)
  | int (value : Int) : Exact (.int value)
  | string (value : String) : Exact (.string value)
  | array {items : List Json} : (∀ item ∈ items, Exact item) → Exact (.array items)
  | object {entries : List (String × Json)} : (entries.map Prod.fst).Nodup →
      (∀ entry ∈ entries, Exact entry.2) → Exact (.object entries)

theorem skip_cons {c : Char} (visible : isSpace c = false) (rest : List Char) :
  skip (c :: rest) = c :: rest
  := by
  rw [skip, List.dropWhile_cons_of_neg]
  rw [visible]
  exact Bool.false_ne_true

theorem toList_text_array (items : List Json) :
  (array items).text.toList = '[' :: ((textItems items).toList ++ [']'])
  := by
  rw [text, String.toList_append, String.toList_append]
  rfl

theorem toList_text_object (entries : List (String × Json)) :
  (object entries).text.toList = '\x7b' :: ((textEntries entries).toList ++ ['\x7d'])
  := by
  rw [text, String.toList_append, String.toList_append]
  rfl

/-- The text of an integer begins with a character of integers. -/
theorem begins_toString (i : Int) :
  ∃ c rest, (toString i).toList = c :: rest ∧ Text.inInteger c
  := by
  have digits := Text.inInteger_of_mem_toString i
  cases chars : (toString i).toList with
  | nil => exact absurd chars (Text.toList_toString_int_ne_nil i)
  | cons c rest =>
    rw [chars] at digits
    exact ⟨c, rest, rfl, digits c List.mem_cons_self⟩

/-- A character of integers is no space. -/
theorem isSpace_eq_false {c : Char} (digit : Text.inInteger c) :
  isSpace c = false
  := by
  have marks : c ∉ [' ', '\t', '\n', '\r'] := Text.not_mem_of_sort digit (by decide)
  simpa [isSpace, and_assoc] using marks

/-- The text of a tree begins with a character that is neither a space nor closes an array. -/
theorem Exact.begins {tree : Json} (exact_tree : tree.Exact) :
  ∃ c rest, tree.text.toList = c :: rest ∧ isSpace c = false ∧ c ≠ ']'
  := by
  cases exact_tree with
  | null => exact ⟨_, _, rfl, by decide, by decide⟩
  | bool value => cases value <;> exact ⟨_, _, rfl, by decide, by decide⟩
  | int value =>
    obtain ⟨c, rest, chars, digit⟩ := begins_toString value
    refine ⟨c, rest, chars, isSpace_eq_false digit, ?_⟩
    rintro rfl
    cases digit
  | string value => exact ⟨_, _, toList_quote value, by decide, by decide⟩
  | array => exact ⟨_, _, toList_text_array _, by decide, by decide⟩
  | object => exact ⟨_, _, toList_text_object _, by decide, by decide⟩

/-- Whether a tree is read from its text, with what follows it, if there is fuel for each character
of the text. -/
def Reads (tree : Json) : Prop :=
  ∀ fuel rest, tree.text.toList.length ≤ fuel → (∀ c ∈ rest.head?, inNumber c = false) →
    readTree fuel (tree.text.toList ++ rest) = some (tree, rest)

/-- An integer is read from its text. -/
theorem reads_int (value : Int) :
  (int value).Reads
  := by
  intro fuel rest enough stops
  obtain ⟨c, tail, chars, digit⟩ := begins_toString value
  have numeral : ∀ c ∈ (toString value).toList, inNumber c = true := by
    intro c member
    have digit := Text.inInteger_of_mem_toString value c member
    rw [Text.inInteger, Bool.or_eq_true] at digit
    rcases digit with digit | sign
    · simp [inNumber, digit]
    · simp [inNumber, of_decide_eq_true sign]
  have taken := Text.takeWhile_append_eq numeral stops
  have dropped := Text.dropWhile_append_eq numeral stops
  have marks : c ∉ ['"', '[', '\x7b', 't', 'f', 'n'] := Text.not_mem_of_sort digit (by decide)
  have read := number?_toString value
  rw [text] at enough ⊢
  rw [chars] at enough taken dropped read ⊢
  cases fuel with
  | zero => cases enough
  | succ fuel =>
    rw [List.cons_append] at taken dropped ⊢
    rw [readTree, skip_cons (isSpace_eq_false digit)]
    simp only [List.mem_cons, List.not_mem_nil, or_false, not_or] at marks
    simp [marks, taken, dropped, read]

/-- A text is read from its quoted form. -/
theorem reads_string (value : String) :
  (string value).Reads
  := by
  intro fuel rest enough _
  rw [text, toList_quote] at enough ⊢
  cases fuel with
  | zero => cases enough
  | succ fuel =>
    have read := readChars_flatMap_escape value.toList rest
    rw [List.cons_append, readTree, skip_cons (by decide)]
    simp [read]

theorem toList_textItems_cons_cons (item next : Json) (items : List Json) :
  (textItems (item :: next :: items)).toList
    = item.text.toList ++ ',' :: (textItems (next :: items)).toList
  := by
  rw [textItems, String.toList_append, String.toList_append, List.append_assoc]
  · rfl
  · exact List.cons_ne_nil _ _

/-- Items that are read from their texts are read from the text of an array. -/
theorem readItems_textItems {items : List Json} (some_item : items ≠ [])
    (reads : ∀ item ∈ items, item.Reads) (fuel : Nat)
    (enough : (textItems items).toList.length + 1 ≤ fuel) (rest : List Char) :
  readItems fuel ((textItems items).toList ++ ']' :: rest) = some (items, rest)
  := by
  induction items generalizing fuel with
  | nil => contradiction
  | cons item items ih =>
    obtain ⟨reads_item, reads_items⟩ := List.forall_mem_cons.mp reads
    cases fuel with
    | zero => omega
    | succ fuel =>
      cases items with
      | nil =>
        have read := reads_item fuel (']' :: rest) (by simpa [textItems] using enough)
          (by simp; decide)
        rw [readItems, textItems, read]
        simp [skip_cons (by decide : isSpace ']' = false)]
      | cons next items =>
        rw [toList_textItems_cons_cons, List.length_append, List.length_cons] at enough
        have read := reads_item fuel (',' :: ((textItems (next :: items)).toList ++ ']' :: rest))
          (by omega) (by simp; decide)
        have read_items := ih (List.cons_ne_nil _ _) reads_items fuel (by omega)
        rw [toList_textItems_cons_cons, List.append_assoc, List.cons_append, readItems, read]
        simp [skip_cons (by decide : isSpace ',' = false), read_items]

/-- The text of an entry of an object. -/
theorem toList_entry (key : String) (value : Json) :
  (quote key ++ ":" ++ value.text).toList
    = '"' :: (key.toList.flatMap escape ++ '"' :: ':' :: value.text.toList)
  := by
  rw [String.toList_append, String.toList_append, toList_quote, List.append_assoc, List.cons_append,
    List.append_assoc]
  rfl

theorem toList_textEntries_singleton (key : String) (value : Json) :
  (textEntries [(key, value)]).toList
    = '"' :: (key.toList.flatMap escape ++ '"' :: ':' :: value.text.toList)
  := toList_entry key value

theorem toList_textEntries_cons_cons (key : String) (value : Json) (next : String × Json)
    (entries : List (String × Json)) :
  (textEntries ((key, value) :: next :: entries)).toList
    = '"' :: (key.toList.flatMap escape ++ '"' :: ':' :: (value.text.toList
      ++ ',' :: (textEntries (next :: entries)).toList))
  := by
  rw [textEntries, String.toList_append, String.toList_append, toList_entry]
  · simp
  · exact List.cons_ne_nil _ _

/-- Entries whose values are read from their texts are read from the text of an object. -/
theorem readEntries_textEntries {entries : List (String × Json)} (some_entry : entries ≠ [])
    (reads : ∀ entry ∈ entries, Reads entry.2) (fuel : Nat)
    (enough : (textEntries entries).toList.length + 1 ≤ fuel) (rest : List Char) :
  readEntries fuel ((textEntries entries).toList ++ '\x7d' :: rest) = some (entries, rest)
  := by
  induction entries generalizing fuel with
  | nil => contradiction
  | cons entry entries ih =>
    obtain ⟨key, value⟩ := entry
    obtain ⟨reads_value, reads_entries⟩ := List.forall_mem_cons.mp reads
    cases fuel with
    | zero => omega
    | succ fuel =>
      cases entries with
      | nil =>
        rw [toList_textEntries_singleton, List.length_cons, List.length_append, List.length_cons,
          List.length_cons] at enough
        have read := reads_value fuel ('\x7d' :: rest) (by simp only; omega) (by simp; decide)
        simp only at read
        rw [toList_textEntries_singleton, List.cons_append, readEntries, skip_cons (by decide)]
        simp [readChars_flatMap_escape, skip_cons (by decide : isSpace ':' = false), read,
          skip_cons (by decide : isSpace '\x7d' = false)]
      | cons next entries =>
        rw [toList_textEntries_cons_cons, List.length_cons, List.length_append, List.length_cons,
          List.length_cons, List.length_append, List.length_cons] at enough
        have read := reads_value fuel (',' :: ((textEntries (next :: entries)).toList
          ++ '\x7d' :: rest)) (by simp only; omega) (by simp; decide)
        have read_entries := ih (List.cons_ne_nil _ _) reads_entries fuel (by omega)
        simp only at read
        rw [toList_textEntries_cons_cons, List.cons_append, readEntries, skip_cons (by decide)]
        simp [readChars_flatMap_escape, skip_cons (by decide : isSpace ':' = false), read,
          skip_cons (by decide : isSpace ',' = false), read_entries]

/-- An array is read from its text if its items are. -/
theorem reads_array {items : List Json} (exact_items : ∀ item ∈ items, item.Exact)
    (reads : ∀ item ∈ items, item.Reads) :
  (array items).Reads
  := by
  intro fuel rest enough _
  rw [toList_text_array] at enough ⊢
  cases fuel with
  | zero => cases enough
  | succ fuel =>
    rw [List.cons_append, readTree, skip_cons (by decide)]
    cases items with
    | nil => rfl
    | cons item items =>
      have read := readItems_textItems (List.cons_ne_nil item items) reads fuel
        (by simpa using enough) rest
      obtain ⟨c, tail, chars, visible, no_end⟩ := (exact_items item List.mem_cons_self).begins
      have begins : ∃ tail, (textItems (item :: items)).toList = c :: tail := by
        cases items with
        | nil => exact ⟨tail, chars⟩
        | cons next items =>
          rw [toList_textItems_cons_cons, chars]
          exact ⟨_, rfl⟩
      obtain ⟨tail, begins⟩ := begins
      rw [begins, List.cons_append] at read
      rw [begins, List.append_assoc, List.cons_append, List.singleton_append]
      simp [skip_cons visible, no_end, read]

/-- An object without repeated keys is read from its text if the values of its entries are. -/
theorem reads_object {entries : List (String × Json)} (distinct : (entries.map Prod.fst).Nodup)
    (reads : ∀ entry ∈ entries, Reads entry.2) :
  (object entries).Reads
  := by
  intro fuel rest enough _
  rw [toList_text_object] at enough ⊢
  cases fuel with
  | zero => cases enough
  | succ fuel =>
    rw [List.cons_append, readTree, skip_cons (by decide)]
    cases entries with
    | nil => rfl
    | cons entry entries =>
      have read := readEntries_textEntries (List.cons_ne_nil entry entries) reads fuel
        (by simpa using enough) rest
      have begins : ∃ tail, (textEntries (entry :: entries)).toList = '"' :: tail := by
        cases entries with
        | nil => exact ⟨_, toList_textEntries_singleton entry.1 entry.2⟩
        | cons next entries => exact ⟨_, toList_textEntries_cons_cons entry.1 entry.2 next entries⟩
      obtain ⟨tail, begins⟩ := begins
      rw [begins, List.cons_append] at read
      rw [begins, List.append_assoc, List.cons_append, List.singleton_append]
      simp [skip_cons (by decide : isSpace '"' = false), read, OrderedMap.ofList_of_nodup distinct]

/-- A tree that is a word is read from its text. -/
theorem reads_word {tree : Json} {first : Char} (letters : List Char)
    (chars : tree.text.toList = first :: letters)
    (read : ∀ fuel rest, readTree (fuel + 1) (first :: letters ++ rest) = some (tree, rest)) :
  tree.Reads
  := by
  intro fuel rest enough _
  rw [chars] at enough ⊢
  cases fuel with
  | zero => cases enough
  | succ fuel => apply read

/-- A tree without fractions in which no object has a key twice is read from its text. -/
theorem Exact.reads {tree : Json} (exact_tree : tree.Exact) :
  tree.Reads
  := by
  induction exact_tree with
  | null => apply reads_word ['u', 'l', 'l'] rfl fun _ _ => rfl
  | bool value =>
    cases value with
    | false => apply reads_word ['a', 'l', 's', 'e'] rfl fun _ _ => rfl
    | true => apply reads_word ['r', 'u', 'e'] rfl fun _ _ => rfl
  | int value => apply reads_int
  | string value => apply reads_string
  | array exact_items ih => apply reads_array exact_items ih
  | object distinct _ ih => apply reads_object distinct ih

/-- A tree without fractions in which no object has a key twice is read back from its text. -/
theorem parse?_text {tree : Json} (exact_tree : tree.Exact) :
  parse? tree.text = some tree
  := by
  have nothing : ∀ c ∈ ([] : List Char).head?, inNumber c = false := nofun
  have read := exact_tree.reads (2 * tree.text.toList.length + 2) [] (by omega) nothing
  rw [List.append_nil] at read
  rw [parse?]
  simp only [read]
  rfl

end Json

end LinkedSchema
