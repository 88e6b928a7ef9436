import LinkedSchema.Text.Quoted
import Mathlib.Data.List.TakeWhile
import Mathlib.Tactic.ByContra

/-!
# Readable texts

What can be told of a text about the parts that it is put together from.  A run of characters of one
sort ends where another sort begins (`Text.eq_of_runs`); digits tell their number
(`Text.toDigits_injective`), and so does the text of an integer (`Text.toString_int_injective`).
Texts form a prefix code if none of them can be continued to another one (`Text.PrefixCode`): the
escapes of characters do, and so do quoted texts (`Text.prefixCode_escape`,
`Text.prefixCode_quote`).
-/

namespace LinkedSchema.Text

/-! ### Runs -/

section Runs

variable {p : Char → Bool}

/-- A character of a sort is none of those that are not. -/
theorem not_mem_of_sort {c : Char} (sort : p c) {marks : List Char}
    (others : marks.all fun mark => !p mark) :
  c ∉ marks
  := by
  intro member
  have other := List.all_eq_true.mp others c member
  rw [sort] at other
  cases other

theorem takeWhile_append_eq {run rest : List Char} (all : ∀ c ∈ run, p c)
    (stops : ∀ c ∈ rest.head?, p c = false) :
  (run ++ rest).takeWhile p = run
  := by
  rw [List.takeWhile_append_of_pos all]
  cases rest with
  | nil => exact List.append_nil run
  | cons c rest =>
    rw [List.takeWhile_cons_of_neg, List.append_nil]
    rw [stops c rfl]
    exact Bool.false_ne_true

theorem dropWhile_append_eq {run rest : List Char} (all : ∀ c ∈ run, p c)
    (stops : ∀ c ∈ rest.head?, p c = false) :
  (run ++ rest).dropWhile p = rest
  := by
  rw [List.dropWhile_append_of_pos all]
  cases rest with
  | nil => rfl
  | cons c rest =>
    rw [List.dropWhile_cons_of_neg]
    rw [stops c rfl]
    exact Bool.false_ne_true

/-- Two texts that begin with runs of characters of one sort, each followed by something else, have
the same runs and the same rests. -/
theorem eq_of_runs {run other rest rest' : List Char} (all : ∀ c ∈ run, p c)
    (all' : ∀ c ∈ other, p c) (stops : ∀ c ∈ rest.head?, p c = false)
    (stops' : ∀ c ∈ rest'.head?, p c = false) (same : run ++ rest = other ++ rest') :
  run = other ∧ rest = rest'
  := by
  have runs : run = other := by
    rw [← takeWhile_append_eq all stops, same, takeWhile_append_eq all' stops']
  subst runs
  exact ⟨rfl, List.append_cancel_left same⟩

end Runs

/-! ### Digits -/

/-- Everything in the digits of a number is the character of a digit. -/
theorem exists_digit_of_mem_toDigits {base : Nat} (two : 1 < base) (n : Nat) :
  ∀ c ∈ Nat.toDigits base n, ∃ digit < base, c = digit.digitChar
  := by
  induction n using Nat.strongRecOn with
  | ind n ih =>
    intro c member
    by_cases small : n < base
    · rw [Nat.toDigits_of_lt_base small, List.mem_singleton] at member
      exact ⟨n, small, member⟩
    · rw [Nat.toDigits_of_base_le two (Nat.le_of_not_lt small), List.mem_append,
        List.mem_singleton] at member
      rcases member with before | last
      · apply ih (n / base) _ c before
        apply Nat.div_lt_self _ two
        omega
      · exact ⟨n % base, Nat.mod_lt n (by omega), last⟩

/-- The characters of digits up to fifteen tell them apart. -/
theorem eq_of_digitChar {digit other : Nat} (small : digit < 16) (small' : other < 16)
    (same : digit.digitChar = other.digitChar) :
  digit = other
  := by
  have all : ∀ digit < 16, ∀ other < 16, Nat.digitChar digit = Nat.digitChar other →
      digit = other := by decide
  apply all digit small other small' same

/-- A number of one digit has other digits than one of more. -/
theorem toDigits_ne {base m n : Nat} (two : 1 < base) (small : m < base) (large : base ≤ n) :
  Nat.toDigits base m ≠ Nat.toDigits base n
  := by
  intro same
  have lengths := congrArg List.length same
  have some_digit := List.length_pos_iff.mpr (Nat.toDigits_ne_nil (n := n / base) (b := base))
  rw [Nat.toDigits_of_lt_base small, Nat.toDigits_of_base_le two large, List.length_append,
    List.length_singleton, List.length_singleton] at lengths
  omega

/-- The digits of a number tell it. -/
theorem toDigits_injective {base : Nat} (two : 1 < base) (sixteen : base ≤ 16) {m n : Nat}
    (same : Nat.toDigits base m = Nat.toDigits base n) :
  m = n
  := by
  have last_digit (k : Nat) : k % base < 16 :=
    Nat.lt_of_lt_of_le (Nat.mod_lt k (by omega)) sixteen
  induction m using Nat.strongRecOn generalizing n with
  | ind m ih =>
    rcases Nat.lt_or_ge m base with small | large
    · rcases Nat.lt_or_ge n base with small' | large'
      · rw [Nat.toDigits_of_lt_base small, Nat.toDigits_of_lt_base small', List.cons.injEq] at same
        apply eq_of_digitChar (by omega) (by omega) same.1
      · exact absurd same (toDigits_ne two small large')
    · rcases Nat.lt_or_ge n base with small' | large'
      · exact absurd same.symm (toDigits_ne two small' large)
      · rw [Nat.toDigits_of_base_le two large, Nat.toDigits_of_base_le two large'] at same
        obtain ⟨before, last⟩ := List.append_inj' same rfl
        have quotients : m / base = n / base :=
          ih (m / base) (Nat.div_lt_self (by omega) two) before
        have remainders : m % base = n % base :=
          eq_of_digitChar (last_digit m) (last_digit n) (List.cons.inj last).1
        rw [← Nat.div_add_mod m base, ← Nat.div_add_mod n base, quotients, remainders]

/-! ### Integers -/

/-- Whether a character is one of those of integers. -/
def inInteger (c : Char) : Bool := c.isDigit || c = '-'

/-- The text of an integer is its digits, after a sign if it is negative. -/
theorem toList_toString_int (i : Int) :
  (toString i).toList
    = if i < 0 then '-' :: Nat.toDigits 10 i.natAbs else Nat.toDigits 10 i.natAbs
  := by
  cases i with
  | ofNat n =>
    rw [Int.ofNat_eq_natCast, if_neg (Int.not_lt.mpr (Int.natCast_nonneg n))]
    exact String.toList_ofList
  | negSucc n =>
    rw [if_pos (Int.negSucc_lt_zero n)]
    exact (String.toList_append ..).trans (congrArg _ String.toList_ofList)

theorem toList_toString_int_ne_nil (i : Int) :
  (toString i).toList ≠ []
  := by
  rw [toList_toString_int]
  split
  · apply List.cons_ne_nil
  · apply Nat.toDigits_ne_nil

theorem isDigit_of_mem_toDigits_ten {n : Nat} : ∀ c ∈ Nat.toDigits 10 n, c.isDigit = true :=
  fun _ member => Nat.isDigit_of_mem_toDigits (by decide) (by decide) member

theorem inInteger_of_mem_toString (i : Int) :
  ∀ c ∈ (toString i).toList, inInteger c
  := by
  rw [toList_toString_int]
  intro c member
  rw [inInteger, Bool.or_eq_true, decide_eq_true_eq]
  split at member
  · rcases List.mem_cons.mp member with sign | digit
    · right
      apply sign
    · left
      apply isDigit_of_mem_toDigits_ten c digit
  · left
    apply isDigit_of_mem_toDigits_ten c member

/-- No digits begin with a sign. -/
theorem cons_sign_ne_toDigits (rest : List Char) (n : Nat) :
  '-' :: rest ≠ Nat.toDigits 10 n
  := by
  intro same
  have digit := isDigit_of_mem_toDigits_ten (n := n) '-' (same ▸ List.mem_cons_self)
  cases digit

/-- The text of an integer tells it. -/
theorem toString_int_injective {i j : Int}
    (same : (toString i).toList = (toString j).toList) :
  i = j
  := by
  rw [toList_toString_int, toList_toString_int] at same
  split at same
  · split at same
    · have magnitudes := toDigits_injective (by decide) (by decide) (List.cons.inj same).2
      omega
    · exact absurd same (cons_sign_ne_toDigits _ _)
  · split at same
    · exact absurd same.symm (cons_sign_ne_toDigits _ _)
    · have magnitudes := toDigits_injective (by decide) (by decide) same
      omega

/-! ### Prefix codes -/

/-- Whether none of the texts of things can be continued to that of another thing. -/
def PrefixCode {α : Type} (text : α → List Char) : Prop :=
  ∀ a b rest rest', text a ++ rest = text b ++ rest' → a = b ∧ rest = rest'

/-- If no texts of things begin with a mark, lists of things can be told from the texts of their
members, one after another, with the mark after them. -/
theorem PrefixCode.flatMap {α : Type} {text : α → List Char} (code : PrefixCode text) {mark : Char}
    (unmarked : ∀ a, ∃ c rest, text a = c :: rest ∧ c ≠ mark) :
  PrefixCode fun list : List α => list.flatMap text ++ [mark]
  := by
  intro as bs rest rest' same
  induction as generalizing bs with
  | nil =>
    cases bs with
    | nil => exact ⟨rfl, List.append_cancel_left same⟩
    | cons b bs =>
      obtain ⟨c, tail, begins, other⟩ := unmarked b
      simp only [List.flatMap_nil, List.flatMap_cons, begins, List.nil_append, List.cons_append,
        List.cons.injEq] at same
      exact absurd same.1.symm other
  | cons a as ih =>
    cases bs with
    | nil =>
      obtain ⟨c, tail, begins, other⟩ := unmarked a
      simp only [List.flatMap_nil, List.flatMap_cons, begins, List.nil_append, List.cons_append,
        List.cons.injEq] at same
      exact absurd same.1 other
    | cons b bs =>
      simp only [List.flatMap_cons, List.append_assoc] at same ih
      obtain ⟨rfl, others⟩ := code a b _ _ same
      obtain ⟨rfl, rests⟩ := ih bs others
      exact ⟨rfl, rests⟩

/-! ### Escapes -/

/-- The characters with a short escape, each with the letter of its escape. -/
def shortEscapes : List (Char × Char) :=
  [('"', '"'), ('\\', '\\'), ('\n', 'n'), ('\r', 'r'), ('\t', 't'), ('\x00', '0')]

theorem escape_of_mem : ∀ pair ∈ shortEscapes, escape pair.1 = ['\\', pair.2] := by decide

theorem escape_of_not_mem {c : Char} (long : c ∉ shortEscapes.map Prod.fst) :
  escape c = if isPrintable c && !joinsPrevious c then [c] else codePointEscape c
  := by
  simp only [shortEscapes, List.map_cons, List.map_nil, List.mem_cons, List.not_mem_nil, or_false,
    not_or] at long
  simp only [escape, long, if_false]

/-- A character has a short escape, stands for itself if it is no backslash and no quote, or is
written by its code point. -/
theorem escape_cases (c : Char) :
  (∃ letter, (c, letter) ∈ shortEscapes ∧ escape c = ['\\', letter])
    ∨ (c ≠ '"' ∧ c ≠ '\\' ∧ escape c = [c])
    ∨ escape c = codePointEscape c
  := by
  by_cases short : c ∈ shortEscapes.map Prod.fst
  · left
    obtain ⟨⟨c, letter⟩, member, rfl⟩ := List.mem_map.mp short
    exact ⟨letter, member, escape_of_mem _ member⟩
  · right
    rw [escape_of_not_mem short]
    split
    · left
      simp only [shortEscapes, List.map_cons, List.mem_cons, not_or] at short
      exact ⟨short.1, short.2.1, rfl⟩
    · right
      rfl

/-- No digit in base sixteen is a closing brace. -/
theorem ne_brace_of_mem_hexDigits {n : Nat} : ∀ c ∈ hexDigits n, (c != '\x7d') = true := by
  intro c member
  obtain ⟨digit, small, rfl⟩ := exists_digit_of_mem_toDigits (by decide) n c member
  have all : ∀ digit < 16, (Nat.digitChar digit != '\x7d') = true := by decide
  apply all digit small

/-- The escapes by code points form a prefix code. -/
theorem prefixCode_codePointEscape : PrefixCode codePointEscape := by
  intro c d rest rest' same
  simp only [codePointEscape, List.append_assoc, List.cons_append, List.nil_append,
    List.cons.injEq, true_and] at same
  obtain ⟨digits, rests⟩ := eq_of_runs ne_brace_of_mem_hexDigits ne_brace_of_mem_hexDigits
    (by simp) (by simp) same
  exact ⟨Char.toNat_inj.mp (toDigits_injective (by decide) (by decide) digits),
    (List.cons.inj rests).2⟩

/-- The escapes of characters form a prefix code. -/
theorem prefixCode_escape : PrefixCode escape := by
  intro c d rest rest' same
  have letters : ∀ pair ∈ shortEscapes, ∀ other ∈ shortEscapes, pair.2 = other.2 →
      pair.1 = other.1 := by decide
  have not_code : ∀ pair ∈ shortEscapes, pair.2 ≠ 'u' := by decide
  obtain ⟨letter, member, escaped⟩ | ⟨-, unescaped, escaped⟩ | escaped := escape_cases c
  · obtain ⟨other, member', escaped'⟩ | ⟨-, unescaped, escaped'⟩ | escaped' := escape_cases d
    · simp only [escaped, escaped', List.cons_append, List.nil_append, List.cons.injEq,
        true_and] at same
      exact ⟨letters _ member _ member' same.1, same.2⟩
    · simp only [escaped, escaped', List.cons_append, List.cons.injEq] at same
      exact absurd same.1.symm unescaped
    · simp only [escaped, escaped', codePointEscape, List.cons_append, List.nil_append,
        List.cons.injEq, true_and] at same
      exact absurd same.1 (not_code _ member)
  · obtain ⟨other, member', escaped'⟩ | ⟨-, -, escaped'⟩ | escaped' := escape_cases d
    · simp only [escaped, escaped', List.cons_append, List.cons.injEq] at same
      exact absurd same.1 unescaped
    · simp only [escaped, escaped', List.cons_append, List.nil_append, List.cons.injEq] at same
      exact same
    · simp only [escaped, escaped', codePointEscape, List.cons_append, List.cons.injEq] at same
      exact absurd same.1 unescaped
  · obtain ⟨other, member', escaped'⟩ | ⟨-, unescaped, escaped'⟩ | escaped' := escape_cases d
    · simp only [escaped, escaped', codePointEscape, List.cons_append, List.nil_append,
        List.cons.injEq, true_and] at same
      exact absurd same.1.symm (not_code _ member')
    · simp only [escaped, escaped', codePointEscape, List.cons_append, List.cons.injEq] at same
      exact absurd same.1.symm unescaped
    · rw [escaped, escaped'] at same
      apply prefixCode_codePointEscape c d rest rest' same

/-- The escape of a character does not begin with a quote. -/
theorem escape_begins (c : Char) :
  ∃ first rest, escape c = first :: rest ∧ first ≠ '"'
  := by
  obtain ⟨letter, -, escaped⟩ | ⟨unquoted, -, escaped⟩ | escaped := escape_cases c
  · exact ⟨_, _, escaped, by decide⟩
  · exact ⟨_, _, escaped, unquoted⟩
  · exact ⟨_, _, escaped, by decide⟩

theorem toList_quote (text : String) :
  (quote text).toList = '"' :: (text.toList.flatMap escape ++ ['"'])
  := String.toList_ofList

/-- Quoted texts form a prefix code. -/
theorem prefixCode_quote : PrefixCode fun text => (quote text).toList := by
  intro text other rest rest' same
  simp only [toList_quote, List.cons_append, List.cons.injEq, true_and] at same
  obtain ⟨texts, rests⟩ := prefixCode_escape.flatMap escape_begins _ _ _ _ same
  exact ⟨String.toList_inj.mp texts, rests⟩

end LinkedSchema.Text
