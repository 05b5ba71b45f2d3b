import VendorSql.Proofs.JsonReading
import Mathlib.Tactic.Ring

/-!
# Reading back what is written on one line

A tree on one line has no blanks, so only the comma or bracket behind a number tells where it ends.
What a tree is read as is put together from what its parts are read as; the parts need not be read
as themselves, because a floating-point number may come back as its neighbour and what has no
notation comes back as null.
-/
namespace VendorSql.Json

open Number (twoTo)

/-! ### Integers -/

theorem le_ofDigitChars (digits : List Char) (n : Nat) : n ≤ Nat.ofDigitChars 10 digits n := by
  rw [Nat.ofDigitChars_eq_ofDigitChars_zero]
  exact Nat.le_add_right_of_le (Nat.le_mul_of_pos_left n (Nat.pow_pos (by decide)))

/-- Digits whose number fits are all taken. -/
theorem appendDigits_fits (digits : List Char) (significand : Nat)
    (fits : Nat.ofDigitChars 10 digits significand < twoTo 64) :
    appendDigits significand digits = (Nat.ofDigitChars 10 digits significand, []) := by
  induction digits generalizing significand with
  | nil => rfl
  | cons digit digits ih =>
    rw [Nat.ofDigitChars_cons] at fits ⊢
    -- More digits only make the number greater, so what fits in the end fits here.
    have shorter : 10 * significand + (digit.toNat - '0'.toNat) < twoTo 64 :=
      lt_of_le_of_lt (le_ofDigitChars digits _) fits
    simp only [appendDigits]
    rw [if_pos shorter]
    exact ih _ fits

theorem head_toDigits {n : Nat} (nonzero : n ≠ 0) : (Nat.toDigits 10 n).head? ≠ some '0' := by
  induction n using Nat.strongRecOn with
  | ind n ih =>
    by_cases single : n < 10
    · have table : ∀ d < 10, Nat.digitChar d = '0' → d = 0 := by decide
      rw [Nat.toDigits_of_lt_base single]
      intro zero
      exact nonzero (table n single (Option.some.inj zero))
    · rw [Nat.toDigits_of_base_le (by decide) (by omega),
        List.head?_append_of_ne_nil _ Nat.toDigits_ne_nil]
      exact ih (n / 10) (by omega) (by omega)

/-- Only zero itself begins with a zero. -/
theorem leads_toDigits (n : Nat) :
    ¬(1 < (Nat.toDigits 10 n).length ∧ (Nat.toDigits 10 n).head? = some '0') := by
  rintro ⟨long, zero⟩
  by_cases none : n = 0
  · subst none
    exact absurd long (by decide)
  · exact head_toDigits none zero

theorem digits?_append {digits rest : List Char} (decimal : ∀ c ∈ digits, c.isDigit = true)
    (nonempty : digits ≠ []) (ends : ∀ c ∈ rest.head?, c.isDigit = false) :
    digits? (digits ++ rest) = some (digits, rest) := by
  have taken : rest.takeWhile Char.isDigit = [] ∧ rest.dropWhile Char.isDigit = rest := by
    cases rest with
    | nil => exact ⟨rfl, rfl⟩
    | cons c rest => simp [ends c rfl]
  simp [digits?, List.takeWhile_append_of_pos decimal, List.dropWhile_append_of_pos decimal, taken,
    nonempty]

theorem isDigit_toDigits (n : Nat) : ∀ c ∈ Nat.toDigits 10 n, c.isDigit = true :=
  fun _ member => Nat.isDigit_of_mem_toDigits (by decide) (by decide) member

/-- What may stand behind a value on one line. -/
def Ends (rest : List Char) : Prop := ∀ c ∈ rest.head?, c = ',' ∨ c = '}'

theorem Ends.nil : Ends [] := by
  intro c first
  cases first

theorem Ends.cons {c : Char} (closes : c = ',' ∨ c = '}') (rest : List Char) :
    Ends (c :: rest) := by
  rintro d (first : some c = some d)
  cases first
  exact closes

theorem Ends.not_digit {rest : List Char} (ends : Ends rest) :
    ∀ c ∈ rest.head?, c.isDigit = false := by
  intro c first
  rcases ends c first with rfl | rfl <;> rfl

theorem Ends.no_fraction {rest : List Char} (ends : Ends rest) :
    fraction? rest = some (none, rest) := by
  cases rest with
  | nil => rfl
  | cons c rest => rcases ends c rfl with rfl | rfl <;> rfl

theorem Ends.no_exponent {rest : List Char} (ends : Ends rest) :
    exponent? rest = some (none, rest) := by
  cases rest with
  | nil => rfl
  | cons c rest => rcases ends c rfl with rfl | rfl <;> rfl

theorem unsigned?_toDigits (negative : Bool) (n : Nat) {rest : List Char} (ends : Ends rest) :
    unsigned? negative (Nat.toDigits 10 n ++ rest) =
      some (number negative (Nat.toDigits 10 n) none none, rest) := by
  have read := digits?_append (isDigit_toDigits n) Nat.toDigits_ne_nil ends.not_digit
  simp only [unsigned?, read, Option.bind_eq_bind, Option.bind_some, if_neg (leads_toDigits n),
    ends.no_fraction, ends.no_exponent]

/-- Digits alone make an integer, but for a minus sign in front of zero or of a number too large for
it. -/
theorem number_toDigits (negative : Bool) {n : Nat} (fits : n < twoTo 64) :
    number negative (Nat.toDigits 10 n) none none =
      if !negative then .int n
      else if 0 < n ∧ n ≤ twoTo 63 then .int (-(n : Int))
      else .float (Binary64.ofNat n).negate := by
  have read := appendDigits_fits (Nat.toDigits 10 n) 0
  rw [Nat.ofDigitChars_ten_toDigits] at read
  simp [number, read fits]

/-! ### Values -/

/-- The reader makes `read` of the line written for `written`, whatever follows it. -/
structure ReadsAs (written read : Datum) : Prop where
  starts : ∀ rest, skipBlanks (compactChars written ++ rest) = compactChars written ++ rest
  reads : ∀ fuel rest, 2 * (compactChars written).length ≤ fuel → Ends rest →
    value? fuel (compactChars written ++ rest) = some (read, rest)

theorem readsAs_null : ReadsAs .null .null where
  starts _ := rfl
  reads fuel rest enough _ := by
    cases fuel with
    | zero => cases enough
    | succ fuel => rfl

theorem readsAs_bool (value : Bool) : ReadsAs (.bool value) (.bool value) where
  starts _ := by cases value <;> rfl
  reads fuel rest enough _ := by
    cases fuel with
    | zero => cases value <;> cases enough
    | succ fuel => cases value <;> rfl

theorem readsAs_text (text : String) : ReadsAs (.text text) (.text text) where
  starts _ := rfl
  reads fuel rest enough _ := by
    have back := readsBack_of_textual (.text text) 0 fuel rest
    simp only [prettyChars] at back
    exact back enough

theorem value?_digit {c : Char} (digit : c.isDigit = true) (fuel : Nat) (rest : List Char) :
    value? (fuel + 1) (c :: rest) = unsigned? false (c :: rest) := by
  rw [value?]
  -- Every other branch of the reader begins with a character that is no digit.
  all_goals
    intro _ same
    injection same with letter
    subst letter
    cases digit

theorem value?_minus (fuel : Nat) (rest : List Char) :
    value? (fuel + 1) ('-' :: rest) = unsigned? true rest := by
  simp only [value?]

theorem toDigits_eq_cons (n : Nat) :
    ∃ c digits, Nat.toDigits 10 n = c :: digits ∧ c.isDigit = true := by
  obtain ⟨c, digits, split⟩ := List.exists_cons_of_ne_nil (Nat.toDigits_ne_nil (n := n) (b := 10))
  exact ⟨c, digits, split, isDigit_toDigits n c (by simp [split])⟩

theorem skipBlanks_digit {c : Char} (digit : c.isDigit = true) (rest : List Char) :
    skipBlanks (c :: rest) = c :: rest := by
  have visible : isBlank c = false := by
    simp only [isBlank, Bool.or_eq_false_iff, beq_eq_false_iff_ne]
    refine ⟨⟨⟨?_, ?_⟩, ?_⟩, ?_⟩ <;>
    · rintro rfl
      cases digit
  rw [skipBlanks, List.dropWhile_cons_of_neg (by simp [visible])]

/-- Integers of 64 bits, with or without a sign, come back as they are. -/
theorem readsAs_int {n : Int} (fits : -2 ^ 63 ≤ n ∧ n < 2 ^ 64) : ReadsAs (.int n) (.int n) := by
  cases n with
  | ofNat n =>
    obtain ⟨c, digits, split, digit⟩ := toDigits_eq_cons n
    have small : n < twoTo 64 := by
      have bound := fits.2
      simp only [Int.ofNat_eq_natCast] at bound
      have same : twoTo 64 = 2 ^ 64 := rfl
      omega
    constructor
    · intro rest
      simp only [compactChars, Number.decimalChars, split, List.cons_append]
      exact skipBlanks_digit digit _
    · intro fuel rest enough ends
      cases fuel with
      | zero => simp [compactChars, Number.decimalChars, split] at enough
      | succ fuel =>
        simp only [compactChars, Number.decimalChars]
        rw [split, List.cons_append, value?_digit digit, ← List.cons_append, ← split,
          unsigned?_toDigits false n ends, number_toDigits false small]
        rfl
  | negSucc n =>
    -- Behind a minus sign there is room for one number more, the least of 64 bits.
    have small : n + 1 ≤ twoTo 63 := by
      have bound := fits.1
      have same : twoTo 63 = 2 ^ 63 := rfl
      omega
    constructor
    · intro rest
      rfl
    · intro fuel rest enough ends
      cases fuel with
      | zero => cases enough
      | succ fuel =>
        have wide : twoTo 63 < twoTo 64 := by decide
        simp only [compactChars, Number.decimalChars, List.cons_append]
        rw [value?_minus, unsigned?_toDigits true (n + 1) ends, number_toDigits true (by omega)]
        simp only [Bool.not_true, Bool.false_eq_true, if_false, if_pos (⟨by omega, small⟩ :
          0 < n + 1 ∧ n + 1 ≤ twoTo 63)]
        rfl

/-! ### Tables -/

/-- Entries and what they are read as: under the same names, and value by value. -/
def EntriesReadAs (written read : List (String × Datum)) : Prop :=
  List.Forall₂ (fun given back => given.1 = back.1 ∧ ReadsAs given.2 back.2) written read

theorem ReadsAs.behind_colon {written read : Datum} (reads : ReadsAs written read) {fuel : Nat}
    {rest : List Char} (enough : 2 * (compactChars written).length ≤ fuel) (ends : Ends rest) :
    value? fuel (skipBlanks (compactChars written ++ rest)) = some (read, rest) := by
  rw [reads.starts]
  exact reads.reads fuel rest enough ends

theorem skipBlanks_compactEntries (entry : String × Datum) (entries : List (String × Datum))
    (rest : List Char) :
    skipBlanks (compactEntries (entry :: entries) ++ rest) =
      compactEntries (entry :: entries) ++ rest := by
  obtain ⟨key, value⟩ := entry
  cases entries <;> rfl

/-- Entries are read one after another, each as it reads by itself. -/
theorem entries?_compact {entry back : String × Datum} {written read : List (String × Datum)}
    (parts : EntriesReadAs (entry :: written) (back :: read)) (fuel : Nat) (rest : List Char)
    (enough : 2 * (compactEntries (entry :: written)).length < fuel) :
    entries? fuel (compactEntries (entry :: written) ++ '}' :: rest) =
      some (named (back :: read), rest) := by
  obtain _ | fuel := fuel
  · cases enough
  -- The induction is on the entries, with fuel for two steps of reading for each character.
  induction written generalizing entry back read fuel with
  | nil =>
    obtain ⟨key, value⟩ := entry
    obtain ⟨⟨rfl, (reads : ReadsAs value _)⟩, ⟨⟩⟩ := List.forall₂_cons.mp parts
    simp only [compactEntries, stringChars, List.length_append, List.length_cons,
      List.append_assoc, List.cons_append, List.nil_append] at enough ⊢
    exact entries?_last (string?_text _ _) rfl
      (reads.behind_colon (by omega) (.cons (.inr rfl) rest)) rfl
  | cons next written ih =>
    obtain ⟨key, value⟩ := entry
    obtain ⟨⟨rfl, (reads : ReadsAs value _)⟩, others⟩ := List.forall₂_cons.mp parts
    cases others with
    | cons second others =>
      simp only [compactEntries, stringChars, List.length_append, List.length_cons,
        List.append_assoc, List.cons_append, List.nil_append] at enough ⊢
      obtain _ | fuel := fuel
      · omega
      · -- A comma ends the value, and behind it the text begins with an entry again.
        have later := ih (.cons second others) fuel (by omega)
        rw [← skipBlanks_compactEntries] at later
        exact entries?_more (string?_text _ _) rfl
          (reads.behind_colon (by omega) (.cons (.inl rfl) _)) rfl later

theorem readsAs_table {written read : List (String × Datum)}
    (parts : EntriesReadAs written read) : ReadsAs (.table written) (.table read) where
  starts _ := by
    rw [compactChars]
    rfl
  reads fuel rest enough _ := by
    cases parts with
    | nil =>
      cases fuel with
      | zero => cases enough
      | succ fuel => rfl
    | @cons entry back written read first others =>
      cases fuel with
      | zero => cases enough
      | succ fuel =>
        simp only [compactChars, List.cons_append, List.append_assoc, List.length_cons,
          List.length_append, List.nil_append] at enough ⊢
        have body := entries?_compact (.cons first others) fuel rest (by omega)
        rw [← skipBlanks_compactEntries] at body
        exact value?_table body

/-- What is read of a tree is read of the text that holds it alone. -/
theorem ReadsAs.parse?_compact {written read : Datum} (reads : ReadsAs written read) :
    parse? (compact written) = some read := by
  have chars : (compact written).toList = compactChars written := by simp [compact]
  have start := reads.starts []
  have back := reads.reads (2 * (compactChars written).length + 2) [] (by omega) .nil
  rw [List.append_nil] at start back
  simp only [Json.parse?, chars, start, back, Option.bind_eq_bind, Option.bind_some]
  rfl

end VendorSql.Json
