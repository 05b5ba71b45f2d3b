import VendorSql.Proofs.Lowercase
import VendorSql.Proofs.NearestFloats
import VendorSql.Row

/-!
# Integers in a row

A field can show an integer in three ways: as an integer, as a floating-point number without a
fraction, and as a text of decimal digits. What each of them stands for is said here without the
functions that read it: the digits by their grammar, the floating-point number by the value of its
bits. The integer view of a field shows just these integers where they fit 64 bits, and nothing in
their place where they do not, but for one case. A floating-point number beyond the range is taken
for the end of the range that is next to it.
-/
namespace VendorSql

namespace Number

/-! ### Digits -/

/-- Decimal digits and the number they stand for. -/
inductive Unsigned : List Char → Nat → Prop
  | digit {c : Char} : c.isDigit = true → Unsigned [c] (c.toNat - '0'.toNat)
  | append {digits : List Char} {n : Nat} {c : Char} : Unsigned digits n → c.isDigit = true →
    Unsigned (digits ++ [c]) (10 * n + (c.toNat - '0'.toNat))

/-- Decimal digits with one sign in front of them or none. -/
inductive Signed : List Char → Int → Prop
  | plain {digits : List Char} {n : Nat} : Unsigned digits n → Signed digits n
  | plus {digits : List Char} {n : Nat} : Unsigned digits n → Signed ('+' :: digits) n
  | minus {digits : List Char} {n : Nat} : Unsigned digits n → Signed ('-' :: digits) (-n)

theorem readNat?_append {digits : List Char} {n : Nat} (read : readNat? digits = some n) {c : Char}
    (digit : c.isDigit = true) :
    readNat? (digits ++ [c]) = some (10 * n + (c.toNat - '0'.toNat)) := by
  unfold readNat? at read ⊢
  split at read
  next every =>
    cases read
    rw [if_pos ⟨by simp, by simp [every.2, digit]⟩, Nat.ofDigitChars_append, Nat.ofDigitChars_cons,
      Nat.ofDigitChars_nil]
  next => cases read

theorem Unsigned.readNat? {digits : List Char} {n : Nat} (unsigned : Unsigned digits n) :
    readNat? digits = some n := by
  induction unsigned with
  | digit digit => simp [Number.readNat?, digit, Nat.ofDigitChars_cons]
  | append _ digit ih => exact readNat?_append ih digit

theorem unsigned_of_isDigit {digits : List Char} (nonempty : digits ≠ [])
    (every : ∀ c ∈ digits, c.isDigit = true) : ∃ n, Unsigned digits n := by
  -- The grammar appends, so the digits are taken off at the end.
  induction digits using List.reverseRecOn with
  | nil => exact absurd rfl nonempty
  | append_singleton digits c ih =>
    have last : c.isDigit = true := every c (by simp)
    by_cases first : digits = []
    · subst first
      exact ⟨_, .digit last⟩
    · obtain ⟨n, unsigned⟩ := ih first fun d member => every d (by simp [member])
      exact ⟨_, .append unsigned last⟩

theorem readNat?_eq_some_iff {digits : List Char} {n : Nat} :
    readNat? digits = some n ↔ Unsigned digits n := by
  constructor
  · intro read
    have every : digits ≠ [] ∧ digits.all Char.isDigit = true := by
      by_contra other
      rw [readNat?, if_neg other] at read
      cases read
    obtain ⟨m, unsigned⟩ := unsigned_of_isDigit every.1 (List.all_eq_true.mp every.2)
    obtain rfl : m = n := Option.some.inj (unsigned.readNat?.symm.trans read)
    exact unsigned
  · exact Unsigned.readNat?

theorem Unsigned.isDigit {digits : List Char} {n : Nat} (unsigned : Unsigned digits n) :
    ∀ c ∈ digits, c.isDigit = true := by
  induction unsigned with
  | digit digit => simpa using digit
  | append _ digit ih =>
    intro c member
    rcases List.mem_append.mp member with earlier | last
    · exact ih c earlier
    · rwa [List.mem_singleton.mp last]

/-- Reading an integer agrees with what its digits and its sign stand for. -/
theorem readInt?_eq_some_iff {chars : List Char} {n : Int} :
    readInt? chars = some n ↔ Signed chars n := by
  constructor
  · intro read
    unfold readInt? at read
    split at read <;>
      (obtain ⟨_, number, rfl⟩ := Option.map_eq_some_iff.mp read
       obtain ⟨m, unsigned, ⟨⟩⟩ := Option.bind_eq_some_iff.mp number)
    · exact .minus (readNat?_eq_some_iff.mp unsigned)
    · exact .plus (readNat?_eq_some_iff.mp unsigned)
    · exact .plain (readNat?_eq_some_iff.mp unsigned)
  · intro signed
    cases signed with
    | minus unsigned =>
      rw [readInt?, unsigned.readNat?]
      rfl
    | plus unsigned =>
      rw [readInt?, unsigned.readNat?]
      rfl
    | plain unsigned =>
      unfold readInt?
      split
      -- A sign is no digit.
      · exact absurd (unsigned.isDigit '-' List.mem_cons_self) (by decide)
      · exact absurd (unsigned.isDigit '+' List.mem_cons_self) (by decide)
      · rw [unsigned.readNat?]
        rfl

theorem isBlank_of_isDigit {c : Char} (digit : c.isDigit = true) : Text.isBlank c = false := by
  have bounds : 48 ≤ c.toNat ∧ c.toNat ≤ 57 := by
    simpa [Char.isDigit, UInt32.le_iff_toNat_le] using digit
  simp only [Text.isBlank, Text.Ranges.contains, Text.blankRanges, List.any_cons, List.any_nil,
    Bool.or_false, Bool.or_eq_false_iff, Bool.and_eq_false_imp, decide_eq_true_eq,
    decide_eq_false_iff_not]
  omega

theorem Signed.isBlank {chars : List Char} {n : Int} (signed : Signed chars n) :
    ∀ c ∈ chars, Text.isBlank c = false := by
  have digits {digits : List Char} {n : Nat} (unsigned : Unsigned digits n) :
      ∀ c ∈ digits, Text.isBlank c = false :=
    fun c member => isBlank_of_isDigit (unsigned.isDigit c member)
  cases signed with
  | plain unsigned => exact digits unsigned
  | plus unsigned => exact List.forall_mem_cons.mpr ⟨by decide, digits unsigned⟩
  | minus unsigned => exact List.forall_mem_cons.mpr ⟨by decide, digits unsigned⟩

end Number

theorem Text.isTrimmed_of_forall {chars : List Char}
    (unblank : ∀ c ∈ chars, isBlank c = false) : IsTrimmed chars := by
  constructor
  · intro first
    obtain ⟨c, found, blank⟩ := Option.map_eq_some_iff.mp first
    rw [unblank c (List.mem_of_head? found)] at blank
    cases blank
  · intro last
    obtain ⟨c, found, blank⟩ := Option.map_eq_some_iff.mp last
    rw [unblank c (List.mem_of_getLast? found)] at blank
    cases blank

namespace Binary64

open Number (twoTo)

/-! ### Floating-point numbers without a fraction -/

/-- The exact value of a finite number. -/
def value (x : Binary64) : ℚ :=
  if x.isNegative then -x.magnitude else x.magnitude

theorem magnitude_eq_natCast_iff {x : Binary64} {n : Nat} :
    x.magnitude = n ↔ x.units = n * twoTo 1074 := by
  have positive : (twoTo 1074 : ℚ) ≠ 0 := by exact_mod_cast (twoTo_pos 1074).ne'
  rw [magnitude, smallestStep, mul_one_div, div_eq_iff positive]
  exact_mod_cast Iff.rfl

theorem natAbs_value {x : Binary64} {n : Int} (same : x.value = n) :
    x.magnitude = n.natAbs := by
  have positive : 0 ≤ x.magnitude :=
    mul_nonneg (Nat.cast_nonneg _) (by rw [smallestStep]; positivity)
  have size : |x.value| = x.magnitude := by
    rw [value]
    split
    · rw [abs_neg, abs_of_nonneg positive]
    · exact abs_of_nonneg positive
  rw [← size, same, Nat.cast_natAbs, Int.cast_abs]

/-- A floating-point number is an integer exactly if it is finite and its value is one. -/
theorem toInt?_eq_some_iff {x : Binary64} {n : Int} :
    x.toInt? = some n ↔ x.isFinite = true ∧ x.value = n := by
  have whole : x.significand * twoTo x.scale = x.units := rfl
  simp only [toInt?, whole]
  -- An integer is a multiple of the unit, whose quotient it is.
  constructor
  · intro read
    split at read
    next integral =>
      obtain ⟨finite, divides⟩ := integral
      have size : x.magnitude = (x.units / twoTo 1074 : Nat) :=
        magnitude_eq_natCast_iff.mpr (Nat.div_mul_cancel (Nat.dvd_of_mod_eq_zero divides)).symm
      cases read
      refine ⟨finite, ?_⟩
      rw [value, size]
      split <;> push_cast <;> rfl
    next => cases read
  · rintro ⟨finite, same⟩
    have size := natAbs_value same
    have units := magnitude_eq_natCast_iff.mp size
    have divides : x.units % twoTo 1074 = 0 := by rw [units, Nat.mul_mod_left]
    have quotient : ((x.units : Int) / (twoTo 1074 : Nat)) = n.natAbs := by
      rw [← Int.natCast_ediv, units, Nat.mul_div_cancel _ (twoTo_pos 1074)]
    rw [if_pos ⟨finite, divides⟩, quotient, Int.natCast_natAbs]
    rw [value, size, Nat.cast_natAbs] at same
    congr 1
    split_ifs at same ⊢ <;> exact_mod_cast same

end Binary64

namespace Value

open Number (Signed int64?)

/-! ### What a value stands for -/

/-- The integer that a value stands for, exactly. -/
inductive Denotes : Value → Int → Prop
  | int (n : Int64) : Denotes (int n) n.toInt
  | float {x : Binary64} {n : Int} : x.isFinite = true → x.value = n → Denotes (float x) n
  /-- Blanks around a text do not count. -/
  | text {text : String} {before number after : List Char} {n : Int} :
    text.toList = before ++ (number ++ after) → (∀ c ∈ before, Text.isBlank c = true) →
    (∀ c ∈ after, Text.isBlank c = true) → Signed number n → Denotes (.text text) n

theorem denotes_float_iff {x : Binary64} {n : Int} :
    (float x).Denotes n ↔ x.toInt? = some n := by
  rw [Binary64.toInt?_eq_some_iff]
  constructor
  · rintro ⟨⟩
    exact ⟨‹_›, ‹_›⟩
  · rintro ⟨finite, same⟩
    exact .float finite same

theorem denotes_text_iff {chars : String} {n : Int} :
    (text chars).Denotes n ↔ Number.readInt? (Text.trimChars chars.toList) = some n := by
  rw [Number.readInt?_eq_some_iff]
  constructor
  · intro denotes
    cases denotes with
    | text split leading trailing signed =>
      have trimmed := Text.trimChars_eq_iff.mpr
        ⟨Text.isTrimmed_of_forall signed.isBlank, _, _, leading, trailing, split⟩
      rwa [trimmed]
  · intro signed
    obtain ⟨_, before, after, leading, trailing, split⟩ := Text.trimChars_eq_iff.mp rfl
    exact .text split leading trailing signed

/-! ### The view of a value -/

theorem clamp_toInt (n : Int64) : clamp n.toInt = n := by
  have low := Int64.minValue_le_toInt n
  have high := Int64.toInt_le n
  rw [clamp, if_neg (by omega), if_neg (by omega), Int64.ofInt_toInt]

theorem clamp_of_lt {m : Int} (below : m < -2 ^ 63) : clamp m = Int64.minValue := by
  rw [clamp, Int64.toInt_minValue, if_pos below]

theorem clamp_of_le {m : Int} (above : 2 ^ 63 ≤ m) : clamp m = Int64.maxValue := by
  rw [clamp, Int64.toInt_minValue, Int64.toInt_maxValue, if_neg (by omega), if_pos (by omega)]

theorem integer?_float {x : Binary64} {m : Int} (denotes : (float x).Denotes m) :
    (float x).integer? = some (clamp m) := by
  rw [integer?, denotes_float_iff.mp denotes, Option.map_some]

/-- A value stands for an integer of 64 bits unless it is a number too large for them. -/
def Fits (value : Value) : Prop :=
  ∀ x m, value = float x → value.Denotes m → -2 ^ 63 ≤ m ∧ m < 2 ^ 63

/-- The view of a value that fits is the integer it stands for, and there is none otherwise. -/
theorem integer?_eq_some_iff {value : Value} (fits : value.Fits) (n : Int64) :
    value.integer? = some n ↔ value.Denotes n.toInt := by
  cases value with
  | null | bool value => constructor <;> rintro ⟨⟩
  | int value =>
    constructor
    · rintro ⟨⟩
      exact .int _
    · intro denotes
      generalize number : n.toInt = m at denotes
      cases denotes with
      | int => rw [integer?, Int64.toInt_inj.mp number]
  | float x =>
    constructor
    · intro read
      rw [integer?, Option.map_eq_some_iff] at read
      obtain ⟨m, exact, rfl⟩ := read
      have denotes := denotes_float_iff.mpr exact
      -- A number that fits is not moved by bringing it into range.
      obtain ⟨low, high⟩ := fits x m rfl denotes
      have same : (Int64.ofInt m).toInt = m := Int64.toInt_ofInt_of_le low high
      rwa [← same, clamp_toInt, same]
    · intro denotes
      rw [integer?_float denotes, clamp_toInt]
  | text chars =>
    rw [denotes_text_iff, integer?, Option.bind_eq_some_iff]
    simp only [Number.int64?_eq_some_iff, exists_eq_right']

/-- The end of the range that a number too large is taken for is not what it stands for. -/
theorem not_denotes_clamp {x : Binary64} {m : Int} (denotes : (float x).Denotes m)
    (beyond : m < -2 ^ 63 ∨ 2 ^ 63 ≤ m) : ¬(float x).Denotes (clamp m).toInt := by
  intro clamped
  have same := (denotes_float_iff.mp denotes).symm.trans (denotes_float_iff.mp clamped)
  have low := Int64.le_toInt (clamp m)
  have high := Int64.toInt_lt (clamp m)
  rw [← Option.some.inj same] at low high
  omega

/-- Only values that fit are shown as what they stand for. -/
theorem shows_iff_fits (value : Value) :
    (∀ n : Int64, value.integer? = some n ↔ value.Denotes n.toInt) ↔ value.Fits := by
  constructor
  · rintro shows x m rfl denotes
    by_contra beyond
    have clamped := (shows (clamp m)).mp (integer?_float denotes)
    exact not_denotes_clamp denotes (by omega) clamped
  · exact integer?_eq_some_iff

end Value

namespace Row

/-! ### The view of a field -/

theorem integer?_of_carries {row : Row} {name : String} {value : Value}
    (carried : row.Carries name value) : row.integer? name = value.integer? := by
  rw [integer?, get?_eq_some_iff.mpr carried, Option.bind_some]

theorem integer?_eq_none_of_absent {row : Row} {name : String}
    (absent : ∀ value, ¬row.Carries name value) : row.integer? name = none := by
  rw [integer?, get?_eq_none_iff.mpr absent, Option.bind_none]

/-- A field holds one value, so it stands for what that value stands for. -/
theorem denotes_of_carries {row : Row} {name : String} {value : Value}
    (carried : row.Carries name value) (n : Int) :
    (∃ other, row.Carries name other ∧ other.Denotes n) ↔ value.Denotes n := by
  constructor
  · rintro ⟨other, carries, denotes⟩
    exact carries.unique carried ▸ denotes
  · intro denotes
    exact ⟨value, carried, denotes⟩

theorem fits_of_carries {row : Row} {name : String} {value : Value}
    (carried : row.Carries name value) :
    (∀ x m, row.Carries name (.float x) → (Value.float x).Denotes m →
      -2 ^ 63 ≤ m ∧ m < 2 ^ 63) ↔ value.Fits := by
  constructor
  · rintro fits x m rfl
    exact fits x m carried
  · intro fits x m carries
    have same := carries.unique carried
    exact same ▸ fits x m same.symm

/-- The integer view of a field is exact, whatever the field holds, unless that is a floating-point
number that stands for an integer beyond 64 bits: such a number is taken for the end of the range
that is next to it. -/
theorem integer?_exact_iff (row : Row) (name : String) :
    ((∀ n : Int64, row.integer? name = some n ↔
        ∃ value, row.Carries name value ∧ value.Denotes n.toInt) ↔
      ∀ x m, row.Carries name (.float x) → (Value.float x).Denotes m → -2 ^ 63 ≤ m ∧ m < 2 ^ 63) ∧
    ∀ x m, row.Carries name (.float x) → (Value.float x).Denotes m →
      (m < -2 ^ 63 → row.integer? name = some Int64.minValue) ∧
      (2 ^ 63 ≤ m → row.integer? name = some Int64.maxValue) := by
  constructor
  · by_cases present : ∃ value, row.Carries name value
    · obtain ⟨value, carried⟩ := present
      rw [fits_of_carries carried, ← Value.shows_iff_fits]
      simp only [integer?_of_carries carried, denotes_of_carries carried]
    · -- Nothing is shown where nothing is there.
      have absent (value : Value) : ¬row.Carries name value :=
        fun carried => present ⟨value, carried⟩
      simp [integer?_eq_none_of_absent absent, absent]
  · intro x m carried denotes
    rw [integer?_of_carries carried, Value.integer?_float denotes]
    constructor
    · intro below
      rw [Value.clamp_of_lt below]
    · intro above
      rw [Value.clamp_of_le above]

/-- The first integer that does not fit is taken for the last that does. -/
theorem integer?_ne_denoted :
    let row := Row.ofList [("max_value", .float ⟨0x43e0000000000000⟩)]
    row.integer? "max_value" = some Int64.maxValue ∧
      row.Carries "max_value" (.float ⟨0x43e0000000000000⟩) ∧
      (Value.float ⟨0x43e0000000000000⟩).Denotes (2 ^ 63) ∧
      ¬∀ n : Int64, row.integer? "max_value" = some n ↔
        ∃ value, row.Carries "max_value" value ∧ value.Denotes n.toInt := by
  intro row
  have carried : row.Carries "max_value" (.float ⟨0x43e0000000000000⟩) :=
    get?_eq_some_iff.mp (by decide +kernel)
  have denotes : (Value.float ⟨0x43e0000000000000⟩).Denotes (2 ^ 63) :=
    Value.denotes_float_iff.mpr (by decide +kernel)
  have shown : row.integer? "max_value" = some Int64.maxValue := by decide +kernel
  refine ⟨shown, carried, denotes, fun exact => ?_⟩
  obtain ⟨value, carries, other⟩ := (exact Int64.maxValue).mp shown
  obtain rfl := carries.unique carried
  exact Value.not_denotes_clamp denotes (.inr le_rfl) other

end Row

end VendorSql
