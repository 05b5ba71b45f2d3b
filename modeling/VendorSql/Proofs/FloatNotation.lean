import VendorSql.Proofs.CompactJson
import VendorSql.Proofs.ShortestDecimals

/-!
# The notation of floating-point numbers

A decimal is written in one of four layouts. Whichever it is, the reader finds the same digits in it
and the same power of ten: only an integer with a point behind it has a zero more. So what a number
is read back as depends on its shortest decimal alone.
-/
namespace VendorSql

open Number (tenTo twoTo)

/-- Where the point falls, counted from the first digit. -/
def Binary64.Decimal.point (decimal : Binary64.Decimal) : Int :=
  (Nat.toDigits 10 decimal.digits).length + decimal.exponent

/-- The decimal as its notation spells it: an integer written out ends in `.0`. -/
def Binary64.Decimal.written (decimal : Binary64.Decimal) : Binary64.Decimal :=
  if 0 ≤ decimal.exponent ∧ decimal.point ≤ 16 then
    ⟨decimal.digits * tenTo (decimal.exponent.toNat + 1), -1⟩
  else decimal

namespace Json

/-! ### Parts of a number -/

def fractionChars : Option (List Char) → List Char
  | none => []
  | some digits => '.' :: digits

/-- An exponent as the reader tells it apart: whether it is negative, and its digits. -/
def exponentParts (exponent : Int) : Bool × List Char :=
  match exponent with
  | .ofNat n => (false, Nat.toDigits 10 n)
  | .negSucc n => (true, Nat.toDigits 10 (n + 1))

def exponentChars : Option Int → List Char
  | none => []
  | some (.ofNat n) => 'e' :: '+' :: Nat.toDigits 10 n
  | some (.negSucc n) => 'e' :: '-' :: Nat.toDigits 10 (n + 1)

structure Digits (chars : List Char) : Prop where
  decimal : ∀ c ∈ chars, c.isDigit = true
  nonempty : chars ≠ []

theorem digits_toDigits (n : Nat) : Digits (Nat.toDigits 10 n) :=
  ⟨isDigit_toDigits n, Nat.toDigits_ne_nil⟩

theorem exponent?_chars (exponent : Option Int) {rest : List Char} (ends : Ends rest) :
    exponent? (exponentChars exponent ++ rest) = some (exponent.map exponentParts, rest) := by
  obtain _ | (n | n) := exponent
  · exact ends.no_exponent
  · have read := digits?_append (isDigit_toDigits n) Nat.toDigits_ne_nil ends.not_digit
    simp [exponentChars, exponent?, read, exponentParts]
  · have read := digits?_append (isDigit_toDigits (n + 1)) Nat.toDigits_ne_nil ends.not_digit
    simp [exponentChars, exponent?, read, exponentParts]

theorem not_digit_exponentChars (exponent : Option Int) {rest : List Char} (ends : Ends rest) :
    ∀ c ∈ (exponentChars exponent ++ rest).head?, c.isDigit = false := by
  obtain _ | (n | n) := exponent
  · exact ends.not_digit
  · rintro c (first : some 'e' = some c)
    cases first
    rfl
  · rintro c (first : some 'e' = some c)
    cases first
    rfl

theorem no_fraction_exponentChars (exponent : Option Int) {rest : List Char} (ends : Ends rest) :
    fraction? (exponentChars exponent ++ rest) = some (none, exponentChars exponent ++ rest) := by
  obtain _ | (n | n) := exponent
  · exact ends.no_fraction
  · rfl
  · rfl

/-- Whole digits, a fraction and an exponent are told apart again, whichever of them there are. -/
theorem unsigned?_parts (negative : Bool) {whole : List Char} {fraction : Option (List Char)}
    (exponent : Option Int) {rest : List Char} (front : Digits whole)
    (leads : ¬(1 < whole.length ∧ whole.head? = some '0'))
    (behind : ∀ digits ∈ fraction, Digits digits) (ends : Ends rest) :
    unsigned? negative (whole ++ (fractionChars fraction ++ (exponentChars exponent ++ rest))) =
      some (number negative whole fraction (exponent.map exponentParts), rest) := by
  have last := exponent?_chars exponent ends
  have stops := not_digit_exponentChars exponent ends
  -- The exponent is read last; in front of it the digits end at the point or where it begins.
  cases fraction with
  | none =>
    have first := digits?_append front.decimal front.nonempty stops
    simp only [fractionChars, List.nil_append, unsigned?, first, Option.bind_eq_bind,
      Option.bind_some, if_neg leads, no_fraction_exponentChars exponent ends, last]
  | some digits =>
    obtain ⟨decimal, nonempty⟩ := behind digits rfl
    have point : ∀ c ∈ ('.' :: (digits ++ (exponentChars exponent ++ rest))).head?,
        c.isDigit = false := by
      rintro c (first : some '.' = some c)
      cases first
      rfl
    have first := digits?_append front.decimal front.nonempty point
    have second := digits?_append decimal nonempty stops
    simp only [fractionChars, List.cons_append, unsigned?, first, Option.bind_eq_bind,
      Option.bind_some, if_neg leads, fraction?, second, Option.map_some, last]

theorem ofDigitChars_exponentParts (exponent : Int) :
    Nat.ofDigitChars 10 (exponentParts exponent).2 0 = exponent.natAbs ∧
      ((exponentParts exponent).1 = true ↔ exponent < 0) := by
  obtain n | n := exponent
  · simp [exponentParts]
  · simp [exponentParts, Int.negSucc_lt_zero]

/-- A number with a point or an exponent is its digits times a power of ten. -/
theorem number_parts (negative : Bool) (whole : List Char) (fraction : Option (List Char))
    (exponent : Option Int) (given : ¬(fraction.isNone = true ∧ exponent.isNone = true))
    (fits : Nat.ofDigitChars 10 (whole ++ fraction.getD []) 0 < twoTo 64)
    (near : ∀ power ∈ exponent, power.natAbs < twoTo 31) :
    number negative whole fraction (exponent.map exponentParts) =
      float negative (Nat.ofDigitChars 10 (whole ++ fraction.getD []) 0)
        (exponent.getD 0 - (fraction.getD []).length) := by
  -- The digits in front of the point and those behind it are taken in as one number.
  rw [Nat.ofDigitChars_append] at fits ⊢
  have second := appendDigits_fits _ _ fits
  have first := appendDigits_fits whole 0 (lt_of_le_of_lt (le_ofDigitChars _ _) fits)
  simp only [number, first, Option.isNone_map, and_true, if_neg given, second, List.length_nil,
    Nat.sub_zero]
  -- The point and the exponent move the digits; both are counted as places.
  cases exponent with
  | none => rfl
  | some power =>
    obtain ⟨size, sign⟩ := ofDigitChars_exponentParts power
    have small : power.natAbs < twoTo 31 := near power rfl
    simp only [Option.map_some, Option.getD_some, size, if_pos small]
    by_cases down : power < 0
    · have size : (power.natAbs : Int) = -power := by omega
      simp only [sign.mpr down, if_true, size]
      congr 1
      omega
    · have size : (power.natAbs : Int) = power := by omega
      simp only [Bool.eq_false_iff.mpr fun up => down (sign.mp up), Bool.false_eq_true, if_false,
        size]
      congr 1
      omega

/-! ### Layouts -/

/-- A layout is made of parts that the reader tells apart again. -/
structure Spelled (decimal : Binary64.Decimal) (whole : List Char)
    (fraction : Option (List Char)) (exponent : Option Int) : Prop where
  layout : decimalLayout decimal = whole ++ (fractionChars fraction ++ exponentChars exponent)
  front : Digits whole
  leads : ¬(1 < whole.length ∧ whole.head? = some '0')
  behind : ∀ digits ∈ fraction, Digits digits
  given : ¬(fraction.isNone = true ∧ exponent.isNone = true)
  digits : Nat.ofDigitChars 10 (whole ++ fraction.getD []) 0 = decimal.written.digits
  places : exponent.getD 0 - (fraction.getD []).length = decimal.written.exponent
  near : ∀ power ∈ exponent, power.natAbs < twoTo 31

section

variable {decimal : Binary64.Decimal}

/-- The layouts of a number that is not zero, as four cases. -/
theorem decimalLayout_eq (nonzero : decimal.digits ≠ 0) :
    decimalLayout decimal =
      let digits := Nat.toDigits 10 decimal.digits
      if 0 ≤ decimal.exponent ∧ decimal.point ≤ 16 then
        digits ++ List.replicate decimal.exponent.toNat '0' ++ ['.', '0']
      else if 0 < decimal.point ∧ decimal.point ≤ 16 then
        digits.take decimal.point.toNat ++ ['.'] ++ digits.drop decimal.point.toNat
      else if -5 < decimal.point ∧ decimal.point ≤ 0 then
        ['0', '.'] ++ List.replicate (-decimal.point).toNat '0' ++ digits
      else
        digits.take 1 ++ (if digits.length = 1 then [] else '.' :: digits.drop 1) ++
          (if 0 < decimal.point then ['e', '+'] else ['e']) ++
            Number.decimalChars (decimal.point - 1) := by
  simp only [decimalLayout, if_neg nonzero]
  rfl

theorem written_of_not (other : ¬(0 ≤ decimal.exponent ∧ decimal.point ≤ 16)) :
    decimal.written = decimal := by
  rw [Binary64.Decimal.written, if_neg other]

theorem Digits.append {first second : List Char} (front : ∀ c ∈ first, c.isDigit = true)
    (digits : Digits second) : Digits (first ++ second) := by
  refine ⟨fun c member => ?_, by simp [digits.nonempty]⟩
  rcases List.mem_append.mp member with early | late
  · exact front c early
  · exact digits.decimal c late

theorem isDigit_zeros (n : Nat) : ∀ c ∈ List.replicate n '0', c.isDigit = true := by
  intro c member
  rw [List.eq_of_mem_replicate member]
  rfl

theorem digits_zero : Digits ['0'] :=
  ⟨isDigit_zeros 1, List.cons_ne_nil _ _⟩

/-- An integer is written out with zeros behind its digits. -/
theorem spelled_integer (nonzero : decimal.digits ≠ 0) (integer : 0 ≤ decimal.exponent)
    (short : decimal.point ≤ 16) :
    Spelled decimal
      (Nat.toDigits 10 decimal.digits ++ List.replicate decimal.exponent.toNat '0')
      (some ['0']) none where
  layout := by
    simp only [decimalLayout_eq nonzero, if_pos (And.intro integer short)]
    rfl
  front := by
    refine ⟨fun c member => ?_, by simp [Nat.toDigits_ne_nil]⟩
    rcases List.mem_append.mp member with digit | zero
    · exact isDigit_toDigits _ c digit
    · exact isDigit_zeros _ c zero
  leads := by
    rw [List.head?_append_of_ne_nil _ Nat.toDigits_ne_nil]
    exact fun zero => head_toDigits nonzero zero.2
  behind := by
    rintro digits ⟨⟩
    exact digits_zero
  given := by simp
  -- The point is followed by one more zero, which the reader counts as a place.
  digits := by
    rw [Binary64.Decimal.written, if_pos ⟨integer, short⟩, Option.getD_some, List.append_assoc,
      Nat.ofDigitChars_append, Nat.ofDigitChars_ten_toDigits, ← List.replicate_succ',
      Nat.ofDigitChars_replicate_zero, Binary64.tenTo_eq, Nat.mul_comm]
  places := by
    rw [Binary64.Decimal.written, if_pos ⟨integer, short⟩]
    rfl
  near := by simp

/-- A point falls between the digits. -/
theorem spelled_pointed (nonzero : decimal.digits ≠ 0) (fraction : decimal.exponent < 0)
    (above : 0 < decimal.point) (short : decimal.point ≤ 16) :
    Spelled decimal ((Nat.toDigits 10 decimal.digits).take decimal.point.toNat)
      (some ((Nat.toDigits 10 decimal.digits).drop decimal.point.toNat)) none where
  layout := by
    simp only [decimalLayout_eq nonzero, if_neg (not_and_of_not_left _ (not_le.mpr fraction)),
      if_pos (And.intro above short), List.append_assoc]
    simp [fractionChars, exponentChars]
  front := by
    refine ⟨fun c member => isDigit_toDigits _ c (List.mem_of_mem_take member), fun empty => ?_⟩
    -- The point stands behind the first digit at least, and in front of the last.
    have length := congrArg List.length empty
    have some := Nat.length_toDigits_pos (b := 10) (n := decimal.digits)
    simp only [List.length_take, List.length_nil] at length
    omega
  leads := by
    rw [List.head?_take, if_neg (by omega)]
    exact fun zero => head_toDigits nonzero zero.2
  behind := by
    rintro digits ⟨⟩
    refine ⟨fun c member => isDigit_toDigits _ c (List.mem_of_mem_drop member), fun empty => ?_⟩
    have point : decimal.point =
        (Nat.toDigits 10 decimal.digits).length + decimal.exponent := rfl
    have length := List.drop_eq_nil_iff.mp empty
    omega
  given := by simp
  digits := by
    rw [written_of_not (by omega), Option.getD_some, List.take_append_drop,
      Nat.ofDigitChars_ten_toDigits]
  places := by
    rw [written_of_not (by omega)]
    simp only [Option.getD_none, Option.getD_some, List.length_drop, Binary64.Decimal.point] at *
    omega
  near := by simp

/-- A small number has zeros in front of its digits. -/
theorem spelled_small (nonzero : decimal.digits ≠ 0) (fraction : decimal.exponent < 0)
    (low : -5 < decimal.point) (below : decimal.point ≤ 0) :
    Spelled decimal ['0']
      (some (List.replicate (-decimal.point).toNat '0' ++ Nat.toDigits 10 decimal.digits))
      none where
  layout := by
    simp only [decimalLayout_eq nonzero, if_neg (not_and_of_not_left _ (not_le.mpr fraction)),
      if_neg (not_and_of_not_left _ (not_lt.mpr below)), if_pos (And.intro low below)]
    simp [fractionChars, exponentChars]
  front := digits_zero
  leads := by simp
  behind := by
    rintro digits ⟨⟩
    exact (digits_toDigits _).append (isDigit_zeros _)
  given := by simp
  -- The zeros in front do not count, whether before the point or behind it.
  digits := by
    rw [written_of_not (by omega), Option.getD_some, ← List.append_assoc, List.singleton_append,
      ← List.replicate_succ, Nat.ofDigitChars_append, Nat.ofDigitChars_replicate_zero,
      Nat.mul_zero, Nat.ofDigitChars_ten_toDigits]
  places := by
    rw [written_of_not (by omega)]
    simp only [Option.getD_none, Option.getD_some, List.length_append, List.length_replicate,
      Binary64.Decimal.point] at *
    omega
  near := by simp

/-- In either case a sign stands in front of the exponent. -/
theorem exponentChars_point (point : Int) :
    (if 0 < point then ['e', '+'] else ['e']) ++ Number.decimalChars (point - 1) =
      exponentChars (some (point - 1)) := by
  -- Zero or more has a plus sign written in front of it, less than zero brings its own sign.
  obtain ⟨n, same⟩ | ⟨n, same⟩ : (∃ n : Nat, point - 1 = Int.ofNat n) ∨
      ∃ n : Nat, point - 1 = Int.negSucc n := by
    cases point - 1 with
    | ofNat n => exact .inl ⟨n, rfl⟩
    | negSucc n => exact .inr ⟨n, rfl⟩
  · have up : 0 < point := by
      simp only [Int.ofNat_eq_natCast] at same
      omega
    rw [if_pos up, same]
    rfl
  · have down : ¬0 < point := by
      have sign := Int.negSucc_lt_zero n
      omega
    rw [if_neg down, same]
    rfl

/-- The fraction behind a single digit, if there are more. -/
def tail? (digits : List Char) : Option (List Char) :=
  if digits.length = 1 then none else some (digits.drop 1)

/-- Any other number has one digit in front of the point, and an exponent. -/
theorem spelled_scientific (nonzero : decimal.digits ≠ 0)
    (other : 16 < decimal.point ∨ decimal.point ≤ -5)
    (near : (decimal.point - 1).natAbs < twoTo 31) :
    Spelled decimal ((Nat.toDigits 10 decimal.digits).take 1)
      (tail? (Nat.toDigits 10 decimal.digits)) (some (decimal.point - 1)) := by
  have long := Nat.length_toDigits_pos (b := 10) (n := decimal.digits)
  have written : decimal.written = decimal := by
    apply written_of_not
    rintro ⟨integer, short⟩
    simp only [Binary64.Decimal.point] at *
    omega
  -- The first digit and the fraction are all digits, whether there is a fraction or not.
  have whole : (Nat.toDigits 10 decimal.digits).take 1 ++
      (tail? (Nat.toDigits 10 decimal.digits)).getD [] = Nat.toDigits 10 decimal.digits := by
    unfold tail?
    split
    next single => simp [List.take_of_length_le single.le]
    next => exact List.take_append_drop 1 _
  have behind : (((tail? (Nat.toDigits 10 decimal.digits)).getD []).length : Int) =
      (Nat.toDigits 10 decimal.digits).length - 1 := by
    unfold tail?
    split
    next single => simp [single]
    next =>
      simp only [Option.getD_some, List.length_drop]
      omega
  constructor
  · have first : ¬(0 ≤ decimal.exponent ∧ decimal.point ≤ 16) := by
      simp only [Binary64.Decimal.point] at *
      omega
    rw [decimalLayout_eq nonzero]
    simp only [if_neg first, if_neg (show ¬(0 < decimal.point ∧ decimal.point ≤ 16) by omega),
      if_neg (show ¬(-5 < decimal.point ∧ decimal.point ≤ 0) by omega), List.append_assoc,
      ← exponentChars_point]
    congr 2
    unfold tail?
    split <;> rfl
  · refine ⟨fun c member => isDigit_toDigits _ c (List.mem_of_mem_take member), fun empty => ?_⟩
    have length := congrArg List.length empty
    simp only [List.length_take, List.length_nil] at length
    omega
  · rw [List.head?_take, if_neg (by decide)]
    exact fun zero => head_toDigits nonzero zero.2
  · unfold tail?
    split
    next => simp
    next more =>
      rintro digits ⟨⟩
      refine ⟨fun c member => isDigit_toDigits _ c (List.mem_of_mem_drop member), fun empty => ?_⟩
      have length := congrArg List.length empty
      simp only [List.length_drop, List.length_nil] at length
      omega
  · simp
  · rw [whole, written, Nat.ofDigitChars_ten_toDigits]
  · rw [written, behind]
    simp only [Option.getD_some, Binary64.Decimal.point]
    omega
  · rintro power ⟨⟩
    exact near

theorem exists_spelled (nonzero : decimal.digits ≠ 0)
    (near : (decimal.point - 1).natAbs < twoTo 31) :
    ∃ whole fraction exponent, Spelled decimal whole fraction exponent := by
  -- The cases are those of the layout.
  by_cases integer : 0 ≤ decimal.exponent
  · by_cases short : decimal.point ≤ 16
    · exact ⟨_, _, _, spelled_integer nonzero integer short⟩
    · exact ⟨_, _, _, spelled_scientific nonzero (.inl (not_le.mp short)) near⟩
  · have fraction := not_le.mp integer
    by_cases above : 0 < decimal.point
    · by_cases short : decimal.point ≤ 16
      · exact ⟨_, _, _, spelled_pointed nonzero fraction above short⟩
      · exact ⟨_, _, _, spelled_scientific nonzero (.inl (not_le.mp short)) near⟩
    · by_cases low : -5 < decimal.point
      · exact ⟨_, _, _, spelled_small nonzero fraction low (not_lt.mp above)⟩
      · exact ⟨_, _, _, spelled_scientific nonzero (.inr (not_lt.mp low)) near⟩

theorem spelled_zero : Spelled ⟨0, 0⟩ ['0'] (some ['0']) none where
  layout := rfl
  front := digits_zero
  leads := by decide
  behind := by
    rintro digits ⟨⟩
    exact digits_zero
  given := by decide
  digits := rfl
  places := rfl
  near := by simp

variable {whole : List Char} {fraction : Option (List Char)} {exponent : Option Int}

theorem Spelled.unsigned? (spelled : Spelled decimal whole fraction exponent)
    (fits : decimal.written.digits < twoTo 64) (negative : Bool) {rest : List Char}
    (ends : Ends rest) :
    unsigned? negative (decimalLayout decimal ++ rest) =
      some (float negative decimal.written.digits decimal.written.exponent, rest) := by
  obtain ⟨layout, front, leads, behind, given, digits, places, near⟩ := spelled
  rw [← digits] at fits
  rw [layout, List.append_assoc, List.append_assoc,
    unsigned?_parts negative exponent front leads behind ends,
    number_parts negative whole fraction exponent given fits near, digits, places]

theorem Spelled.head (spelled : Spelled decimal whole fraction exponent) :
    ∃ c more, decimalLayout decimal = c :: more ∧ c.isDigit = true := by
  obtain ⟨c, more, split⟩ := List.exists_cons_of_ne_nil spelled.front.nonempty
  refine ⟨c, more ++ (fractionChars fraction ++ exponentChars exponent), ?_, ?_⟩
  · rw [spelled.layout, split, List.cons_append]
  · exact spelled.front.decimal c (by simp [split])

end

/-! ### Floating-point numbers -/

section

variable {x : Binary64}

/-- An infinity or a NaN is written as null. -/
theorem readsAs_notFinite (infinite : x.isFinite = false) : ReadsAs (.float x) .null := by
  have chars : compactChars (.float x) = compactChars .null := by
    simp [compactChars, floatChars, infinite]
  constructor
  · rw [chars]
    exact readsAs_null.starts
  · rw [chars]
    exact readsAs_null.reads

/-- A finite number comes back as what the reader makes of its shortest decimal. -/
theorem Spelled.readsAs_float {whole : List Char} {fraction : Option (List Char)}
    {exponent : Option Int} (finite : x.isFinite = true)
    (spelled : Spelled x.shortest whole fraction exponent)
    (fits : x.shortest.written.digits < twoTo 64) :
    ReadsAs (.float x)
      (float x.isNegative x.shortest.written.digits x.shortest.written.exponent) := by
  obtain ⟨c, more, split, digit⟩ := spelled.head
  -- The sign decides whether the reader begins at a digit or at a minus sign.
  cases sign : x.isNegative
  · have chars : compactChars (.float x) = decimalLayout x.shortest := by
      simp [compactChars, floatChars, finite, sign]
    constructor
    · intro rest
      rw [chars, split, List.cons_append]
      exact skipBlanks_digit digit _
    · intro fuel rest enough ends
      rw [chars] at enough ⊢
      cases fuel with
      | zero => simp [split] at enough
      | succ fuel =>
        rw [← spelled.unsigned? fits false ends, split, List.cons_append, value?_digit digit]
  · have chars : compactChars (.float x) = '-' :: decimalLayout x.shortest := by
      simp [compactChars, floatChars, finite, sign]
    constructor
    · intro rest
      rw [chars]
      rfl
    · intro fuel rest enough ends
      rw [chars] at enough ⊢
      cases fuel with
      | zero => cases enough
      | succ fuel =>
        rw [List.cons_append, value?_minus, spelled.unsigned? fits true ends]

end

end Json

namespace Binary64

theorem Decimal.length_le {decimal : Decimal} (short : decimal.digits ≤ 10 ^ 17) :
    (Nat.toDigits 10 decimal.digits).length ≤ 18 := by
  rw [Nat.length_toDigits_le_iff (by decide) (by decide)]
  omega

/-- Writing an integer out does not take its digits beyond the bound. -/
theorem Decimal.written_fits {decimal : Decimal} (short : decimal.digits ≤ 10 ^ 17) :
    decimal.written.digits ≤ 10 ^ 17 := by
  unfold Decimal.written
  split
  next integer =>
    obtain ⟨n, whole⟩ := Int.eq_ofNat_of_zero_le integer.1
    have point := integer.2
    have some := Nat.length_toDigits_pos (b := 10) (n := decimal.digits)
    simp only [Decimal.point, whole] at point ⊢
    -- There are as many digits as the point leaves room for.
    have below : decimal.digits < 10 ^ (16 - n) :=
      (Nat.length_toDigits_le_iff (by decide) (by omega)).mp (by omega)
    have split : 16 - n + n = 16 := by omega
    calc decimal.digits * tenTo (n + 1) ≤ 10 ^ (16 - n) * tenTo (n + 1) :=
        Nat.mul_le_mul_right _ below.le
      _ = 10 ^ (16 - n + n) * 10 := by
        rw [tenTo_eq]
        ring
      _ = 10 ^ 17 := by rw [split, ← Nat.pow_succ]
  next => exact short

theorem shortest_of_zero {x : Binary64} (zero : x.significand = 0) : x.shortest = ⟨0, 0⟩ := by
  rw [shortest, if_pos zero]

end Binary64

/-- A finite number is read as its shortest decimal is: the digits, times the power of ten. -/
theorem Json.readsAs_finite {x : Binary64} (finite : x.isFinite = true) :
    Json.ReadsAs (.float x)
      (Json.float x.isNegative x.shortest.written.digits x.shortest.written.exponent) := by
  by_cases zero : x.significand = 0
  · have spelled := Json.spelled_zero
    rw [← Binary64.shortest_of_zero zero] at spelled
    refine spelled.readsAs_float finite ?_
    rw [Binary64.shortest_of_zero zero]
    decide
  · obtain ⟨place, spells⟩ := Binary64.exists_spells finite zero
    have digits := spells.digits_pos zero
    have high := spells.place_le finite zero
    have low := spells.low
    have exponent := spells.exponent
    have length := Binary64.Decimal.length_le spells.short
    -- Exponents are far from the limit at which the reader gives up.
    have near : (x.shortest.point - 1).natAbs < twoTo 31 := by
      have wide : 1000 < twoTo 31 := by decide
      simp only [Binary64.Decimal.point]
      omega
    obtain ⟨whole, fraction, power, spelled⟩ := Json.exists_spelled digits.ne' near
    refine spelled.readsAs_float finite ?_
    have room : 10 ^ 17 < twoTo 64 := by decide
    exact lt_of_le_of_lt (Binary64.Decimal.written_fits spells.short) room

end VendorSql
