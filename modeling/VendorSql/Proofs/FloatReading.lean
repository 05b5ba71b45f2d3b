import VendorSql.Proofs.FloatNotation
import Mathlib.Tactic.IntervalCases

/-!
# How far a floating-point number is off when it is read back

A number is read in two or three roundings: of its digits, of the power of ten, and of their product
or quotient, which is taken in two steps for the very smallest. Each rounding is off by a part in
`2 ^ 53` or half of the smallest step, and together they are off by a few such parts. Nothing is
rounded before the last step if the digits fit fifty-three bits and the power of ten is at most the
twenty-second; then the last step rounds the decimal itself, and that gives the number again.
-/
namespace VendorSql.Binary64

open Number (tenTo twoTo)

/-! ### Errors -/

theorem smallestStep_pos : 0 < smallestStep := by
  have positive : (0 : ℚ) < twoTo 1074 := by exact_mod_cast twoTo_pos 1074
  exact one_div_pos.mpr positive

theorem smallestStep_le : smallestStep ≤ 1 / 2 ^ 100 := by
  have large : ((2 ^ 100 : Nat) : ℚ) ≤ twoTo 1074 := by
    exact_mod_cast (by decide +kernel : 2 ^ 100 ≤ twoTo 1074)
  rw [smallestStep]
  push_cast at large
  exact one_div_le_one_div_of_le (by positivity) large

/-- A finite number near a value: off by so many parts in `2 ^ 53` of the value and so many of the
smallest steps, at most. -/
structure Near (x : Binary64) (value parts steps : ℚ) : Prop where
  finite : x.isFinite = true
  near : |x.magnitude - value| ≤ parts * (1 / 2 ^ 53 * value) + steps * smallestStep

section

variable {numerator denominator : Nat}

/-- One rounding misses a ratio by one part and half a step at most. -/
theorem near_ofRatio (negative : Bool) (positive : 0 < denominator)
    (small : numerator < overflow * denominator) :
    Near (ofRatio negative numerator denominator) ((numerator : ℚ) / denominator) 1 (1 / 2) := by
  obtain ⟨significand, scale, rounded⟩ := exists_rounded negative positive small
  refine ⟨rounded.parts.isFinite rounded.bits, (rounded.near positive).trans ?_⟩
  have step := smallestStep_pos
  have value : (0 : ℚ) ≤ (numerator : ℚ) / denominator := by positivity
  apply max_le <;> linarith

theorem isNegative_ofRatio (negative : Bool) (positive : 0 < denominator)
    (small : numerator < overflow * denominator) :
    (ofRatio negative numerator denominator).isNegative = negative := by
  obtain ⟨significand, scale, rounded⟩ := exists_rounded negative positive small
  exact rounded.parts.isNegative rounded.bits

end

/-- An integer is so far above the smallest step that rounding it misses parts of its value only. -/
theorem near_ofNat {n : Nat} (small : n < overflow) : Near (ofNat n) n 1 0 := by
  obtain ⟨significand, scale, rounded⟩ :=
    exists_rounded false Nat.one_pos (show n < overflow * 1 by omega)
  refine ⟨rounded.parts.isFinite rounded.bits, ?_⟩
  have near := rounded.near Nat.one_pos
  rw [Nat.cast_one, div_one] at near
  have step := smallestStep_le
  change |(ofRatio false n 1).magnitude - n| ≤ _
  rcases Nat.eq_zero_or_pos n with rfl | some
  · have zero : (ofNat 0).units = 0 := by decide +kernel
    have none : (ofRatio false 0 1).magnitude = 0 := by
      rw [magnitude, show ofRatio false 0 1 = ofNat 0 from rfl, zero, Nat.cast_zero, zero_mul]
    simp [none]
  · -- Half of the smallest step is less than such a part of an integer.
    have one : (1 : ℚ) ≤ n := by exact_mod_cast some
    refine near.trans (max_le ?_ ?_)
    · apply le_of_eq
      ring
    · have least : (1 : ℚ) / 2 ^ 100 / 2 ≤ 1 / 2 ^ 53 := by norm_num
      calc smallestStep / 2 ≤ 1 / 2 ^ 53 := by linarith
        _ ≤ 1 * (1 / 2 ^ 53 * n) + 0 * smallestStep := by linarith

/-- How the errors of two numbers add up in their quotient. -/
theorem quotient_error {u t T a P parts rest : ℚ} (small : u ≤ 1 / 1000) (tiny : 0 ≤ u)
    (value : 0 ≤ t) (power : 1 ≤ T) (slack : 0 ≤ rest)
    (left : |a - t| ≤ parts * (u * t) + rest) (right : |P - T| ≤ u * T) :
    |a / P - t / T| ≤ 1002 / 1000 * ((parts + 1) * (u * (t / T)) + rest) := by
  have near := abs_le.mp right
  have most : u * T ≤ 1 / 1000 * T := by gcongr
  have above : 0 < T := by linarith
  have positive : 0 < P := by linarith
  have least : T ≤ 1002 / 1000 * P := by linarith
  -- The error of the dividend, and that of the divisor.
  have split : a / P - t / T = (a - t) / P + t * (T - P) / (P * T) := by
    field_simp
    ring
  have first : |(a - t) / P| ≤ (parts * (u * t) + rest) / P := by
    rw [abs_div, abs_of_pos positive]
    gcongr
  have second : |t * (T - P) / (P * T)| ≤ u * t / P := by
    rw [abs_div, abs_mul, abs_of_nonneg value, abs_sub_comm, abs_of_pos (mul_pos positive above),
      div_le_div_iff₀ (mul_pos positive above) positive]
    calc t * |P - T| * P ≤ t * (u * T) * P := by gcongr
      _ = u * t * (P * T) := by ring
  have whole : 0 ≤ parts * (u * t) + rest + u * t := by
    have least := (abs_nonneg _).trans left
    have part := mul_nonneg tiny value
    linarith
  rw [split]
  calc |(a - t) / P + t * (T - P) / (P * T)| ≤ |(a - t) / P| + |t * (T - P) / (P * T)| :=
        abs_add_le _ _
    _ ≤ (parts * (u * t) + rest) / P + u * t / P := add_le_add first second
    _ = (parts * (u * t) + rest + u * t) / P := by ring
    _ ≤ 1002 / 1000 * ((parts * (u * t) + rest + u * t) / T) := by
      rw [← mul_div_assoc, div_le_div_iff₀ positive above]
      calc (parts * (u * t) + rest + u * t) * T ≤
          (parts * (u * t) + rest + u * t) * (1002 / 1000 * P) := by gcongr
        _ = 1002 / 1000 * (parts * (u * t) + rest + u * t) * P := by ring
    _ = 1002 / 1000 * ((parts + 1) * (u * (t / T)) + rest / T) := by ring
    _ ≤ 1002 / 1000 * ((parts + 1) * (u * (t / T)) + rest) := by
      gcongr
      exact div_le_self slack power

/-- The errors of two factors, each rounded once, add up. -/
theorem product_error {u t T a P : ℚ} (small : u ≤ 1 / 1000) (tiny : 0 ≤ u) (value : 0 ≤ t)
    (power : 0 ≤ T) (left : |a - t| ≤ u * t) (right : |P - T| ≤ u * T) :
    |a * P - t * T| ≤ 2001 / 1000 * (u * (t * T)) := by
  have near := abs_le.mp right
  have most : u * T ≤ 1 / 1000 * T := by gcongr
  have positive : 0 ≤ P := by linarith
  have split : a * P - t * T = (a - t) * P + t * (P - T) := by ring
  rw [split]
  calc |(a - t) * P + t * (P - T)| ≤ |(a - t) * P| + |t * (P - T)| := abs_add_le _ _
    _ = |a - t| * P + t * |P - T| := by
      rw [abs_mul, abs_mul, abs_of_nonneg positive, abs_of_nonneg value]
    _ ≤ u * t * (1001 / 1000 * T) + t * (u * T) := by
      gcongr
      linarith
    _ = 2001 / 1000 * (u * (t * T)) := by ring

/-- One more rounding adds a part and half a step, and a little for what it makes of the earlier
error. -/
theorem rounding_error {u σ t q z parts rest : ℚ} (small : u ≤ 1 / 1000) (tiny : 0 ≤ u)
    (step : 0 ≤ σ) (value : 0 ≤ t) (few : 0 ≤ parts ∧ parts ≤ 6) (slack : 0 ≤ rest ∧ rest ≤ 2)
    (computed : |q - t| ≤ parts * (u * t) + rest * σ)
    (rounded : |z - q| ≤ 1 * (u * q) + 1 / 2 * σ) :
    |z - t| ≤ (parts + 101 / 100) * (u * t) + (rest + 51 / 100) * σ := by
  have part := mul_nonneg tiny value
  have first : parts * (u * t) ≤ 6 * (u * t) := mul_le_mul_of_nonneg_right few.2 part
  have second : rest * σ ≤ 2 * σ := mul_le_mul_of_nonneg_right slack.2 step
  have off := abs_le.mp computed
  -- The rounding is relative to the computed value, which is near the true one.
  have again : u * q ≤ u * t + 1 / 1000 * (6 * (u * t) + 2 * σ) := by
    calc u * q ≤ u * (t + (6 * (u * t) + 2 * σ)) := by
          gcongr
          linarith
      _ = u * t + u * (6 * (u * t) + 2 * σ) := by ring
      _ ≤ u * t + 1 / 1000 * (6 * (u * t) + 2 * σ) := by gcongr
  calc |z - t| ≤ |z - q| + |q - t| := abs_sub_le z q t
    _ ≤ (1 * (u * q) + 1 / 2 * σ) + (parts * (u * t) + rest * σ) := add_le_add rounded computed
    _ ≤ (parts + 101 / 100) * (u * t) + (rest + 51 / 100) * σ := by linarith

/-! ### One operation -/

theorem overflow_large : (2 ^ 100 : ℚ) ≤ overflow := by
  have large : 2 ^ 100 ≤ overflow := by decide +kernel
  generalize overflow = limit at large
  exact_mod_cast large

theorem units_div (x y : Binary64) : (x.units : ℚ) / y.units = x.magnitude / y.magnitude := by
  rw [magnitude, magnitude, mul_div_mul_right _ _ smallestStep_pos.ne']

theorem units_pos {x : Binary64} (positive : 0 < x.magnitude) : 0 < x.units := by
  by_contra none
  rw [magnitude, Nat.eq_zero_of_not_pos none, Nat.cast_zero, zero_mul] at positive
  exact positive.false

section

variable {x y : Binary64} {value power parts steps : ℚ}

theorem Near.pos (near : Near y power 1 0) (one : 1 ≤ power) : 9 / 10 ≤ y.magnitude := by
  have off := abs_le.mp near.near
  have part : 1 / 2 ^ 53 * power ≤ 1 / 1000 * power := by
    gcongr
    norm_num
  linarith

theorem lt_of_magnitude_lt (less : x.magnitude < overflow * y.magnitude) :
    x.units < overflow * y.units := by
  rw [magnitude, magnitude, ← mul_assoc, mul_lt_mul_iff_left₀ smallestStep_pos] at less
  exact_mod_cast less

/-- The quotient of two numbers that are near is near, and does not overflow. -/
theorem Near.dividedBy (left : Near x value parts steps) (right : Near y power 1 0)
    (positive : 0 ≤ value) (small : value ≤ 10 ^ 20) (one : 1 ≤ power)
    (few : 0 ≤ parts ∧ parts ≤ 4) (slack : 0 ≤ steps ∧ steps ≤ 1) (negative : Bool) :
    0 < y.units ∧ x.units < overflow * y.units ∧
      Near (ofRatio negative x.units y.units) (value / power)
        (1002 / 1000 * (parts + 1) + 101 / 100) (1002 / 1000 * steps + 51 / 100) := by
  have divisor := right.pos one
  have step := smallestStep_pos
  have tiny := smallestStep_le
  have units : 0 < y.units := units_pos (by linarith)
  have unit : (0 : ℚ) ≤ 1 / 2 ^ 53 := by positivity
  have least : (1 : ℚ) / 2 ^ 53 ≤ 1 / 1000 := by norm_num
  have room : x.units < overflow * y.units := by
    apply lt_of_magnitude_lt
    -- The limit is kept out of sight, since arithmetic tactics would compute it.
    have large := overflow_large
    generalize overflow = limit at large ⊢
    have off := (abs_le.mp left.near).2
    have first : parts * (1 / 2 ^ 53 * value) ≤ 4 * (1 / 1000 * 10 ^ 20) := by
      gcongr
      exact few.2
    have second : steps * smallestStep ≤ 1 * (1 / 2 ^ 100) := by
      gcongr
      exact slack.2
    calc x.magnitude ≤ value + (parts * (1 / 2 ^ 53 * value) + steps * smallestStep) := by linarith
      _ < 2 ^ 100 * (9 / 10) := by
        norm_num at first second small ⊢
        linarith
      _ ≤ limit * y.magnitude := by gcongr
  obtain ⟨finite, near⟩ := near_ofRatio negative units room
  have computed := quotient_error least unit positive one (mul_nonneg slack.1 step.le) left.near
    (by simpa using right.near)
  refine ⟨units, room, finite, ?_⟩
  rw [units_div] at near
  -- The errors of dividend and power are in the quotient; this rounding comes on top.
  apply rounding_error least unit step.le (by positivity) ?_ ?_ ?_ near
  · constructor <;> linarith
  · constructor <;> linarith
  · refine computed.trans (le_of_eq ?_)
    ring

/-- The product of two numbers that are near is near, if there is room for it. -/
theorem Near.times (left : Near x value 1 0) (right : Near y power 1 0) (positive : 0 ≤ value)
    (one : 0 ≤ power) (room : x.units * y.units < overflow * twoTo 2148) (negative : Bool) :
    Near (ofRatio negative (x.units * y.units) (twoTo 2148)) (value * power) (312 / 100)
      (51 / 100) := by
  have step := smallestStep_pos
  have unit : (0 : ℚ) ≤ 1 / 2 ^ 53 := by positivity
  have least : (1 : ℚ) / 2 ^ 53 ≤ 1 / 1000 := by norm_num
  obtain ⟨finite, near⟩ := near_ofRatio negative (twoTo_pos 2148) room
  -- Two numbers of steps make a product in steps of the square, hence the power of two below.
  have product : ((x.units * y.units : Nat) : ℚ) / (twoTo 2148 : Nat) =
      x.magnitude * y.magnitude := by
    have square : twoTo 2148 = twoTo 1074 * twoTo 1074 := twoTo_add 1074 1074
    rw [magnitude, magnitude, smallestStep, square]
    push_cast
    ring
  have computed := product_error least unit positive one (by simpa using left.near)
    (by simpa using right.near)
  rw [product] at near
  refine ⟨finite, ?_⟩
  have part := mul_nonneg unit (mul_nonneg positive one)
  -- Two errors of one part each, and a little, before the product itself is rounded.
  have error := rounding_error least unit step.le (mul_nonneg positive one)
    (show (0 : ℚ) ≤ 211 / 100 ∧ (211 / 100 : ℚ) ≤ 6 by norm_num)
    (show (0 : ℚ) ≤ 0 ∧ (0 : ℚ) ≤ 2 by norm_num) (by linarith) near
  linarith

end

/-! ### Integers without an error -/

theorem exists_held {n left lift scale : Nat} (small : n ≤ 2 ^ 53)
    (above : scale = 0 ∨ 2 ^ 52 * (1 * 2 ^ scale) ≤ n * 2 ^ left * twoTo lift) :
    ∃ held, held * (1 * 2 ^ scale) = n * 2 ^ left * twoTo lift := by
  have joined : n * 2 ^ left * twoTo lift = n * 2 ^ (left + lift) := by
    rw [twoTo_eq]
    ring
  rw [joined] at above ⊢
  -- A grid finer than the number needs holds it; a coarser one would be of a higher binade.
  rcases Nat.le_total scale (left + lift) with within | beyond
  · refine ⟨n * 2 ^ (left + lift - scale), ?_⟩
    rw [Nat.one_mul, Nat.mul_assoc, ← Nat.pow_add, Nat.sub_add_cancel within]
  · obtain ⟨more, rfl⟩ := Nat.exists_eq_add_of_le beyond
    rcases above with lowest | above
    · obtain ⟨none, rfl⟩ : left + lift = 0 ∧ more = 0 := by omega
      exact ⟨n, by simp [none]⟩
    · -- Only the power of two above all significands has a binade this high, and it is even.
      have double : 2 ^ 52 * 2 ^ more * 2 ^ (left + lift) ≤ n * 2 ^ (left + lift) := by
        calc 2 ^ 52 * 2 ^ more * 2 ^ (left + lift) = 2 ^ 52 * (1 * 2 ^ (left + lift + more)) := by
              ring
          _ ≤ n * 2 ^ (left + lift) := above
      have bound := (Nat.le_of_mul_le_mul_right double (Nat.two_pow_pos _)).trans small
      have one : more ≤ 1 := by
        by_contra big
        have four := Nat.pow_le_pow_right (show 0 < 2 by decide) (Nat.lt_of_not_le big)
        omega
      interval_cases more
      · exact ⟨n, by simp⟩
      · have least := Nat.le_of_mul_le_mul_right double (Nat.two_pow_pos _)
        obtain rfl : n = 2 ^ 53 := by omega
        exact ⟨2 ^ 52, by ring⟩

theorem ofNat_units {n left : Nat} (small : n ≤ 2 ^ 53) (fits : n * 2 ^ left < overflow) :
    (ofNat (n * 2 ^ left)).units = n * 2 ^ left * twoTo 1074 := by
  obtain ⟨significand, scale, rounded⟩ := exists_rounded false Nat.one_pos
    (show n * 2 ^ left < overflow * 1 by omega)
  obtain ⟨held, same⟩ := exists_held small rounded.grid.above
  have exact := rounded.exact Nat.one_pos same
  rw [exact] at rounded
  rw [Nat.one_mul] at same
  rw [ofNat, rounded.parts.units rounded.bits]
  exact same

theorem ofNat_units_le {n greater : Nat} (ordered : n ≤ greater) (small : greater < overflow) :
    (ofNat n).units ≤ (ofNat greater).units := by
  obtain ⟨significand, scale, first⟩ := exists_rounded false Nat.one_pos
    (show n < overflow * 1 by omega)
  obtain ⟨above, higher, second⟩ := exists_rounded false Nat.one_pos
    (show greater < overflow * 1 by omega)
  have less := first.units_le second Nat.one_pos ordered
  rw [ofNat, ofNat, first.parts.units first.bits, second.parts.units second.bits]
  exact less

/-! ### No overflow -/

/-- There is room for a product if there is for a greater one. -/
theorem times_room {digits most places power : Nat} (fewer : digits ≤ most)
    (lower : places ≤ power) (fits : most < overflow) (within : tenTo power < overflow)
    (room : (ofNat most).units * (ofNat (tenTo power)).units < overflow * twoTo 2148) :
    (ofNat digits).units * (ofNat (tenTo places)).units < overflow * twoTo 2148 :=
  lt_of_le_of_lt
    (Nat.mul_le_mul (ofNat_units_le fewer fits) (ofNat_units_le (tenTo_le lower) within)) room

/-- The greatest value that rounds to a number below the greatest one, as an integer. -/
def secondGreatest : Nat := (2 ^ 54 - 3) * twoTo 970

theorem times_room_of_le {digits places : Nat} (short : digits ≤ 10 ^ 17) (high : places ≤ 308)
    (below : digits * tenTo places ≤ secondGreatest) :
    (ofNat digits).units * (ofNat (tenTo places)).units < overflow * twoTo 2148 := by
  by_cases small : places ≤ 291
  · refine times_room short small ?_ ?_ ?_ <;> decide +kernel
  · -- The greater the power, the fewer digits there can be: one product for each power.
    have table : ∀ more < 17, secondGreatest / tenTo (292 + more) < overflow ∧
        tenTo (292 + more) < overflow ∧
        (ofNat (secondGreatest / tenTo (292 + more))).units *
          (ofNat (tenTo (292 + more))).units < overflow * twoTo 2148 := by decide +kernel
    obtain ⟨more, rfl⟩ := Nat.exists_eq_add_of_le (Nat.lt_of_not_le small)
    obtain ⟨fits, within, room⟩ := table more (by omega)
    exact times_room ((Nat.le_div_iff_mul_le (tenTo_pos _)).mpr below) le_rfl fits within room

/-- Only the interval of the greatest number reaches beyond `secondGreatest`. -/
theorem high_le {x : Binary64} (finite : x.isFinite = true)
    (lesser : ¬(x.significand = 2 ^ 53 - 1 ∧ x.scale = 2045)) :
    x.interval.high ≤ secondGreatest * x.interval.unit := by
  have small := x.significand_lt
  have scale := scale_le finite
  -- The bound is half a step above the second greatest number, in units of the interval.
  have lifted : twoTo 970 * twoTo 1076 = 2 * twoTo 2045 := by decide +kernel
  have bits : (2 ^ 54 - 3) * 2 = 2 ^ 55 - 6 := by decide
  have limit : secondGreatest * twoTo 1076 = (2 ^ 55 - 6) * twoTo 2045 := by
    rw [secondGreatest, Nat.mul_assoc, lifted, ← Nat.mul_assoc, bits]
  rw [interval_high, interval_unit, limit]
  -- In a lower binade the step is half as long at most; in the highest the significand is less.
  rcases Nat.lt_or_ge x.scale 2045 with lower | top
  · have half := twoTo_le (Nat.le_of_lt_succ lower)
    have double : twoTo 2045 = twoTo 2044 * 2 := Number.twoTo_succ 2044
    rw [double]
    calc (4 * x.significand + 2) * twoTo x.scale ≤ (4 * x.significand + 2) * twoTo 2044 :=
        Nat.mul_le_mul_left _ half
      _ ≤ (2 ^ 55 - 6) * 2 * twoTo 2044 := Nat.mul_le_mul_right _ (by omega)
      _ = (2 ^ 55 - 6) * (twoTo 2044 * 2) := by ring
  · have same : x.scale = 2045 := Nat.le_antisymm scale top
    have less : x.significand ≠ 2 ^ 53 - 1 := fun greatest => lesser ⟨greatest, same⟩
    rw [same]
    exact Nat.mul_le_mul_right _ (by omega)

theorem shortest_of_greatest {x : Binary64}
    (greatest : x.significand = 2 ^ 53 - 1 ∧ x.scale = 2045) :
    x.shortest = ⟨17976931348623157, 292⟩ := by
  have bits := x.bits_eq
  rw [greatest.1, greatest.2] at bits
  -- The parts leave one number for each sign, and of these the decimal can be worked out.
  cases sign : x.isNegative
  · have same : x = ⟨0x7fefffffffffffff⟩ := by
      obtain ⟨word⟩ := x
      rw [sign] at bits
      exact congrArg mk (UInt64.toNat_inj.mp bits)
    rw [same]
    decide +kernel
  · have same : x = ⟨0xffefffffffffffff⟩ := by
      obtain ⟨word⟩ := x
      rw [sign] at bits
      exact congrArg mk (UInt64.toNat_inj.mp bits)
    rw [same]
    decide +kernel

/-- No shortest decimal is so large that scaling its digits would overflow. -/
theorem Spells.room {x : Binary64} {place places : Nat} (spells : x.Spells x.shortest place)
    (finite : x.isFinite = true) (nonzero : x.significand ≠ 0)
    (exponent : x.shortest.exponent = places) :
    (ofNat x.shortest.digits).units * (ofNat (tenTo places)).units < overflow * twoTo 2148 := by
  -- Only the decimal of the greatest number is too close to the limit for an estimate.
  by_cases greatest : x.significand = 2 ^ 53 - 1 ∧ x.scale = 2045
  · have shortest := shortest_of_greatest greatest
    rw [shortest] at exponent ⊢
    obtain rfl : places = 292 := by
      simp only at exponent
      omega
    decide +kernel
  · have place : place = places + 400 := by
      have raised := spells.exponent
      omega
    have high := spells.place_le finite nonzero
    apply times_room_of_le spells.short (by omega)
    have inside := spells.inside.high
    rw [place, tenTo_add] at inside
    have below : x.shortest.digits * tenTo places * x.interval.unit * tenTo 400 ≤
        x.interval.high * tenTo 400 := by
      calc x.shortest.digits * tenTo places * x.interval.unit * tenTo 400 =
          x.shortest.digits * (tenTo places * tenTo 400) * x.interval.unit := by ring
        _ ≤ x.interval.high * tenTo 400 := inside
    have least := (Nat.le_of_mul_le_mul_right below (tenTo_pos 400)).trans
      (high_le finite greatest)
    have unit : 0 < x.interval.unit := by
      rw [interval_unit]
      exact twoTo_pos _
    exact Nat.le_of_mul_le_mul_right least unit

/-! ### The last step of reading -/

section

variable {digits places : Nat}

theorem float_eq {exponent : Int} {numerator denominator : Nat} (negative : Bool)
    (magnitude : (match exponent with
      | .ofNat places => Json.timesTens (.ofNat digits) places
      | .negSucc places => some (Json.dividedByTens (.ofNat digits) (places + 1))) =
        some (ofRatio false numerator denominator)) :
    Json.float negative digits exponent = .float (ofRatio negative numerator denominator) := by
  have signed : Json.float negative digits exponent = .float (if negative then
      (ofRatio false numerator denominator).negate else ofRatio false numerator denominator) := by
    -- Zeros behind the digits ask for a product, places for a quotient.
    cases exponent with
    | ofNat places =>
      simp only at magnitude
      simp only [Json.float, magnitude]
    | negSucc places => simp only [Json.float, Option.some.inj magnitude]
  rw [signed]
  cases negative
  · rfl
  · rw [if_pos rfl, negate_ofRatio]

theorem float_times (negative : Bool) (high : places ≤ 308)
    (room : (ofNat digits).units * (ofNat (tenTo places)).units < overflow * twoTo 2148) :
    Json.float negative digits places =
      .float (ofRatio negative ((ofNat digits).units * (ofNat (tenTo places)).units)
        (twoTo 2148)) := by
  apply float_eq
  have finite := (near_ofRatio false (twoTo_pos 2148) room).finite
  have product : (ofNat digits).times (ofNat (tenTo places)) =
      ofRatio false ((ofNat digits).units * (ofNat (tenTo places)).units) (twoTo 2148) := rfl
  simp only [Json.timesTens, if_pos high, product, finite, if_true]

theorem float_divided (negative : Bool) (within : places + 1 ≤ 308) :
    Json.float negative digits (.negSucc places) =
      .float (ofRatio negative (ofNat digits).units (ofNat (tenTo (places + 1))).units) := by
  apply float_eq
  simp only
  rw [Json.dividedByTens, if_pos within]
  rfl

theorem float_divided_twice (negative : Bool) (nonzero : (ofNat digits).significand ≠ 0)
    (beyond : 308 < places + 1) (within : places + 1 ≤ 616) :
    Json.float negative digits (.negSucc places) =
      .float (ofRatio negative ((ofNat digits).dividedBy (ofNat (tenTo 308))).units
        (ofNat (tenTo (places + 1 - 308))).units) := by
  apply float_eq
  simp only
  rw [Json.dividedByTens, if_neg (by omega), if_neg nonzero, Json.dividedByTens,
    if_pos (by omega)]
  rfl

def Decimal.value (decimal : Decimal) : ℚ := decimal.digits * 10 ^ decimal.exponent

theorem Near.mono {x : Binary64} {value parts steps more further : ℚ}
    (near : Near x value parts steps) (positive : 0 ≤ value) (wider : parts ≤ more)
    (longer : steps ≤ further) : Near x value more further := by
  refine ⟨near.finite, near.near.trans ?_⟩
  have step := smallestStep_pos
  gcongr

/-- A decimal is read as a finite number near it, if it is not too great for one. -/
structure ReadsNear (negative : Bool) (decimal : Decimal) (y : Binary64) : Prop where
  reads : Json.float negative decimal.digits decimal.exponent = .float y
  sign : y.isNegative = negative
  near : Near y decimal.value (51 / 10) (11 / 10)

theorem near_digits (short : digits ≤ 10 ^ 17) : Near (ofNat digits) digits 1 0 := by
  have room : 10 ^ 17 < overflow := by decide +kernel
  exact near_ofNat (lt_of_le_of_lt short room)

theorem size_le (short : digits ≤ 10 ^ 17) : (digits : ℚ) ≤ 10 ^ 20 := by
  have fewer : digits ≤ 10 ^ 20 := short.trans (by decide)
  exact_mod_cast fewer

theorem near_power (high : places ≤ 308) : Near (ofNat (tenTo places)) (10 ^ places) 1 0 := by
  have room : tenTo 308 < overflow := by decide +kernel
  have near := near_ofNat (lt_of_le_of_lt (tenTo_le high) room)
  rwa [tenTo_eq, Nat.cast_pow, Nat.cast_ofNat] at near

/-- A decimal with zeros behind it is read by one product. -/
theorem readsNear_times (negative : Bool) (short : digits ≤ 10 ^ 17) (high : places ≤ 308)
    (room : (ofNat digits).units * (ofNat (tenTo places)).units < overflow * twoTo 2148) :
    ∃ y, ReadsNear negative ⟨digits, places⟩ y := by
  have power : (0 : ℚ) ≤ 10 ^ places := pow_nonneg (by norm_num) _
  have near := (near_digits short).times (near_power high) (Nat.cast_nonneg _) power room negative
  have sign := isNegative_ofRatio negative (twoTo_pos 2148) room
  refine ⟨_, float_times negative high room, sign, ?_⟩
  have value : (⟨digits, places⟩ : Decimal).value = digits * 10 ^ places := by
    simp [Decimal.value]
  rw [value]
  exact near.mono (mul_nonneg (Nat.cast_nonneg _) power) (by norm_num) (by norm_num)

/-- A decimal with few places is read by one quotient. -/
theorem readsNear_divided (negative : Bool) (short : digits ≤ 10 ^ 17)
    (within : places + 1 ≤ 308) :
    ∃ y, ReadsNear negative ⟨digits, .negSucc places⟩ y := by
  obtain ⟨positive, room, near⟩ := (near_digits short).dividedBy (near_power within)
    (Nat.cast_nonneg _) (size_le short) (one_le_pow₀ (by norm_num)) (by norm_num) (by norm_num)
    negative
  refine ⟨_, float_divided negative within, isNegative_ofRatio negative positive room, ?_⟩
  have value : (⟨digits, .negSucc places⟩ : Decimal).value = digits / 10 ^ (places + 1) := by
    rw [Decimal.value, zpow_negSucc, div_eq_mul_inv]
  rw [value]
  exact near.mono (by positivity) (by norm_num) (by norm_num)

/-- A decimal with many places is read by two quotients, the first by the greatest power there is.
-/
theorem readsNear_divided_twice (negative : Bool) (short : digits ≤ 10 ^ 17)
    (nonzero : digits ≠ 0) (beyond : 308 < places + 1) (within : places + 1 ≤ 616) :
    ∃ y, ReadsNear negative ⟨digits, .negSucc places⟩ y := by
  have split : 308 + (places + 1 - 308) = places + 1 := by omega
  have given := near_digits short
  have significand : (ofNat digits).significand ≠ 0 := by
    intro none
    have some : (1 : ℚ) ≤ digits := by exact_mod_cast Nat.pos_of_ne_zero nonzero
    have off := given.pos some
    rw [magnitude, units, none, Nat.zero_mul, Nat.cast_zero, zero_mul] at off
    norm_num at off
  obtain ⟨-, -, first⟩ := given.dividedBy (near_power le_rfl) (Nat.cast_nonneg _)
    (size_le short) (one_le_pow₀ (by norm_num)) (by norm_num) (by norm_num) false
  -- The second division starts from the rounded quotient of the first.
  have quotient : (digits : ℚ) / 10 ^ 308 ≤ 10 ^ 20 :=
    (div_le_self (Nat.cast_nonneg _) (one_le_pow₀ (by norm_num))).trans (size_le short)
  obtain ⟨positive, room, near⟩ := first.dividedBy
    (near_power (show places + 1 - 308 ≤ 308 by omega)) (by positivity) quotient
    (one_le_pow₀ (by norm_num)) (by norm_num) (by norm_num) negative
  refine ⟨_, float_divided_twice negative significand beyond within,
    isNegative_ofRatio negative positive room, ?_⟩
  have value : (⟨digits, .negSucc places⟩ : Decimal).value =
      digits / 10 ^ 308 / 10 ^ (places + 1 - 308) := by
    rw [Decimal.value, zpow_negSucc, ← div_eq_mul_inv, div_div, ← pow_add, split]
  rw [value]
  exact near.mono (by positivity) (by norm_num) (by norm_num)

end

/-! ### Reading back -/

section

variable {x : Binary64}

theorem Decimal.value_written (decimal : Decimal) : decimal.written.value = decimal.value := by
  unfold written
  split
  next integer =>
    obtain ⟨n, whole⟩ := Int.eq_ofNat_of_zero_le integer.1
    simp only [value, whole, Int.toNat_natCast, tenTo_eq]
    rw [zpow_natCast, zpow_neg_one]
    push_cast
    field_simp
    ring
  next => rfl

theorem Spells.value {decimal : Decimal} {place : Nat} (spells : x.Spells decimal place) :
    ((decimal.digits * tenTo place : Nat) : ℚ) / (tenTo 400 : Nat) = decimal.value := by
  have ten : (10 : ℚ) ≠ 0 := by norm_num
  have raised : (400 : Int) = (400 : Nat) := rfl
  rw [Decimal.value, spells.exponent, zpow_sub₀ ten, raised, zpow_natCast, zpow_natCast, tenTo_eq,
    tenTo_eq, Nat.cast_mul, Nat.cast_pow, Nat.cast_pow, mul_div_assoc, Nat.cast_ofNat]

/-- The shortest decimal misses its number by one part of it or by half a step. -/
theorem near_shortest (finite : x.isFinite = true) (nonzero : x.significand ≠ 0) :
    |x.magnitude - x.shortest.value| ≤ max (x.shortest.value / 2 ^ 53) (smallestStep / 2) := by
  obtain ⟨place, spells⟩ := exists_spells finite nonzero
  have near := near_of_contains finite nonzero (tenTo_pos 400) spells.inside
  rwa [spells.value] at near

theorem value_of_zero (zero : x.significand = 0) : x.magnitude = 0 ∧ x.shortest.value = 0 := by
  constructor
  · rw [magnitude, units, zero, Nat.zero_mul, Nat.cast_zero, zero_mul]
  · rw [shortest_of_zero zero, Decimal.value, Nat.cast_zero, zero_mul]

/-- What is read lies near the number that was written: the errors of writing and of reading
together. -/
theorem ReadsNear.near_magnitude {y : Binary64}
    (reads : ReadsNear x.isNegative x.shortest.written y) (finite : x.isFinite = true) :
    |y.magnitude - x.magnitude| ≤ x.magnitude / 2 ^ 50 + 2 * smallestStep := by
  have near := reads.near.near
  have step := smallestStep_pos
  have positive : 0 ≤ x.shortest.value :=
    mul_nonneg (Nat.cast_nonneg _) (zpow_nonneg (by norm_num) _)
  rw [Decimal.value_written] at near
  -- Written first, then read: the two errors are added by way of the decimal.
  have spelled : |x.magnitude - x.shortest.value| ≤
      1 / 2 ^ 53 * x.shortest.value + smallestStep / 2 := by
    by_cases zero : x.significand = 0
    · obtain ⟨none, nothing⟩ := value_of_zero zero
      rw [none, nothing]
      norm_num
      linarith
    · refine (near_shortest finite zero).trans (max_le ?_ ?_)
      · linarith
      · linarith
  have least := (abs_le.mp spelled).1
  rw [abs_sub_comm] at spelled
  calc |y.magnitude - x.magnitude| ≤
      |y.magnitude - x.shortest.value| + |x.shortest.value - x.magnitude| := abs_sub_le _ _ _
    _ ≤ (51 / 10 * (1 / 2 ^ 53 * x.shortest.value) + 11 / 10 * smallestStep) +
        (1 / 2 ^ 53 * x.shortest.value + smallestStep / 2) := add_le_add near spelled
    _ ≤ x.magnitude / 2 ^ 50 + 2 * smallestStep := by linarith

/-- The decimal of every finite number is read as a number near it. -/
theorem exists_readsNear (finite : x.isFinite = true) :
    ∃ y, ReadsNear x.isNegative x.shortest.written y := by
  by_cases zero : x.significand = 0
  · rw [shortest_of_zero zero]
    exact readsNear_divided x.isNegative (Nat.zero_le _) (by decide)
  obtain ⟨place, spells⟩ := exists_spells finite zero
  have low := spells.low
  have high := spells.place_le finite zero
  have raised := spells.exponent
  by_cases integer : 0 ≤ x.shortest.exponent ∧ x.shortest.point ≤ 16
  · -- An integer that is written out ends in a zero behind the point.
    have short := Decimal.written_fits spells.short
    have written : x.shortest.written =
        ⟨x.shortest.written.digits, .negSucc 0⟩ := by
      rw [Decimal.written, if_pos integer]
      rfl
    rw [written]
    exact readsNear_divided x.isNegative short (by decide)
  · rw [Decimal.written, if_neg integer]
    rcases Int.lt_or_le x.shortest.exponent 0 with negative | whole
    · -- Beyond the greatest power of ten that is finite, the division takes two steps.
      obtain ⟨places, exponent⟩ := Int.eq_negSucc_of_lt_zero negative
      have same : x.shortest = ⟨x.shortest.digits, .negSucc places⟩ := by rw [← exponent]
      rw [Int.negSucc_eq] at exponent
      rw [same]
      rcases Nat.lt_or_ge 308 (places + 1) with beyond | within
      · exact readsNear_divided_twice x.isNegative spells.short (spells.digits_pos zero).ne'
          beyond (by omega)
      · exact readsNear_divided x.isNegative spells.short within
    · obtain ⟨places, exponent⟩ := Int.eq_ofNat_of_zero_le whole
      have same : x.shortest = ⟨x.shortest.digits, places⟩ := by rw [← exponent]
      have room := spells.room finite zero exponent
      rw [same]
      exact readsNear_times x.isNegative spells.short (by omega) room

/-! ### Numbers read back as they were -/

/-- A ratio in an interval may be expanded or reduced. -/
theorem Interval.Contains.of_eq {i : Interval} {numerator denominator other unit : Nat}
    (inside : i.Contains numerator denominator) (denominators : 0 < denominator ∧ 0 < unit)
    (same : other * denominator = numerator * unit) : i.Contains other unit := by
  obtain ⟨positive, unital⟩ := denominators
  -- All three bounds are compared after both sides have been expanded.
  have value : other * i.unit * denominator = numerator * i.unit * unit := by
    calc other * i.unit * denominator = other * denominator * i.unit := by ring
      _ = numerator * i.unit * unit := by
        rw [same]
        ring
  have moved (n : Nat) : n * unit * denominator = n * denominator * unit := by ring
  refine ⟨?_, ?_, fun inner => ?_⟩
  · apply Nat.le_of_mul_le_mul_right _ positive
    rw [value, moved]
    exact Nat.mul_le_mul_right _ inside.low
  · apply Nat.le_of_mul_le_mul_right _ positive
    rw [value, moved]
    exact Nat.mul_le_mul_right _ inside.high
  · obtain ⟨low, high⟩ := inside.inner inner
    constructor
    · apply Nat.lt_of_mul_lt_mul_right (a := denominator)
      rw [value, moved]
      exact Nat.mul_lt_mul_of_pos_right low unital
    · apply Nat.lt_of_mul_lt_mul_right (a := denominator)
      rw [value, moved]
      exact Nat.mul_lt_mul_of_pos_right high unital

theorem units_digits {digits : Nat} (few : digits ≤ 2 ^ 53) :
    (ofNat digits).units = digits * twoTo 1074 := by
  have room : 2 ^ 53 < overflow := by decide +kernel
  have units := ofNat_units few (show digits * 2 ^ 0 < overflow by omega)
  rwa [Nat.pow_zero, Nat.mul_one] at units

theorem units_power {places : Nat} (near : places ≤ 22) :
    (ofNat (tenTo places)).units = tenTo places * twoTo 1074 := by
  -- Up to the twenty-second, powers of five fit fifty-three bits.
  have split : tenTo places = 5 ^ places * 2 ^ places := Nat.mul_pow 5 2 places
  have few : 5 ^ places ≤ 2 ^ 53 :=
    (Nat.pow_le_pow_right (by decide) near).trans (by decide)
  have room : tenTo 22 < overflow := by decide +kernel
  rw [split]
  refine ofNat_units few ?_
  rw [← split]
  exact lt_of_le_of_lt (tenTo_le near) room

/-- With few digits and a small power of ten, only the last step is rounded: it is given the value
of the decimal. -/
theorem exists_ratio (negative : Bool) {decimal : Decimal} (few : decimal.digits ≤ 2 ^ 53)
    (near : decimal.exponent.natAbs ≤ 22) :
    ∃ numerator denominator, 0 < denominator ∧
      Json.float negative decimal.digits decimal.exponent =
        .float (ofRatio negative numerator denominator) ∧
      (numerator : ℚ) / denominator = decimal.value := by
  obtain ⟨digits, exponent⟩ := decimal
  have lift : (0 : ℚ) < (twoTo 1074 : Nat) := by exact_mod_cast twoTo_pos 1074
  cases exponent with
  | ofNat places =>
    have short : digits ≤ 10 ^ 17 := le_trans few (by decide)
    have low : places ≤ 22 := near
    have room : (ofNat digits).units * (ofNat (tenTo places)).units < overflow * twoTo 2148 := by
      refine times_room short (low.trans (show 22 ≤ 291 by decide)) ?_ ?_ ?_ <;> decide +kernel
    refine ⟨_, _, twoTo_pos 2148, float_times negative (low.trans (by decide)) room, ?_⟩
    have square : twoTo 2148 = twoTo 1074 * twoTo 1074 := twoTo_add 1074 1074
    rw [units_digits few, units_power low, square, tenTo_eq]
    -- Lifting by a power of two cancels out, so the power itself does not matter.
    generalize twoTo 1074 = lift at *
    simp only [Decimal.value, Int.ofNat_eq_natCast, zpow_natCast]
    push_cast
    field_simp
  | negSucc places =>
    have low : places + 1 ≤ 22 := near
    have units := units_power low
    have positive : 0 < (ofNat (tenTo (places + 1))).units := by
      rw [units]
      exact Nat.mul_pos (tenTo_pos _) (twoTo_pos _)
    refine ⟨_, _, positive, float_divided negative (low.trans (by decide)), ?_⟩
    rw [units_digits few, units, tenTo_eq]
    generalize twoTo 1074 = lift at *
    simp only [Decimal.value, zpow_negSucc]
    push_cast
    field_simp

theorem ofRatio_zero (zero : x.significand = 0) (denominator : Nat) :
    ofRatio x.isNegative 0 denominator = x := by
  have lowest : x.scale = 0 := x.scale_eq_zero_or.resolve_right (by omega)
  have bits := x.bits_eq
  rw [zero, lowest, code, Nat.zero_mul] at bits
  have rounded : (ofRatio x.isNegative 0 denominator).bits.toNat = 0 + signBit x.isNegative := by
    rw [← toNat_ofNat_signed (Nat.zero_le _)]
    rfl
  obtain ⟨word⟩ := x
  exact congrArg mk (UInt64.toNat_inj.mp (rounded.trans bits.symm))

/-- A number whose decimal has few digits and a small power of ten is read back as it was. -/
theorem float_written (finite : x.isFinite = true) (few : x.shortest.written.digits ≤ 2 ^ 53)
    (near : x.shortest.written.exponent.natAbs ≤ 22) :
    Json.float x.isNegative x.shortest.written.digits x.shortest.written.exponent = .float x := by
  obtain ⟨numerator, denominator, positive, reads, value⟩ := exists_ratio x.isNegative few near
  rw [reads]
  congr 1
  have other : (denominator : ℚ) ≠ 0 := by exact_mod_cast positive.ne'
  rw [Decimal.value_written] at value
  -- The decimal lies in the interval of the number, and the ratio is the decimal.
  by_cases zero : x.significand = 0
  · have none : numerator = 0 := by
      rw [shortest_of_zero zero, Decimal.value, Nat.cast_zero, zero_mul] at value
      exact_mod_cast (div_eq_zero_iff.mp value).resolve_right other
    rw [none]
    exact ofRatio_zero zero denominator
  · obtain ⟨place, spells⟩ := exists_spells finite zero
    apply ofRatio_of_contains finite zero positive
    apply spells.inside.of_eq ⟨tenTo_pos 400, positive⟩
    have unit : ((tenTo 400 : Nat) : ℚ) ≠ 0 := by exact_mod_cast (tenTo_pos 400).ne'
    rw [← spells.value, div_eq_div_iff other unit] at value
    exact_mod_cast value

end

end VendorSql.Binary64
