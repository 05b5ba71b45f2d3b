import VendorSql.Number.Shortest
import VendorSql.Proofs.NearestFloats

/-!
# The shortest decimal lies where it rounds back

Every decimal in the interval of a finite number is nearer to it than to any other, so rounding it
gives the number again. The search for the shortest one never fails: seventeen digits make a grid
finer than the interval is wide, whatever the number. What it finds has at most seventeen digits,
and leaving out trailing zeros does not change its value.
-/
namespace VendorSql.Binary64

open Number (tenTo twoTo)

/-! ### Intervals -/

/-- Whether a ratio lies in an interval. -/
structure Interval.Contains (i : Interval) (numerator denominator : Nat) : Prop where
  low : i.low * denominator ≤ numerator * i.unit
  high : numerator * i.unit ≤ i.high * denominator
  inner : i.closed = false →
    i.low * denominator < numerator * i.unit ∧ numerator * i.unit < i.high * denominator

/-- How far the interval reaches down, in quarters of a step: the step below a power of two is half
as long as the one above it. -/
def reach (x : Binary64) : Nat := if x.fractionField = 0 ∧ 1 < x.exponentField then 1 else 2

theorem reach_le (x : Binary64) : x.reach ≤ 2 := by
  unfold reach
  split <;> decide

theorem one_le_reach (x : Binary64) : 1 ≤ x.reach := by
  unfold reach
  split <;> decide

theorem reach_of_power {x : Binary64} (power : x.significand = 2 ^ 52) (normal : x.scale ≠ 0) :
    x.reach = 1 := by
  have field : 1 < x.exponentField := by
    unfold scale at normal
    omega
  have fraction : x.fractionField = 0 := by
    rw [significand, if_neg (by omega), twoTo_eq] at power
    omega
  rw [reach, if_pos ⟨fraction, field⟩]

theorem power_of_reach {x : Binary64} (half : x.reach = 1) : x.significand = 2 ^ 52 := by
  have short : x.fractionField = 0 ∧ 1 < x.exponentField := by
    by_contra other
    rw [reach, if_neg other] at half
    omega
  rw [significand, if_neg (by omega), short.1]
  rfl

/-- What lies in the interval of a number is within half a step of it, and below a power of two
within a quarter; on the ends only if the significand is even. -/
theorem Interval.Contains.quarters {x : Binary64} {numerator denominator : Nat}
    (inside : x.interval.Contains numerator denominator) :
    (4 * x.significand - x.reach) * (denominator * 2 ^ x.scale) ≤
        4 * (numerator * twoTo 1074) ∧
      4 * (numerator * twoTo 1074) ≤ (4 * x.significand + 2) * (denominator * 2 ^ x.scale) ∧
      (x.significand % 2 = 1 →
        (4 * x.significand - x.reach) * (denominator * 2 ^ x.scale) <
            4 * (numerator * twoTo 1074) ∧
          4 * (numerator * twoTo 1074) <
            (4 * x.significand + 2) * (denominator * 2 ^ x.scale)) := by
  obtain ⟨low, high, inner⟩ := inside
  have four : twoTo 2 = 4 := rfl
  have unit : twoTo 1076 = 4 * twoTo 1074 := by
    rw [← four]
    exact twoTo_add 2 1074
  -- All bounds are counted in quarters of the step, with the denominator on the other side.
  have lifted : numerator * twoTo 1076 = 4 * (numerator * twoTo 1074) := by
    rw [unit]
    ring
  have stepped (n : Nat) : n * twoTo x.scale * denominator = n * (denominator * 2 ^ x.scale) := by
    rw [twoTo_eq]
    ring
  have below : (if x.fractionField = 0 ∧ 1 < x.exponentField then 1 else 2) = x.reach := rfl
  simp only [interval, decide_eq_false_iff_not, below, stepped, lifted] at low high inner
  exact ⟨low, high, fun odd => inner (by omega)⟩

/-- What stands in an interval is rounded to the number it is the interval of. -/
theorem exists_rounded_of_contains {x : Binary64} (finite : x.isFinite = true)
    (nonzero : x.significand ≠ 0) {numerator denominator : Nat} (positive : 0 < denominator)
    (inside : x.interval.Contains numerator denominator) :
    ∃ significand scale,
      Rounded x.isNegative numerator denominator significand scale ∧
        code significand scale = code x.significand x.scale := by
  obtain ⟨low, high, inner⟩ := inside.quarters
  have parts := Parts.of_finite finite
  have step : 0 < denominator * 2 ^ x.scale := Nat.mul_pos positive (Nat.two_pow_pos _)
  have above : (4 * x.significand + 2) * (denominator * 2 ^ x.scale) =
      4 * (x.significand * (denominator * 2 ^ x.scale)) + 2 * (denominator * 2 ^ x.scale) := by
    ring
  have below : (4 * x.significand - x.reach) * (denominator * 2 ^ x.scale) +
      x.reach * (denominator * 2 ^ x.scale) =
        4 * (x.significand * (denominator * 2 ^ x.scale)) := by
    have reach := x.reach_le
    rw [← Nat.add_mul, Nat.sub_add_cancel (by omega)]
    ring
  have reach := Nat.mul_le_mul_right (denominator * 2 ^ x.scale) x.reach_le
  have most := Nat.mul_le_mul_right (denominator * 2 ^ x.scale) x.significand_lt
  rw [Nat.succ_mul] at most
  -- The interval may reach into the binade below, where the grid is twice as fine.
  by_cases lower : x.scale ≠ 0 ∧ numerator * twoTo 1074 < 2 ^ 52 * (denominator * 2 ^ x.scale)
  · -- Only what rounds up to a power of two belongs to the binade below that number.
    obtain ⟨normal, less⟩ := lower
    have least := x.scale_eq_zero_or.resolve_left normal
    have power : x.significand = 2 ^ 52 := by
      by_contra other
      have more := Nat.mul_le_mul_right (denominator * 2 ^ x.scale)
        (show 2 ^ 52 + 1 ≤ x.significand by omega)
      rw [Nat.succ_mul] at more
      omega
    rw [reach_of_power power normal, power] at below
    rw [reach_of_power power normal, power] at low
    obtain ⟨scale, next⟩ := Nat.exists_eq_add_one_of_ne_zero normal
    have double : denominator * 2 ^ x.scale = 2 * (denominator * 2 ^ scale) := by
      rw [next]
      ring
    rw [double] at below low less
    have carried : code (2 ^ 53) scale = code x.significand x.scale := by
      rw [power, next]
      simp only [code, twoTo_eq]
      omega
    refine ⟨2 ^ 53, scale, .of_nearest _ positive ⟨?_, ?_⟩ ⟨?_, ?_, fun _ => rfl⟩ ?_, carried⟩
    · omega
    · right
      omega
    · omega
    · omega
    · rw [carried]
      exact parts.finite
  · refine ⟨x.significand, x.scale, .of_nearest _ positive ⟨?_, ?_⟩ ⟨?_, ?_, ?_⟩ parts.finite, rfl⟩
    · omega
    · by_cases finest : x.scale = 0
      · exact .inl finest
      · right
        by_contra less
        exact lower ⟨finest, not_le.mp less⟩
    · omega
    · omega
    · -- The ends of the interval belong to it if the significand is even.
      intro halfway
      by_contra odd
      have inner := inner (by omega)
      omega

/-- A ratio in the interval of a number is rounded to that number. -/
theorem ofRatio_of_contains {x : Binary64} (finite : x.isFinite = true)
    (nonzero : x.significand ≠ 0) {numerator denominator : Nat} (positive : 0 < denominator)
    (inside : x.interval.Contains numerator denominator) :
    ofRatio x.isNegative numerator denominator = x := by
  obtain ⟨significand, scale, rounded, same⟩ :=
    exists_rounded_of_contains finite nonzero positive inside
  have bits : (ofRatio x.isNegative numerator denominator).bits = x.bits := by
    rw [← UInt64.toNat_inj, rounded.bits, same, ← bits_eq]
  cases x
  exact congrArg mk bits

theorem near_of_contains {x : Binary64} (finite : x.isFinite = true)
    (nonzero : x.significand ≠ 0) {numerator denominator : Nat} (positive : 0 < denominator)
    (inside : x.interval.Contains numerator denominator) :
    |x.magnitude - (numerator : ℚ) / denominator| ≤
      max ((numerator : ℚ) / denominator / 2 ^ 53) (smallestStep / 2) := by
  obtain ⟨significand, scale, rounded, -⟩ :=
    exists_rounded_of_contains finite nonzero positive inside
  have near := rounded.near positive
  rwa [ofRatio_of_contains finite nonzero positive inside] at near

/-! ### The search -/

/-- The interval in units of `10 ^ -400` of its unit, as the search looks at it. -/
def Interval.raised (i : Interval) : Interval :=
  { i with
    low := i.low * tenTo 400
    middle := i.middle * tenTo 400
    high := i.high * tenTo 400 }

theorem Interval.contains_of_holds {i : Interval} {digits place : Nat}
    (holds : i.raised.holds digits (i.unit * tenTo place) = true) :
    i.Contains (digits * tenTo place) (tenTo 400) := by
  have value : digits * (i.unit * tenTo place) = digits * tenTo place * i.unit := by ring
  cases closed : i.closed
  · simp only [Interval.holds, raised, value, closed, Bool.false_eq_true, if_false,
      Bool.and_eq_true, decide_eq_true_eq] at holds
    exact ⟨holds.1.le, holds.2.le, fun _ => holds⟩
  · simp only [Interval.holds, raised, value, closed, if_true, Bool.and_eq_true,
      decide_eq_true_eq] at holds
    refine ⟨holds.1, holds.2, fun inner => ?_⟩
    rw [closed] at inner
    cases inner

/-- What is found on a grid lies in the interval, next to its middle. -/
theorem Interval.nearest?_eq_some {i : Interval} {scale digits : Nat}
    (found : i.nearest? scale = some digits) :
    i.holds digits scale = true ∧ digits ≤ i.middle / scale + 1 := by
  simp only [nearest?] at found
  split at found
  next first second =>
    split at found <;> cases found
    · exact ⟨first, Nat.le_succ _⟩
    · exact ⟨second, le_rfl⟩
  next first _ =>
    cases found
    exact ⟨first, Nat.le_succ _⟩
  next second =>
    cases found
    exact ⟨second, le_rfl⟩
  next => cases found

/-- A grid finer than an interval around the number has a point in it next to the number. -/
theorem Interval.nearest?_ne_none {i : Interval} {scale : Nat} (positive : 0 < scale)
    (below : i.low < i.middle) (above : i.middle < i.high) (fine : i.low + scale < i.high) :
    i.nearest? scale ≠ none := by
  intro missing
  have split := Nat.div_add_mod i.middle scale
  have rest := Nat.mod_lt i.middle positive
  rw [Nat.mul_comm] at split
  have next := Nat.succ_mul (i.middle / scale) scale
  rw [Nat.succ_eq_add_one] at next
  simp only [nearest?] at missing
  split at missing
  · split at missing <;> cases missing
  · cases missing
  · cases missing
  -- If both multiples missed, the two bounds would be less than one step of the grid apart.
  next first second =>
    cases closed : i.closed <;>
      simp only [holds, closed, Bool.false_eq_true, if_false, if_true, Bool.and_eq_false_iff,
        decide_eq_false_iff_not] at first second <;>
      omega

/-- The search stops with a hit at one of its places. -/
theorem Interval.search_eq_some {i : Interval} {place count : Nat} {decimal : Decimal}
    (found : i.search place count = some decimal) :
    ∃ tried, tried ≤ place ∧ place < tried + count ∧ decimal.exponent = (tried : Int) - 400 ∧
      i.Contains (decimal.digits * tenTo tried) (tenTo 400) ∧
      decimal.digits ≤ i.middle * tenTo 400 / (i.unit * tenTo tried) + 1 := by
  induction count generalizing place with
  | zero => cases found
  | succ count ih =>
    simp only [search] at found
    split at found
    next digits hit =>
      cases found
      obtain ⟨holds, near⟩ := nearest?_eq_some hit
      exact ⟨place, le_rfl, by omega, rfl, contains_of_holds holds, near⟩
    next =>
      -- The next grid is one place finer.
      obtain ⟨tried, low, high, rest⟩ := ih found
      exact ⟨tried, by omega, by omega, rest⟩

/-- A hit at the last place is enough for the search to end with one. -/
theorem Interval.search_ne_none {i : Interval} {place count : Nat} (deep : count ≤ place)
    (hit : i.raised.nearest? (i.unit * tenTo (place - count)) ≠ none) :
    i.search place (count + 1) ≠ none := by
  induction count generalizing place with
  | zero =>
    simp only [search]
    split
    · simp
    next missed => exact absurd missed hit
  | succ count ih =>
    rw [search]
    split
    · simp
    · apply ih (by omega)
      rw [Nat.sub_sub, Nat.add_comm 1 count]
      exact hit

/-! ### Seventeen digits -/

theorem Interval.leading_fits (i : Interval) (bound : Nat) :
    i.leading bound = 0 ∨ i.unit * tenTo (i.leading bound) ≤ i.middle * tenTo 400 := by
  induction bound with
  | zero => exact .inl rfl
  | succ bound ih =>
    rw [leading]
    split
    next fits => exact .inr fits
    next => exact ih

theorem Interval.le_leading {i : Interval} {place bound : Nat} (within : place ≤ bound)
    (fits : i.unit * tenTo place ≤ i.middle * tenTo 400) : place ≤ i.leading bound := by
  induction bound with
  | zero => exact within
  | succ bound ih =>
    rw [leading]
    split
    next => exact within
    next exceeds =>
      have other : place ≠ bound + 1 := by
        rintro rfl
        exact exceeds fits
      exact ih (by omega)

section

variable {x : Binary64}

theorem interval_middle (x : Binary64) :
    x.interval.middle = 4 * x.significand * twoTo x.scale := by
  simp only [interval]

theorem interval_high (x : Binary64) :
    x.interval.high = (4 * x.significand + 2) * twoTo x.scale := by
  simp only [interval]

theorem interval_unit (x : Binary64) : x.interval.unit = twoTo 1076 := by
  simp only [interval]

theorem middle_pos (nonzero : x.significand ≠ 0) : 4 ≤ x.interval.middle := by
  have some : 0 < x.significand * twoTo x.scale :=
    Nat.mul_pos (Nat.pos_of_ne_zero nonzero) (twoTo_pos _)
  rw [interval_middle, Nat.mul_assoc]
  omega

theorem high_lt (finite : x.isFinite = true) : x.interval.high < twoTo 2100 := by
  have small := x.significand_lt
  have scale := twoTo_le (scale_le finite)
  have quarters : twoTo 2100 = twoTo 55 * twoTo 2045 := twoTo_add 55 2045
  rw [interval_high, quarters]
  calc (4 * x.significand + 2) * twoTo x.scale ≤ (4 * x.significand + 2) * twoTo 2045 :=
      Nat.mul_le_mul_left _ scale
    _ < twoTo 55 * twoTo 2045 := by
      apply Nat.mul_lt_mul_of_pos_right _ (twoTo_pos _)
      rw [twoTo_eq]
      omega

theorem middle_lt (finite : x.isFinite = true) : x.interval.middle < twoTo 2100 := by
  refine lt_of_le_of_lt ?_ (high_lt finite)
  simp only [interval]
  exact Nat.mul_le_mul_right _ (Nat.le_add_right _ _)

/-- The place of the leading digit, raised by 400. -/
def lead (x : Binary64) : Nat := x.interval.leading 720

/-- The leading digit stands at the greatest power of ten that fits. -/
theorem lead_spec (finite : x.isFinite = true) (nonzero : x.significand ≠ 0) :
    76 ≤ x.lead ∧ x.lead < 720 ∧
      x.interval.unit * tenTo x.lead ≤ x.interval.middle * tenTo 400 ∧
      x.interval.middle * tenTo 400 < x.interval.unit * tenTo (x.lead + 1) := by
  have unit := x.interval_unit
  -- The smallest number is above `10 ^ -324`, and the greatest below `10 ^ 320`.
  have low : 76 ≤ x.lead := by
    apply Interval.le_leading (by decide)
    calc x.interval.unit * tenTo 76 ≤ 4 * tenTo 400 := by
          rw [unit]
          decide +kernel
      _ ≤ x.interval.middle * tenTo 400 := Nat.mul_le_mul_right _ (middle_pos nonzero)
  have fits : x.interval.unit * tenTo x.lead ≤ x.interval.middle * tenTo 400 :=
    (x.interval.leading_fits 720).resolve_left fun none => by
      rw [lead, none] at low
      omega
  have high : x.lead < 720 := by
    by_contra beyond
    have apart : twoTo 2100 * tenTo 400 ≤ twoTo 1076 * tenTo 720 := by decide +kernel
    refine absurd fits (not_le.mpr ?_)
    calc x.interval.middle * tenTo 400 < twoTo 2100 * tenTo 400 :=
        Nat.mul_lt_mul_of_pos_right (middle_lt finite) (tenTo_pos 400)
      _ ≤ twoTo 1076 * tenTo 720 := apart
      _ ≤ x.interval.unit * tenTo x.lead := by
        rw [unit]
        exact Nat.mul_le_mul_left _ (tenTo_le (not_lt.mp beyond))
  refine ⟨low, high, fits, ?_⟩
  by_contra fits
  exact absurd (Interval.le_leading high (not_lt.mp fits)) (Nat.not_succ_le_self _)

/-- The interval reaches two quarters of a step up, and `reach` quarters down. -/
theorem exists_quarter (nonzero : x.significand ≠ 0) :
    ∃ quarter, 0 < quarter ∧
      x.interval.raised.low + x.reach * quarter = x.interval.raised.middle ∧
      x.interval.raised.high = x.interval.raised.middle + 2 * quarter ∧
      x.interval.raised.middle = 4 * (x.significand * quarter) := by
  -- All of the interval is a multiple of one quarter, which is positive whatever the number is.
  have low : x.interval.raised.low =
      (4 * x.significand - x.reach) * (twoTo x.scale * tenTo 400) := Nat.mul_assoc _ _ _
  have middle : x.interval.raised.middle = 4 * x.significand * (twoTo x.scale * tenTo 400) :=
    Nat.mul_assoc _ _ _
  have high : x.interval.raised.high =
      (4 * x.significand + 2) * (twoTo x.scale * tenTo 400) := Nat.mul_assoc _ _ _
  have positive : 0 < twoTo x.scale * tenTo 400 := Nat.mul_pos (twoTo_pos _) (tenTo_pos _)
  have reach : x.reach ≤ 4 * x.significand := by
    have most := x.reach_le
    omega
  rw [low, middle, high]
  generalize twoTo x.scale * tenTo 400 = quarter at positive
  refine ⟨quarter, positive, ?_, by ring, by ring⟩
  rw [← Nat.add_mul, Nat.sub_add_cancel reach]

/-- Seventeen digits from the leading one on make a grid finer than the interval is wide. -/
theorem search_ne_none (finite : x.isFinite = true) (nonzero : x.significand ≠ 0) :
    x.interval.search x.lead 17 ≠ none := by
  obtain ⟨deep, -, fits, -⟩ := lead_spec finite nonzero
  obtain ⟨quarter, positive, low, high, middle⟩ := exists_quarter nonzero
  have ten : tenTo 16 = 10 ^ 16 := rfl
  have grid : tenTo x.lead = 10 ^ 16 * tenTo (x.lead - 16) := by
    rw [← ten, ← tenTo_add, Nat.add_sub_cancel' (le_trans (by decide) deep)]
  have fine : 10 ^ 16 * (x.interval.unit * tenTo (x.lead - 16)) ≤ x.interval.raised.middle := by
    calc 10 ^ 16 * (x.interval.unit * tenTo (x.lead - 16)) =
        x.interval.unit * (10 ^ 16 * tenTo (x.lead - 16)) := by ring
      _ = x.interval.unit * tenTo x.lead := by rw [grid]
      _ ≤ x.interval.raised.middle := fits
  have spaced : 0 < x.interval.unit * tenTo (x.lead - 16) := by
    rw [interval_unit]
    exact Nat.mul_pos (twoTo_pos _) (tenTo_pos _)
  have small := Nat.mul_le_mul_right quarter x.significand_lt
  have below := Nat.mul_le_mul_right quarter x.one_le_reach
  rw [Nat.succ_mul] at small
  apply Interval.search_ne_none (le_trans (by decide) deep)
  apply Interval.nearest?_ne_none spaced
  -- What is left is linear in the grid and the quarter of a step.
  all_goals
    generalize x.interval.unit * tenTo (x.lead - 16) = grid at *
    generalize x.interval.raised.low = left at *
    generalize x.interval.raised.middle = centre at *
    generalize x.interval.raised.high = right at *
    clear fits
  · omega
  · omega
  · rcases Nat.lt_or_ge x.reach 2 with half | full
    · -- Below a power of two the interval reaches half as far, but the number is as small.
      have one : x.reach = 1 := Nat.le_antisymm (Nat.le_of_lt_succ half) x.one_le_reach
      rw [power_of_reach one] at middle
      rw [one] at low
      omega
    · have two : x.reach = 2 := Nat.le_antisymm x.reach_le full
      rw [two] at low
      omega

/-- What the search finds, and with it the shortest decimal of a number, as a count of units of
`10 ^ -400`. -/
structure Spells (x : Binary64) (decimal : Decimal) (place : Nat) : Prop where
  exponent : decimal.exponent = (place : Int) - 400
  inside : x.interval.Contains (decimal.digits * tenTo place) (tenTo 400)
  short : decimal.digits ≤ 10 ^ 17
  low : 60 ≤ place

theorem Spells.digits_pos {decimal : Decimal} {place : Nat} (spells : x.Spells decimal place)
    (nonzero : x.significand ≠ 0) : 0 < decimal.digits := by
  have low := spells.inside.low
  by_contra none
  rw [Nat.eq_zero_of_not_pos none, Nat.zero_mul, Nat.zero_mul, Nat.le_zero, Nat.mul_eq_zero] at low
  have reach := x.reach_le
  have bottom : x.interval.low = (4 * x.significand - x.reach) * twoTo x.scale := by
    simp only [interval, Binary64.reach]
  have positive : 0 < x.interval.low := by
    rw [bottom]
    exact Nat.mul_pos (by omega) (twoTo_pos _)
  rcases low with low | denominator
  · exact positive.ne' low
  · exact (tenTo_pos 400).ne' denominator

theorem Spells.place_le {decimal : Decimal} {place : Nat} (spells : x.Spells decimal place)
    (finite : x.isFinite = true) (nonzero : x.significand ≠ 0) : place ≤ 708 := by
  by_contra beyond
  have apart : twoTo 2100 * tenTo 400 ≤ tenTo 709 * twoTo 1076 := by decide +kernel
  refine absurd spells.inside.high (not_le.mpr ?_)
  calc x.interval.high * tenTo 400 < twoTo 2100 * tenTo 400 :=
      Nat.mul_lt_mul_of_pos_right (high_lt finite) (tenTo_pos 400)
    _ ≤ tenTo 709 * twoTo 1076 := apart
    _ ≤ decimal.digits * tenTo place * x.interval.unit := by
      rw [interval_unit]
      apply Nat.mul_le_mul_right
      calc tenTo 709 ≤ tenTo place := tenTo_le (not_le.mp beyond)
        _ ≤ decimal.digits * tenTo place :=
          Nat.le_mul_of_pos_left _ (spells.digits_pos nonzero)

/-- Seventeen places are enough: on the last grid there is a multiple within every interval. -/
theorem exists_spells_search (finite : x.isFinite = true) (nonzero : x.significand ≠ 0) :
    ∃ decimal place, x.interval.search x.lead 17 = some decimal ∧ x.Spells decimal place := by
  obtain ⟨deep, -, -, beyond⟩ := lead_spec finite nonzero
  obtain ⟨decimal, found⟩ := Option.ne_none_iff_exists'.mp (search_ne_none finite nonzero)
  obtain ⟨place, high, low, exponent, inside, near⟩ := Interval.search_eq_some found
  refine ⟨decimal, place, found, exponent, inside, near.trans ?_, by omega⟩
  have ten : tenTo 17 = 10 ^ 17 := rfl
  -- The leading digit is at most sixteen places above the one the search ends at.
  have digits : x.interval.middle * tenTo 400 < x.interval.unit * tenTo place * 10 ^ 17 := by
    calc x.interval.middle * tenTo 400 < x.interval.unit * tenTo (x.lead + 1) := beyond
      _ ≤ x.interval.unit * tenTo (place + 17) := Nat.mul_le_mul_left _ (tenTo_le low)
      _ = x.interval.unit * tenTo place * 10 ^ 17 := by rw [tenTo_add, ten, Nat.mul_assoc]
  exact Nat.div_lt_of_lt_mul digits

/-- Zeros that are trimmed move into the exponent. -/
theorem Decimal.trim_spec (fuel : Nat) (decimal : Decimal) :
    ∃ zeros, (decimal.trim fuel).exponent = decimal.exponent + (zeros : Nat) ∧
      decimal.digits = (decimal.trim fuel).digits * tenTo zeros := by
  induction fuel generalizing decimal with
  | zero => exact ⟨0, (Int.add_zero _).symm, (Nat.mul_one _).symm⟩
  | succ fuel ih =>
    rw [trim]
    split
    next zero =>
      -- A zero that is left out moves into the exponent.
      obtain ⟨zeros, exponent, digits⟩ := ih ⟨decimal.digits / 10, decimal.exponent + 1⟩
      refine ⟨zeros + 1, ?_, ?_⟩
      · rw [exponent, Nat.cast_succ, add_comm (zeros : Int), add_assoc]
      · rw [Number.tenTo_succ, ← Nat.mul_assoc, ← digits]
        exact (Nat.div_mul_cancel (Nat.dvd_of_mod_eq_zero zero.2)).symm
    next => exact ⟨0, (Int.add_zero _).symm, (Nat.mul_one _).symm⟩

theorem exists_spells (finite : x.isFinite = true) (nonzero : x.significand ≠ 0) :
    ∃ place, x.Spells x.shortest place := by
  obtain ⟨decimal, place, found, exponent, inside, short, low⟩ :=
    exists_spells_search finite nonzero
  obtain ⟨zeros, trimmed, digits⟩ := decimal.trim_spec 20
  have shortest : x.shortest = decimal.trim 20 := by
    rw [lead] at found
    rw [Binary64.shortest, if_neg nonzero, found]
  -- Trimming moves zeros into the exponent and leaves the value where it was.
  have value : (decimal.trim 20).digits * tenTo (place + zeros) =
      decimal.digits * tenTo place := by
    rw [digits, tenTo_add]
    ring
  have fewer : (decimal.trim 20).digits ≤ decimal.digits := by
    rw [digits]
    exact Nat.le_mul_of_pos_right _ (tenTo_pos zeros)
  rw [shortest]
  refine ⟨place + zeros, ?_, ?_, fewer.trans short, by omega⟩
  · rw [trimmed, exponent]
    omega
  · rw [value]
    exact inside

end

end VendorSql.Binary64
