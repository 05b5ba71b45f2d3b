import VendorSql.Number.Binary64
import Mathlib.Data.Nat.Bitwise
import Mathlib.Data.Rat.Cast.Order
import Mathlib.Tactic.FieldSimp
import Mathlib.Tactic.Linarith
import Mathlib.Tactic.Positivity
import Mathlib.Tactic.Ring

/-!
# The floating-point number nearest to a ratio

A finite number is a multiple of the smallest step, `2 ^ -1074`: its significand times the power of
two of its scale. A ratio is rounded on the grid of its binade, the one on which its quotient has
fifty-three bits; what is rounded up to the next power of two is carried into the exponent and
keeps its value. So the result is off by half a step of that grid at most, and a ratio that lies
nearer to some number than to its neighbours becomes that number.
-/
namespace VendorSql.Binary64

open Number (tenTo twoTo)

theorem twoTo_eq (n : Nat) : twoTo n = 2 ^ n := rfl

theorem twoTo_pos (n : Nat) : 0 < twoTo n := Nat.two_pow_pos n

theorem twoTo_add (m n : Nat) : twoTo (m + n) = twoTo m * twoTo n := Nat.pow_add 2 m n

theorem twoTo_le {m n : Nat} (ordered : m ≤ n) : twoTo m ≤ twoTo n :=
  Nat.pow_le_pow_right (by decide) ordered

theorem tenTo_eq (n : Nat) : tenTo n = 10 ^ n := rfl

theorem tenTo_pos (n : Nat) : 0 < tenTo n := Nat.pow_pos (by decide)

theorem tenTo_add (m n : Nat) : tenTo (m + n) = tenTo m * tenTo n := Nat.pow_add 10 m n

theorem tenTo_le {m n : Nat} (ordered : m ≤ n) : tenTo m ≤ tenTo n :=
  Nat.pow_le_pow_right (by decide) ordered

/-! ### Parts of a number -/

def units (x : Binary64) : Nat := x.significand * twoTo x.scale

def smallestStep : ℚ := 1 / twoTo 1074

def magnitude (x : Binary64) : ℚ := x.units * smallestStep

/-- The bits without the sign, as the exponent and the significand that is carried into it. -/
def code (significand scale : Nat) : Nat := scale * twoTo 52 + significand

/-- A significand has fifty-three bits at most. -/
theorem significand_lt (x : Binary64) : x.significand < 2 ^ 53 := by
  have fraction : x.fractionField < 2 ^ 52 := Nat.mod_lt _ (by decide)
  unfold significand
  rw [twoTo_eq]
  split <;> omega

/-- It has fewer only at the bottom of the range. -/
theorem scale_eq_zero_or (x : Binary64) : x.scale = 0 ∨ 2 ^ 52 ≤ x.significand := by
  unfold scale significand
  rw [twoTo_eq]
  split <;> omega

theorem isFinite_iff {x : Binary64} : x.isFinite = true ↔ x.exponentField ≠ 2047 := by
  simp [isFinite]

theorem scale_le {x : Binary64} (finite : x.isFinite = true) : x.scale ≤ 2045 := by
  have field : x.exponentField < 2 ^ 11 := Nat.mod_lt _ (by decide)
  have below := isFinite_iff.mp finite
  unfold scale
  omega

def signBit (negative : Bool) : Nat := if negative then twoTo 63 else 0

/-- The bits are the code of the parts, with the sign in front. -/
theorem bits_eq (x : Binary64) :
    x.bits.toNat = code x.significand x.scale + signBit x.isNegative := by
  have width : x.bits.toNat < 2 ^ 64 := x.bits.toNat_lt
  have field : x.exponentField = x.bits.toNat / 2 ^ 52 % 2 ^ 11 := rfl
  have fraction : x.fractionField = x.bits.toNat % 2 ^ 52 := rfl
  have sign : x.isNegative = decide (2 ^ 63 ≤ x.bits.toNat) := rfl
  unfold code signBit significand scale
  rw [twoTo_eq, twoTo_eq]
  -- A subnormal number has scale zero, as the lowest normal ones have.
  cases negative : x.isNegative
  · rw [sign, decide_eq_false_iff_not] at negative
    split <;> simp <;> omega
  · rw [sign, decide_eq_true_eq] at negative
    split <;> simp <;> omega

/-- Parts from which bits can be put together: a carry of the significand into the exponent is
allowed for. -/
structure Parts (significand scale : Nat) : Prop where
  below : significand ≤ 2 ^ 53
  above : scale = 0 ∨ 2 ^ 52 ≤ significand
  finite : code significand scale < 2047 * 2 ^ 52

theorem Parts.of_finite {x : Binary64} (finite : x.isFinite = true) :
    Parts x.significand x.scale where
  below := x.significand_lt.le
  above := x.scale_eq_zero_or
  finite := by
    have small := x.significand_lt
    have scale := scale_le finite
    simp only [code, twoTo_eq]
    omega

section

variable {x : Binary64} {significand scale : Nat} {negative : Bool}

theorem Parts.exponentField (parts : Parts significand scale)
    (bits : x.bits.toNat = code significand scale + signBit negative) :
    x.exponentField = if significand < 2 ^ 52 then 0
      else if significand < 2 ^ 53 then scale + 1 else scale + 2 := by
  obtain ⟨below, above, finite⟩ := parts
  unfold Binary64.exponentField
  simp only [bits, code, signBit, twoTo_eq] at finite ⊢
  cases negative <;> split_ifs <;> simp <;> omega

theorem fractionField_eq
    (bits : x.bits.toNat = code significand scale + signBit negative) :
    x.fractionField = significand % 2 ^ 52 := by
  unfold fractionField
  simp only [bits, code, signBit, twoTo_eq]
  cases negative
  · simp
  · simp only [if_true]
    omega

theorem Parts.isFinite (parts : Parts significand scale)
    (bits : x.bits.toNat = code significand scale + signBit negative) : x.isFinite = true := by
  rw [isFinite_iff, parts.exponentField bits]
  obtain ⟨below, above, finite⟩ := parts
  simp only [code, twoTo_eq] at finite
  split_ifs <;> omega

theorem Parts.isNegative (parts : Parts significand scale)
    (bits : x.bits.toNat = code significand scale + signBit negative) :
    x.isNegative = negative := by
  have finite := parts.finite
  unfold Binary64.isNegative
  simp only [bits, signBit, twoTo_eq]
  cases negative
  · simp
    omega
  · simp

/-- The bits put together from parts hold the number that the parts describe. -/
theorem Parts.units (parts : Parts significand scale)
    (bits : x.bits.toNat = code significand scale + signBit negative) :
    x.units = significand * 2 ^ scale := by
  have field := parts.exponentField bits
  have fraction := fractionField_eq bits
  have below := parts.below
  rw [Binary64.units, Binary64.significand, Binary64.scale, field, fraction, twoTo_eq, twoTo_eq]
  -- Subnormal, normal, or carried into the exponent.
  by_cases small : significand < 2 ^ 52
  · obtain rfl : scale = 0 := parts.above.resolve_right (by omega)
    rw [if_pos small, if_pos rfl, Nat.mod_eq_of_lt small]
  · rw [if_neg small]
    by_cases normal : significand < 2 ^ 53
    · rw [if_pos normal, if_neg (Nat.succ_ne_zero scale), Nat.add_sub_cancel]
      congr 1
      omega
    · obtain rfl : significand = 2 ^ 53 := by omega
      rw [if_neg normal, if_neg (Nat.succ_ne_zero _)]
      have carried : (2 ^ 52 + 2 ^ 53 % 2 ^ 52) * 2 ^ (scale + 1) = 2 ^ 53 * 2 ^ scale := by ring
      exact carried

end

/-! ### Rounding a quotient -/

/-- The grid of step `unit · 2 ^ scale` on which a numerator has fifty-three bits, or fewer if the
grid is the finest. -/
structure Binade (numerator unit scale : Nat) : Prop where
  below : numerator < 2 ^ 53 * (unit * 2 ^ scale)
  above : scale = 0 ∨ 2 ^ 52 * (unit * 2 ^ scale) ≤ numerator

/-- A greater number lies on the same grid or on a coarser one. -/
theorem Binade.le {numerator greater unit scale other : Nat} (grid : Binade greater unit scale)
    (finer : Binade numerator unit other) (ordered : numerator ≤ greater) : other ≤ scale := by
  rcases finer.above with rfl | above
  · exact Nat.zero_le _
  · have narrow : 2 ^ 52 * (unit * 2 ^ other) < 2 ^ 53 * (unit * 2 ^ scale) :=
      lt_of_le_of_lt (above.trans ordered) grid.below
    have powers : unit * 2 ^ (52 + other) < unit * 2 ^ (53 + scale) := by
      calc unit * 2 ^ (52 + other) = 2 ^ 52 * (unit * 2 ^ other) := by ring
        _ < 2 ^ 53 * (unit * 2 ^ scale) := narrow
        _ = unit * 2 ^ (53 + scale) := by ring
    have exponents := (Nat.pow_lt_pow_iff_right (by decide)).mp (Nat.lt_of_mul_lt_mul_left powers)
    omega

theorem Binade.unique {numerator unit scale other : Nat} (grid : Binade numerator unit scale)
    (second : Binade numerator unit other) : scale = other :=
  Nat.le_antisymm (second.le grid le_rfl) (grid.le second le_rfl)

/-- The multiple of the denominator that is nearest, the even one of two. -/
structure Nearest (numerator denominator quotient : Nat) : Prop where
  low : 2 * (quotient * denominator) ≤ 2 * numerator + denominator
  high : 2 * numerator ≤ 2 * (quotient * denominator) + denominator
  even : 2 * (quotient * denominator) = 2 * numerator + denominator ∨
    2 * numerator = 2 * (quotient * denominator) + denominator → quotient % 2 = 0

theorem nearest_roundedQuotient (numerator : Nat) {denominator : Nat}
    (positive : 0 < denominator) :
    Nearest numerator denominator (roundedQuotient numerator denominator) := by
  have split := Nat.div_add_mod numerator denominator
  have rest := Nat.mod_lt numerator positive
  rw [Nat.mul_comm] at split
  simp only [roundedQuotient]
  split_ifs with up
  · -- Rounded up: the next multiple.
    have next := Nat.succ_mul (numerator / denominator) denominator
    rw [Nat.succ_eq_add_one] at next
    constructor <;> omega
  · constructor <;> omega

/-- Rounding keeps the order. -/
theorem Nearest.le {numerator greater denominator quotient other : Nat}
    (positive : 0 < denominator) (first : Nearest numerator denominator quotient)
    (second : Nearest greater denominator other) (ordered : numerator ≤ greater) :
    quotient ≤ other := by
  by_contra less
  obtain ⟨more, rfl⟩ := Nat.exists_eq_add_of_lt (not_le.mp less)
  have apart : (other + more + 1) * denominator =
      other * denominator + more * denominator + denominator := by ring
  have low := first.low
  have high := second.high
  rw [apart] at low
  -- Only halfway between two multiples can both be nearest, and then both would be even.
  have next : more * denominator = 0 := by omega
  obtain rfl : more = 0 := (Nat.mul_eq_zero.mp next).resolve_right positive.ne'
  have upper := first.even (.inl (by rw [apart]; omega))
  have lower := second.even (.inr (by omega))
  omega

theorem Nearest.unique {numerator denominator quotient other : Nat} (positive : 0 < denominator)
    (first : Nearest numerator denominator quotient)
    (second : Nearest numerator denominator other) : quotient = other :=
  Nat.le_antisymm (first.le positive second le_rfl) (second.le positive first le_rfl)

/-! ### Rounding a ratio -/

/-- The scale that rounding settles for, one of two that the lengths of numerator and denominator
leave, is that of the binade. -/
theorem exists_binade {numerator unit : Nat} (some : 0 < numerator) (positive : 0 < unit) :
    let widest := numerator.log2 - unit.log2 - 53
    Binade numerator unit
      (if numerator / (unit * twoTo widest) < twoTo 53 then widest else widest + 1) := by
  intro widest
  have long := Nat.log2_self_le some.ne'
  have short : numerator < 2 ^ (numerator.log2 + 1) := Nat.lt_log2_self
  have wide := Nat.log2_self_le positive.ne'
  have narrow : unit < 2 ^ (unit.log2 + 1) := Nat.lt_log2_self
  have step : 0 < unit * 2 ^ widest := Nat.mul_pos positive (Nat.two_pow_pos _)
  rw [twoTo_eq, twoTo_eq]
  -- The quotient has as many bits as the lengths differ by, or one more.
  split
  next fits =>
    refine ⟨(Nat.div_lt_iff_lt_mul step).mp fits, ?_⟩
    by_cases finest : widest = 0
    · exact .inl finest
    · right
      calc 2 ^ 52 * (unit * 2 ^ widest) ≤ 2 ^ 52 * (2 ^ (unit.log2 + 1) * 2 ^ widest) := by gcongr
        _ = 2 ^ (52 + (unit.log2 + 1) + widest) := by ring
        _ = 2 ^ numerator.log2 := by
          congr 1
          omega
        _ ≤ numerator := long
  next exceeds =>
    have double : unit * 2 ^ (widest + 1) = 2 * (unit * 2 ^ widest) := by ring
    constructor
    · calc numerator < 2 ^ (numerator.log2 + 1) := short
        _ ≤ 2 ^ (53 + unit.log2 + (widest + 1)) := Nat.pow_le_pow_right (by decide) (by omega)
        _ = 2 ^ 53 * (2 ^ unit.log2 * 2 ^ (widest + 1)) := by ring
        _ ≤ 2 ^ 53 * (unit * 2 ^ (widest + 1)) := by gcongr
    · right
      have least := (Nat.le_div_iff_mul_le step).mp (not_lt.mp exceeds)
      rw [double]
      omega

theorem toNat_ofNat_signed {magnitude : Nat} (small : magnitude ≤ 2047 * 2 ^ 52)
    (negative : Bool) :
    (UInt64.ofNat (magnitude + if negative then twoTo 63 else 0)).toNat =
      magnitude + signBit negative := by
  rw [UInt64.toNat_ofNat']
  apply Nat.mod_eq_of_lt
  cases negative <;> simp only [twoTo_eq, if_true, Bool.false_eq_true, if_false] <;> omega

section

variable {numerator denominator scale quotient : Nat}

/-- A ratio has the bits of its nearest multiple on its grid. -/
theorem ofRatio_bits (negative : Bool) (positive : 0 < denominator)
    (grid : Binade (numerator * twoTo 1074) denominator scale)
    (rounded : Nearest (numerator * twoTo 1074) (denominator * 2 ^ scale) quotient) :
    (ofRatio negative numerator denominator).bits.toNat =
      pack quotient scale + signBit negative := by
  have step : 0 < denominator * 2 ^ scale := Nat.mul_pos positive (Nat.two_pow_pos _)
  have small : pack quotient scale ≤ 2047 * 2 ^ 52 := Nat.min_le_right _ _
  rw [← toNat_ofNat_signed small]
  by_cases zero : numerator = 0
  · -- Zero lies in the lowest binade and is rounded to itself.
    subst zero
    have lowest : scale = 0 := by
      refine grid.above.resolve_right fun above => ?_
      have least := Nat.mul_pos (show 0 < 2 ^ 52 by decide) step
      omega
    have none : quotient = 0 := by
      have low := rounded.low
      by_contra some
      have least := Nat.le_mul_of_pos_left (denominator * 2 ^ scale) (Nat.pos_of_ne_zero some)
      omega
    subst lowest none
    simp [ofRatio, pack]
  · have lifted : 0 < numerator * twoTo 1074 :=
      Nat.mul_pos (Nat.pos_of_ne_zero zero) (twoTo_pos _)
    -- The grid and the rounding of the function are the only ones there are.
    have settled := (exists_binade lifted positive).unique grid
    have nearest := (nearest_roundedQuotient (numerator * twoTo 1074) step).unique step rounded
    simp only [ofRatio, if_neg zero]
    rw [settled, ← nearest]
    rfl

/-- On its grid a number is rounded to fifty-three bits, or by a carry to the first number with one
more. -/
theorem Nearest.parts (positive : 0 < denominator) {lifted : Nat}
    (grid : Binade lifted denominator scale)
    (rounded : Nearest lifted (denominator * 2 ^ scale) quotient) :
    quotient ≤ 2 ^ 53 ∧ (scale = 0 ∨ 2 ^ 52 ≤ quotient) := by
  have step : 0 < denominator * 2 ^ scale := Nat.mul_pos positive (Nat.two_pow_pos _)
  have power (n : Nat) : Nearest (n * (denominator * 2 ^ scale)) (denominator * 2 ^ scale) n :=
    ⟨by omega, by omega, by omega⟩
  -- The ends of a binade are rounded to themselves, and rounding keeps the order.
  refine ⟨rounded.le step (power _) grid.below.le, ?_⟩
  rcases grid.above with lowest | above
  · exact .inl lowest
  · exact .inr ((power _).le step rounded above)

end

/-- The least magnitude that is too great: halfway from the greatest finite number to the next power
of two. -/
def overflow : Nat := (2 ^ 54 - 1) * twoTo 970

/-- How a ratio is rounded: on the grid of its binade, to parts of a finite number. -/
structure Rounded (negative : Bool) (numerator denominator significand scale : Nat) : Prop where
  grid : Binade (numerator * twoTo 1074) denominator scale
  nearest : Nearest (numerator * twoTo 1074) (denominator * 2 ^ scale) significand
  parts : Parts significand scale
  bits : (ofRatio negative numerator denominator).bits.toNat =
    code significand scale + signBit negative

section

variable {numerator denominator : Nat}

/-- A ratio below the bound does not become infinite by rounding. -/
theorem Nearest.finite {lifted scale quotient : Nat} (positive : 0 < denominator)
    (small : lifted < overflow * twoTo 1074 * denominator) (grid : Binade lifted denominator scale)
    (rounded : Nearest lifted (denominator * 2 ^ scale) quotient) :
    code quotient scale < 2047 * 2 ^ 52 := by
  have step : 0 < denominator * twoTo 2044 := Nat.mul_pos positive (twoTo_pos _)
  have limit : overflow * twoTo 1074 * denominator = (2 ^ 54 - 1) * (denominator * twoTo 2044) := by
    have halves : twoTo 2044 = twoTo 970 * twoTo 1074 := twoTo_add 970 1074
    rw [overflow, halves]
    ring
  obtain ⟨below, above⟩ := rounded.parts positive grid
  simp only [code, twoTo_eq]
  rw [limit] at small
  rcases Nat.lt_or_ge scale 2045 with low | high
  · omega
  · -- In the highest binade the limit itself would be rounded up to the power of two.
    obtain ⟨more, rfl⟩ : ∃ more, scale = 2044 + 1 + more := ⟨scale - 2045, by omega⟩
    have doubled (n : Nat) : denominator * 2 ^ (n + 1 + more) =
        2 * (denominator * twoTo n) * 2 ^ more := by
      rw [Nat.pow_add, Nat.pow_succ, twoTo_eq]
      ring
    have wide := doubled 2044
    rw [wide] at rounded
    rcases Nat.eq_zero_or_pos more with rfl | higher
    · have low := rounded.low
      by_contra carried
      obtain rfl : quotient = 2 ^ 53 := by omega
      omega
    · have least := grid.above.resolve_left (by omega)
      have double := Nat.pow_le_pow_right (show 0 < 2 by decide) higher
      have wider := Nat.mul_le_mul_left (2 * (denominator * twoTo 2044)) double
      rw [wide] at least
      omega

theorem Rounded.of_nearest (negative : Bool) {significand scale : Nat} (positive : 0 < denominator)
    (grid : Binade (numerator * twoTo 1074) denominator scale)
    (nearest : Nearest (numerator * twoTo 1074) (denominator * 2 ^ scale) significand)
    (finite : code significand scale < 2047 * 2 ^ 52) :
    Rounded negative numerator denominator significand scale := by
  obtain ⟨below, above⟩ := nearest.parts positive grid
  refine ⟨grid, nearest, ⟨below, above, finite⟩, ?_⟩
  rw [ofRatio_bits negative positive grid nearest]
  exact congrArg (· + signBit negative) (Nat.min_eq_left finite.le)

theorem exists_rounded (negative : Bool) (positive : 0 < denominator)
    (small : numerator < overflow * denominator) :
    ∃ significand scale, Rounded negative numerator denominator significand scale := by
  -- Zero lies on the finest grid, anything greater in the binade of its size.
  obtain ⟨scale, grid⟩ : ∃ scale, Binade (numerator * twoTo 1074) denominator scale := by
    rcases Nat.eq_zero_or_pos numerator with rfl | some
    · refine ⟨0, ?_, .inl rfl⟩
      simpa using positive
    · exact ⟨_, exists_binade (Nat.mul_pos some (twoTo_pos _)) positive⟩
  have step : 0 < denominator * 2 ^ scale := Nat.mul_pos positive (Nat.two_pow_pos _)
  have nearest := nearest_roundedQuotient (numerator * twoTo 1074) step
  have lifted : numerator * twoTo 1074 < overflow * twoTo 1074 * denominator := by
    calc numerator * twoTo 1074 < overflow * denominator * twoTo 1074 :=
        Nat.mul_lt_mul_of_pos_right small (twoTo_pos _)
      _ = overflow * twoTo 1074 * denominator := by ring
  exact ⟨_, scale, .of_nearest negative positive grid nearest
    (nearest.finite positive lifted grid)⟩

/-- A rounded ratio is off by half a step of its grid at most: by a part in `2 ^ 53`, or by half of
the smallest step. -/
theorem Rounded.near {negative : Bool} {significand scale : Nat}
    (rounded : Rounded negative numerator denominator significand scale)
    (positive : 0 < denominator) :
    |(ofRatio negative numerator denominator).magnitude - (numerator : ℚ) / denominator| ≤
      max ((numerator : ℚ) / denominator / 2 ^ 53) (smallestStep / 2) := by
  obtain ⟨⟨-, above⟩, ⟨low, high, -⟩, parts, bits⟩ := rounded
  have unit : (0 : ℚ) < denominator := by exact_mod_cast positive
  have whole : (0 : ℚ) < twoTo 1074 := by exact_mod_cast twoTo_pos 1074
  rw [magnitude, parts.units bits, smallestStep]
  generalize twoTo 1074 = lift at *
  have lower : 2 * ((significand : ℚ) * (denominator * 2 ^ scale)) ≤
      2 * (numerator * lift) + denominator * 2 ^ scale := by exact_mod_cast low
  have upper : 2 * ((numerator : ℚ) * lift) ≤
      2 * (significand * (denominator * 2 ^ scale)) + denominator * 2 ^ scale := by
    exact_mod_cast high
  have apart : |((significand * 2 ^ scale : Nat) : ℚ) * (1 / lift) - numerator / denominator| ≤
      2 ^ scale / (2 * lift) := by
    have difference : ((significand * 2 ^ scale : Nat) : ℚ) * (1 / lift) -
        numerator / denominator =
          (significand * (denominator * 2 ^ scale) - numerator * lift) / (denominator * lift) := by
      push_cast
      field_simp
    have half : (2 : ℚ) ^ scale / (2 * lift) =
        denominator * 2 ^ scale / 2 / (denominator * lift) := by
      field_simp
    rw [difference, half, abs_div, abs_of_pos (mul_pos unit whole)]
    gcongr
    rw [abs_le]
    constructor <;> linarith
  refine apart.trans ?_
  -- Half a step is that of the smallest step on the finest grid, a part of the ratio on others.
  rcases above with rfl | above
  · refine le_max_of_le_right (le_of_eq ?_)
    field_simp
  · refine le_max_of_le_left ?_
    have least : 2 ^ 52 * ((denominator : ℚ) * 2 ^ scale) ≤ numerator * lift := by
      exact_mod_cast above
    rw [div_div, div_le_div_iff₀ (by positivity) (by positivity)]
    linarith

/-- Of two ratios, the greater one is not rounded to the smaller number. -/
theorem Rounded.units_le {negative : Bool} {greater significand scale : Nat}
    {other : Bool} {above higher : Nat}
    (first : Rounded negative numerator denominator significand scale)
    (second : Rounded other greater denominator above higher) (positive : 0 < denominator)
    (ordered : numerator ≤ greater) : significand * 2 ^ scale ≤ above * 2 ^ higher := by
  have lifted : numerator * twoTo 1074 ≤ greater * twoTo 1074 := Nat.mul_le_mul_right _ ordered
  have scales := second.grid.le first.grid lifted
  rcases Nat.eq_or_lt_of_le scales with rfl | less
  · have step : 0 < denominator * 2 ^ scale := Nat.mul_pos positive (Nat.two_pow_pos _)
    exact Nat.mul_le_mul_right _ (first.nearest.le step second.nearest lifted)
  · -- The whole of a lower binade lies below the significands of a higher one.
    have normal := second.parts.above.resolve_left (by omega)
    calc significand * 2 ^ scale ≤ 2 ^ 53 * 2 ^ scale := Nat.mul_le_mul_right _ first.parts.below
      _ = 2 ^ 52 * 2 ^ (scale + 1) := by ring
      _ ≤ 2 ^ 52 * 2 ^ higher :=
        Nat.mul_le_mul_left _ (Nat.pow_le_pow_right (by decide) less)
      _ ≤ above * 2 ^ higher := Nat.mul_le_mul_right _ normal

/-- A ratio that is on the grid is not changed. -/
theorem Rounded.exact {negative : Bool} {significand scale held : Nat}
    (rounded : Rounded negative numerator denominator significand scale)
    (positive : 0 < denominator)
    (holds : held * (denominator * 2 ^ scale) = numerator * twoTo 1074) :
    significand = held := by
  have step : 0 < denominator * 2 ^ scale := Nat.mul_pos positive (Nat.two_pow_pos _)
  have itself : Nearest (numerator * twoTo 1074) (denominator * 2 ^ scale) held :=
    ⟨by omega, by omega, by omega⟩
  exact rounded.nearest.unique step itself

end

/-! ### Signs -/

theorem xor_two_pow {n : Nat} (small : n < 2 ^ 63) : n ^^^ 2 ^ 63 = n + 2 ^ 63 := by
  have sum : n + 2 ^ 63 = 2 ^ 63 * 1 + n := by ring
  apply Nat.eq_of_testBit_eq
  intro i
  -- Below the sixty-third bit both have the bits of the number, above it none.
  rw [sum, Nat.testBit_two_pow_mul_add 1 small, Nat.testBit_xor, Nat.testBit_two_pow]
  by_cases low : i < 63
  · have other : ¬63 = i := by omega
    simp [low, other]
  · have zero : n.testBit i = false := by
      apply Nat.testBit_lt_two_pow
      exact lt_of_lt_of_le small (Nat.pow_le_pow_right (by decide) (by omega))
    rw [zero, if_neg low, Bool.false_xor, Bool.eq_iff_iff,
      Nat.testBit_one_eq_true_iff_self_eq_zero, decide_eq_true_eq]
    omega

theorem negate_ofRatio (numerator denominator : Nat) :
    (ofRatio false numerator denominator).negate = ofRatio true numerator denominator := by
  -- The sign is added to the same bits in either case.
  obtain ⟨magnitude, small, shape⟩ : ∃ magnitude ≤ 2047 * 2 ^ 52, ∀ negative,
      ofRatio negative numerator denominator =
        ⟨UInt64.ofNat (magnitude + if negative then twoTo 63 else 0)⟩ := by
    refine ⟨_, ?_, fun _ => rfl⟩
    split
    · exact Nat.zero_le _
    · exact Nat.min_le_right _ _
  have bit : (0x8000000000000000 : UInt64).toNat = 2 ^ 63 := rfl
  rw [shape, shape, negate, mk.injEq, ← UInt64.toNat_inj, UInt64.toNat_xor, bit,
    toNat_ofNat_signed small, toNat_ofNat_signed small]
  simp only [signBit, Bool.false_eq_true, if_false, if_true, Nat.add_zero]
  exact xor_two_pow (by omega)

end VendorSql.Binary64
