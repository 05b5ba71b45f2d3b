/-!
# Integers in decimal notation

Written form and reading of integers, and the widths in which the program holds them. Every integer
is read back from its written form, and a number that does not fit a width is refused rather than
reduced.
-/
namespace VendorSql.Number

/-- An integer in decimal digits, with a minus sign in front if it is negative. -/
def decimalChars : Int → List Char
  | .ofNat n => Nat.toDigits 10 n
  | .negSucc n => '-' :: Nat.toDigits 10 (n + 1)

def decimal (n : Int) : String :=
  String.ofList (decimalChars n)

/-- The number written by one or more decimal digits. -/
def readNat? (chars : List Char) : Option Nat :=
  if chars ≠ [] ∧ chars.all Char.isDigit then some (Nat.ofDigitChars 10 chars 0) else none

/-- The integer written by an optional sign and one or more decimal digits. -/
def readInt? : List Char → Option Int
  | '-' :: digits => (readNat? digits).map fun n => -(n : Int)
  | '+' :: digits => (readNat? digits).map fun n => (n : Int)
  | digits => (readNat? digits).map fun n => (n : Int)

/-- The 64-bit signed integer equal to `n`, if there is one. -/
def int64? (n : Int) : Option Int64 :=
  if Int64.minValue.toInt ≤ n ∧ n ≤ Int64.maxValue.toInt then some (Int64.ofInt n) else none

theorem toInt_of_int64? {n : Int} {value : Int64} (valid : int64? n = some value) :
    value.toInt = n := by
  unfold int64? at valid
  split at valid
  next bounds =>
    cases valid
    rw [Int64.toInt_minValue, Int64.toInt_maxValue] at bounds
    exact Int64.toInt_ofInt_of_le bounds.1 (by omega)
  next => cases valid

theorem int64?_eq_some_iff {n : Int} {value : Int64} : int64? n = some value ↔ value.toInt = n := by
  constructor
  · exact toInt_of_int64?
  · rintro rfl
    rw [int64?, if_pos ⟨Int64.minValue_le_toInt value, Int64.toInt_le value⟩, Int64.ofInt_toInt]

def int32? (n : Int) : Option Int32 :=
  if Int32.minValue.toInt ≤ n ∧ n ≤ Int32.maxValue.toInt then some (Int32.ofInt n) else none

theorem int32?_toInt (value : Int32) : int32? value.toInt = some value := by
  rw [int32?, if_pos ⟨Int32.minValue_le_toInt value, Int32.toInt_le value⟩, Int32.ofInt_toInt]

def uint16? (n : Int) : Option UInt16 :=
  if 0 ≤ n ∧ n < UInt16.size then some (UInt16.ofNat n.toNat) else none

theorem uint16?_toNat (value : UInt16) : uint16? value.toNat = some value := by
  have bounds : (0 : Int) ≤ value.toNat ∧ (value.toNat : Int) < UInt16.size :=
    ⟨Int.natCast_nonneg _, Int.ofNat_lt.mpr value.toNat_lt_size⟩
  rw [uint16?, if_pos bounds, Int.toNat_natCast, UInt16.ofNat_toNat]

theorem readNat?_toDigits (n : Nat) : readNat? (Nat.toDigits 10 n) = some n := by
  have digits : (Nat.toDigits 10 n).all Char.isDigit = true :=
    List.all_eq_true.mpr fun c member => Nat.isDigit_of_mem_toDigits (by decide) (by decide) member
  simp [readNat?, Nat.toDigits_ne_nil, digits]

/-- The digits of a number end where something else follows them. -/
theorem toDigits_split (n : Nat) (rest : List Char)
    (ends : ∀ c ∈ rest.head?, c.isDigit = false) :
    (Nat.toDigits 10 n ++ rest).takeWhile Char.isDigit = Nat.toDigits 10 n ∧
      (Nat.toDigits 10 n ++ rest).dropWhile Char.isDigit = rest := by
  have digits : ∀ d ∈ Nat.toDigits 10 n, d.isDigit = true :=
    fun d member => Nat.isDigit_of_mem_toDigits (by decide) (by decide) member
  rw [List.takeWhile_append_of_pos digits, List.dropWhile_append_of_pos digits]
  cases rest with
  | nil => simp
  | cons c rest => simp [ends c rfl]

end VendorSql.Number
