import VendorSql.Datum
import VendorSql.Number.Decimal
import VendorSql.Toml.Text

/-!
# Numbers, dates and truth values in TOML

A value that is neither a string nor has parts is a word, and the word alone tells what it is.
Digits may be grouped by single underscores. An integer has to fit 64 bits; a number beyond the
greatest finite one is refused if it is positive. Dates and times are checked against the calendar
and kept as text, since nothing in this project asks for their parts.
-/
namespace VendorSql.Toml

open Number (tenTo twoTo)

/-- Digits without the underscores that group them. -/
def ungroup? (isDigit : Char → Bool) : List Char → Option (List Char)
  | [] => none
  | [c] => if isDigit c then some [c] else none
  | c :: '_' :: rest => if isDigit c then (ungroup? isDigit rest).map (c :: ·) else none
  | c :: rest => if isDigit c then (ungroup? isDigit rest).map (c :: ·) else none

/-- Decimal digits without the underscores; a zero in front stands alone. -/
def wholeDigits? (word : List Char) : Option (List Char) :=
  if word.head? = some '0' ∧ word ≠ ['0'] then none else ungroup? Char.isDigit word

def sign : List Char → Bool × List Char
  | '-' :: rest => (true, rest)
  | '+' :: rest => (false, rest)
  | rest => (false, rest)

/-- The number written by digits in a base. -/
def inBase? (base : Nat) (word : List Char) : Option Int := do
  let isDigit (c : Char) : Bool := (Json.hexDigit? c).any (· < base)
  let digits ← ungroup? isDigit word
  some (digits.foldl (fun n c => base * n + (Json.hexDigit? c).getD 0) 0)

def integer? (word : List Char) : Option Int :=
  match word with
  | '0' :: 'x' :: digits => inBase? 16 digits
  | '0' :: 'o' :: digits => inBase? 8 digits
  | '0' :: 'b' :: digits => inBase? 2 digits
  | _ =>
    let (negative, digits) := sign word
    (wholeDigits? digits).map fun digits =>
      let n : Int := Nat.ofDigitChars 10 digits 0
      if negative then -n else n

/-- The floating-point number nearest to `significand · 10 ^ exponent`. A number whose first digit
stands too far from the point is infinite or zero without further work. -/
def nearest (negative : Bool) (significand : Nat) (exponent : Int) : Binary64 :=
  let place := (Nat.toDigits 10 significand).length + exponent
  if significand = 0 ∨ place < -330 then .ofRatio negative 0 1
  else if 310 < place then .ofRatio negative (twoTo 1024) 1
  else match exponent with
    | .ofNat places => .ofRatio negative (significand * tenTo places) 1
    | .negSucc places => .ofRatio negative significand (tenTo (places + 1))

/-- A word that is a number with a fraction or an exponent. -/
def float? (word : List Char) : Option Binary64 := do
  let (negative, word) := sign word
  if word = "inf".toList then some ⟨if negative then 0xfff0000000000000 else 0x7ff0000000000000⟩
  else if word = "nan".toList then
    some ⟨if negative then 0xfff8000000000000 else 0x7ff8000000000000⟩
  else
    let isMark (c : Char) : Bool := c == 'e' || c == 'E'
    let mantissa := word.takeWhile (!isMark ·)
    let (exponent : Int) ← match word.dropWhile (!isMark ·) with
      | [] => some 0
      | _ :: power => do
        let (down, digits) := sign power
        let size : Int := Nat.ofDigitChars 10 (← ungroup? Char.isDigit digits) 0
        some (if down then -size else size)
    let whole ← wholeDigits? (mantissa.takeWhile (· ≠ '.'))
    let fraction ← match mantissa.dropWhile (· ≠ '.') with
      | [] => if word.any isMark then some [] else none
      | _ :: digits => ungroup? Char.isDigit digits
    let significand := Nat.ofDigitChars 10 (whole ++ fraction) 0
    let number := nearest negative significand (exponent - fraction.length)
    if number.isFinite ∨ negative then some number else none

/-! ### Dates and times -/

/-- A number of exactly `count` digits, and the text after it. -/
def fixedNumber? (count : Nat) (chars : List Char) : Option (Nat × List Char) :=
  let digits := chars.take count
  if digits.length = count ∧ digits.all Char.isDigit then
    some (Nat.ofDigitChars 10 digits 0, chars.drop count)
  else none

/-- The text after a mark. -/
def after? (mark : Char) : List Char → Option (List Char)
  | [] => none
  | c :: rest => if c = mark then some rest else none

def daysInMonth (year month : Nat) : Nat :=
  if month = 2 then
    if year % 4 = 0 ∧ (year % 100 ≠ 0 ∨ year % 400 = 0) then 29 else 28
  else if month ∈ [4, 6, 9, 11] then 30
  else 31

def date? (chars : List Char) : Option (List Char) := do
  let (year, rest) ← fixedNumber? 4 chars
  let (month, rest) ← fixedNumber? 2 (← after? '-' rest)
  let (day, rest) ← fixedNumber? 2 (← after? '-' rest)
  if 1 ≤ month ∧ month ≤ 12 ∧ 1 ≤ day ∧ day ≤ daysInMonth year month then some rest else none

/-- The text after hours and minutes. -/
def minutes? (chars : List Char) : Option (List Char) := do
  let (hour, rest) ← fixedNumber? 2 chars
  let (minute, rest) ← fixedNumber? 2 (← after? ':' rest)
  if hour ≤ 23 ∧ minute ≤ 59 then some rest else none

/-- The text after a time of day; a minute may have a leap second. -/
def time? (chars : List Char) : Option (List Char) := do
  let (second, rest) ← fixedNumber? 2 (← after? ':' (← minutes? chars))
  if 60 < second then none
  else match rest with
    | '.' :: fraction =>
      if (fraction.takeWhile Char.isDigit).isEmpty then none
      else some (fraction.dropWhile Char.isDigit)
    | rest => some rest

/-- The text after the distance to universal time, if one follows. -/
def zone? : List Char → Option (List Char)
  | c :: rest =>
    if c = 'Z' ∨ c = 'z' then some rest
    else if c = '+' ∨ c = '-' then minutes? rest
    else some (c :: rest)
  | [] => some []

/-- Whether a word is a date, a time of day, or both. -/
def isMoment (word : List Char) : Bool :=
  time? word = some [] || match date? word with
    | some [] => true
    | some (mark :: rest) =>
      (mark == 'T' || mark == 't' || mark == ' ') && (time? rest).bind zone? = some []
    | none => false

/-! ### Words -/

/-- Whether a character may stand in a word. -/
def isWordChar (c : Char) : Bool := isBare c || c == '+' || c == '.' || c == ':'

/-- The word at the beginning of a text; a time of day that follows a date after a space belongs to
it. -/
def word (chars : List Char) : List Char × List Char :=
  let first := chars.takeWhile isWordChar
  match date? first, chars.dropWhile isWordChar with
  | some [], ' ' :: rest =>
    let second := rest.takeWhile isWordChar
    if (time? second).isSome then (first ++ ' ' :: second, rest.dropWhile isWordChar)
    else (first, ' ' :: rest)
  | _, rest => (first, rest)

def scalar? (word : List Char) : Option Datum :=
  if word = "true".toList then some (.bool true)
  else if word = "false".toList then some (.bool false)
  else if isMoment word then some (.moment (String.ofList word))
  else match integer? word with
    | some n => if (Number.int64? n).isSome then some (.int n) else none
    | none => (float? word).map .float

end VendorSql.Toml
