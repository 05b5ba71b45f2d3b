import VendorSql.Datum
import VendorSql.Number.Decimal

/-!
# Reading JSON

A JSON text is read into a tree of data. An integer that fits 64 bits stays an integer; any other
number is a floating-point number: its leading digits as far as they fit 64 bits, times or divided
by a power of ten, each step rounded to the nearest. That is quick, and for most numbers near the
nearest one but not always it; the notation does not settle how a decimal is to be rounded. A number
beyond the greatest finite one and a text with half of a surrogate pair are well written but have no
value.
-/
namespace VendorSql.Json

open Number (tenTo twoTo)

def isBlank (c : Char) : Bool :=
  c == ' ' || c == '\t' || c == '\n' || c == '\r'

def skipBlanks (chars : List Char) : List Char :=
  chars.dropWhile isBlank

/-! ### Strings -/

def hexDigit? (c : Char) : Option Nat :=
  if c.isDigit then some (c.toNat - '0'.toNat)
  else if 'a' ≤ c ∧ c ≤ 'f' then some (c.toNat - 'a'.toNat + 10)
  else if 'A' ≤ c ∧ c ≤ 'F' then some (c.toNat - 'A'.toNat + 10)
  else none

def hexNumber? (digits : List Char) : Option Nat :=
  digits.foldlM (fun number c => (hexDigit? c).map (16 * number + ·)) 0

/-- The character that a letter after a backslash stands for. -/
def escapedChar? (letter : Char) : Option Char :=
  match letter with
  | '"' => some '"'
  | '\\' => some '\\'
  | '/' => some '/'
  | 'b' => some '\x08'
  | 'f' => some '\x0c'
  | 'n' => some '\n'
  | 'r' => some '\r'
  | 't' => some '\t'
  | _ => none

/-- The code points, and halves of surrogate pairs, up to the closing quote, and the text after it.
Controls have to be written as escapes. -/
def stringCodes : List Char → Option (List Nat × List Char)
  | [] => none
  | '"' :: rest => some ([], rest)
  | '\\' :: 'u' :: a :: b :: c :: d :: rest => do
    let code ← hexNumber? [a, b, c, d]
    let (codes, rest) ← stringCodes rest
    some (code :: codes, rest)
  | '\\' :: letter :: rest => do
    let char ← escapedChar? letter
    let (codes, rest) ← stringCodes rest
    some (char.toNat :: codes, rest)
  | char :: rest => do
    if char = '\\' ∨ char.toNat < 0x20 then none
    else
      let (codes, rest) ← stringCodes rest
      some (char.toNat :: codes, rest)

def isHighSurrogate (code : Nat) : Bool := 0xd800 ≤ code && code < 0xdc00

def isLowSurrogate (code : Nat) : Bool := 0xdc00 ≤ code && code < 0xe000

/-- The characters that codes stand for, unless one half of a pair is alone. -/
def charsOfCodes? : List Nat → Option (List Char)
  | [] => some []
  | code :: rest =>
    if isHighSurrogate code then
      match rest with
      | [] => none
      | low :: rest =>
        if isLowSurrogate low then
          (charsOfCodes? rest).map
            (Char.ofNat (0x10000 + (code - 0xd800) * 0x400 + (low - 0xdc00)) :: ·)
        else none
    else if isLowSurrogate code then none
    else (charsOfCodes? rest).map (Char.ofNat code :: ·)

/-! ### Numbers -/

/-- `significand` with digits appended as long as it fits 64 bits, and the digits left over. -/
def appendDigits (significand : Nat) : List Char → Nat × List Char
  | [] => (significand, [])
  | digit :: rest =>
    let longer := 10 * significand + (digit.toNat - '0'.toNat)
    if longer < twoTo 64 then appendDigits longer rest else (significand, digit :: rest)

/-- A number divided by a power of ten, by at most 308 places at a time. -/
def dividedByTens (x : Binary64) (places : Nat) : Binary64 :=
  if places ≤ 308 then x.dividedBy (.ofNat (tenTo places))
  -- Zero stays zero; anything else is divided step by step.
  else if x.significand = 0 then x
  else dividedByTens (x.dividedBy (.ofNat (tenTo 308))) (places - 308)
termination_by places

/-- A positive number times a power of ten, if the result is finite. -/
def timesTens (x : Binary64) (places : Nat) : Option Binary64 :=
  if places ≤ 308 then
    let product := x.times (.ofNat (tenTo places))
    if product.isFinite then some product else none
  else if x.significand = 0 then some x
  else none

/-- A floating-point number given by its parts. The digits are rounded before they are scaled, so
the result may miss the number that is nearest. -/
def float (negative : Bool) (significand : Nat) (exponent : Int) : Datum :=
  let magnitude := match exponent with
    | .ofNat places => timesTens (.ofNat significand) places
    | .negSucc places => some (dividedByTens (.ofNat significand) (places + 1))
  match magnitude with
  | some magnitude => .float (if negative then magnitude.negate else magnitude)
  | none => .unreadable

/-- The value of a number whose parts have been told apart. An exponent that does not fit 32 bits
makes the number zero or puts it out of range. -/
def number (negative : Bool) (whole : List Char) (fraction : Option (List Char))
    (exponent : Option (Bool × List Char)) : Datum :=
  let (significand, left) := appendDigits 0 whole
  if fraction.isNone ∧ exponent.isNone ∧ left = [] then
    if !negative then .int significand
    -- A negative zero and a negative number below the least of 64 bits have no integer.
    else if 0 < significand ∧ significand ≤ twoTo 63 then .int (-(significand : Int))
    else .float (Binary64.ofNat significand).negate
  else
    let (significand, unread) := appendDigits significand (fraction.getD [])
    -- Digits of the whole part that did not fit move the point, those of the fraction that did move
    -- it back.
    let start : Int := left.length - ((fraction.getD []).length - unread.length : Nat)
    match exponent with
    | none => float negative significand start
    | some (down, digits) =>
      let size := Nat.ofDigitChars 10 digits 0
      if size < twoTo 31 then
        float negative significand (if down then start - size else start + size)
      -- The exponent alone puts the number out of range or makes it vanish.
      else if significand ≠ 0 ∧ !down then .unreadable
      else .float (if negative then (Binary64.ofNat 0).negate else .ofNat 0)

/-- One or more digits, and the text after them. -/
def digits? (chars : List Char) : Option (List Char × List Char) :=
  let digits := chars.takeWhile Char.isDigit
  if digits = [] then none else some (digits, chars.dropWhile Char.isDigit)

/-- The fraction of a number, if one follows. -/
def fraction? : List Char → Option (Option (List Char) × List Char)
  | '.' :: rest => (digits? rest).map fun (digits, rest) => (some digits, rest)
  | rest => some (none, rest)

/-- The exponent of a number, if one follows: whether it is negative, and its digits. -/
def exponent? : List Char → Option (Option (Bool × List Char) × List Char)
  | c :: rest =>
    if c = 'e' ∨ c = 'E' then
      let (down, rest) := match rest with
        | '-' :: rest => (true, rest)
        | '+' :: rest => (false, rest)
        | rest => (false, rest)
      (digits? rest).map fun (digits, rest) => (some (down, digits), rest)
    else some (none, c :: rest)
  | [] => some (none, [])

/-- A number without its sign, and the text after it. A zero in front stands alone. -/
def unsigned? (negative : Bool) (chars : List Char) : Option (Datum × List Char) := do
  let (whole, rest) ← digits? chars
  -- A zero in front stands alone.
  if 1 < whole.length ∧ whole.head? = some '0' then none
  else
    let (fraction, rest) ← fraction? rest
    let (exponent, rest) ← exponent? rest
    some (number negative whole fraction exponent, rest)

/-! ### Values -/

/-- A string without its opening quote. -/
def string? (chars : List Char) : Option (Option String × List Char) :=
  (stringCodes chars).map fun (codes, rest) => ((charsOfCodes? codes).map String.ofList, rest)

/-- A table, which has no value if one of its keys has none. -/
def tableOf (entries : List (Option String × Datum)) : Datum :=
  match entries.mapM fun (key, value) => key.map (·, value) with
  | some entries => .table entries
  | none => .unreadable

mutual

/-- A value at the beginning of the text, and the text after it. -/
def value? : Nat → List Char → Option (Datum × List Char)
  | 0, _ => none
  | fuel + 1, chars =>
    match chars with
    | 'n' :: 'u' :: 'l' :: 'l' :: rest => some (.null, rest)
    | 't' :: 'r' :: 'u' :: 'e' :: rest => some (.bool true, rest)
    | 'f' :: 'a' :: 'l' :: 's' :: 'e' :: rest => some (.bool false, rest)
    | '"' :: rest =>
      (string? rest).map fun (text, rest) => ((text.map Datum.text).getD .unreadable, rest)
    | '[' :: rest =>
      match skipBlanks rest with
      | ']' :: rest => some (.list [], rest)
      | rest => (items? fuel rest).map fun (items, rest) => (.list items, rest)
    | '{' :: rest =>
      match skipBlanks rest with
      | '}' :: rest => some (.table [], rest)
      | rest => (entries? fuel rest).map fun (entries, rest) => (tableOf entries, rest)
    | '-' :: rest => unsigned? true rest
    | rest => unsigned? false rest

/-- The items of a list that has at least one, through the closing bracket. -/
def items? : Nat → List Char → Option (List Datum × List Char)
  | 0, _ => none
  | fuel + 1, chars => do
    let (item, rest) ← value? fuel chars
    match skipBlanks rest with
    | ',' :: rest =>
      let (items, rest) ← items? fuel (skipBlanks rest)
      some (item :: items, rest)
    | ']' :: rest => some ([item], rest)
    | _ => none

/-- The entries of a table that has at least one, through the closing brace. -/
def entries? : Nat → List Char → Option (List (Option String × Datum) × List Char)
  | 0, _ => none
  | fuel + 1, chars =>
    match chars with
    | '"' :: rest => do
      let (key, rest) ← string? rest
      match skipBlanks rest with
      | ':' :: rest =>
        let (value, rest) ← value? fuel (skipBlanks rest)
        match skipBlanks rest with
        | ',' :: rest =>
          let (entries, rest) ← entries? fuel (skipBlanks rest)
          some ((key, value) :: entries, rest)
        | '}' :: rest => some ([(key, value)], rest)
        | _ => none
      | _ => none
    | _ => none

end

/-- The tree a JSON text stands for. Every step of reading takes a character or opens a list or
table, so twice the length bounds their number. -/
def parse? (text : String) : Option Datum := do
  let chars := text.toList
  let (datum, rest) ← value? (2 * chars.length + 2) (skipBlanks chars)
  if skipBlanks rest = [] then some datum else none

end VendorSql.Json
