import VendorSql.Datum
import VendorSql.Number.Decimal
import VendorSql.Number.Shortest

/-!
# Writing JSON

A tree of data is written on one line without blanks, or laid out with one entry a line and two
spaces for each level. Only what must be escaped in a string is. A floating-point number has the
fewest digits that tell it apart, a point among them if it stands within the first sixteen places,
and an exponent with its sign otherwise; what is not finite has no notation and is written as null.
-/
namespace VendorSql.Json

def escape (c : Char) : List Char :=
  if c = '"' then ['\\', '"']
  else if c = '\\' then ['\\', '\\']
  else if c = '\x08' then ['\\', 'b']
  else if c = '\t' then ['\\', 't']
  else if c = '\n' then ['\\', 'n']
  else if c = '\x0c' then ['\\', 'f']
  else if c = '\r' then ['\\', 'r']
  else if c.toNat < 0x20 then
    ['\\', 'u', '0', '0', Nat.digitChar (c.toNat / 16), Nat.digitChar (c.toNat % 16)]
  else [c]

/-- A text between double quotes. -/
def stringChars (text : String) : List Char :=
  '"' :: text.toList.flatMap escape ++ ['"']

/-- A decimal in digits: `places` is where the point falls, counted from the first digit. -/
def decimalLayout (decimal : Binary64.Decimal) : List Char :=
  let digits := Nat.toDigits 10 decimal.digits
  let places := digits.length + decimal.exponent
  if decimal.digits = 0 then ['0', '.', '0']
  else if 0 ≤ decimal.exponent ∧ places ≤ 16 then
    digits ++ List.replicate decimal.exponent.toNat '0' ++ ['.', '0']
  else if 0 < places ∧ places ≤ 16 then
    digits.take places.toNat ++ ['.'] ++ digits.drop places.toNat
  else if -5 < places ∧ places ≤ 0 then
    ['0', '.'] ++ List.replicate (-places).toNat '0' ++ digits
  else
    digits.take 1 ++ (if digits.length = 1 then [] else '.' :: digits.drop 1) ++
      (if 0 < places then ['e', '+'] else ['e']) ++ Number.decimalChars (places - 1)

def floatChars (x : Binary64) : List Char :=
  if x.isFinite then (if x.isNegative then ['-'] else []) ++ decimalLayout x.shortest
  else "null".toList

mutual

def compactChars : Datum → List Char
  | .null | .unreadable => "null".toList
  | .bool value => if value then "true".toList else "false".toList
  | .int value => Number.decimalChars value
  | .float value => floatChars value
  | .text text | .moment text => stringChars text
  | .list items => '[' :: compactItems items ++ [']']
  | .table entries => '{' :: compactEntries entries ++ ['}']

def compactItems : List Datum → List Char
  | [] => []
  | [item] => compactChars item
  | item :: rest => compactChars item ++ ',' :: compactItems rest

def compactEntries : List (String × Datum) → List Char
  | [] => []
  | [(key, value)] => stringChars key ++ ':' :: compactChars value
  | (key, value) :: rest =>
    stringChars key ++ ':' :: compactChars value ++ ',' :: compactEntries rest

end

/-- A new line with two spaces for each level. -/
def newLine (level : Nat) : List Char :=
  '\n' :: List.replicate (2 * level) ' '

mutual

/-- A tree laid out, its first line at `level`. -/
def prettyChars (level : Nat) : Datum → List Char
  | .list (item :: items) =>
    '[' :: prettyItems (level + 1) (item :: items) ++ newLine level ++ [']']
  | .table (entry :: entries) =>
    '{' :: prettyEntries (level + 1) (entry :: entries) ++ newLine level ++ ['}']
  | datum => compactChars datum

def prettyItems (level : Nat) : List Datum → List Char
  | [] => []
  | [item] => newLine level ++ prettyChars level item
  | item :: rest => newLine level ++ prettyChars level item ++ ',' :: prettyItems level rest

def prettyEntries (level : Nat) : List (String × Datum) → List Char
  | [] => []
  | [(key, value)] => newLine level ++ stringChars key ++ ':' :: ' ' :: prettyChars level value
  | (key, value) :: rest =>
    newLine level ++ stringChars key ++ ':' :: ' ' :: prettyChars level value ++
      ',' :: prettyEntries level rest

end

/-- A tree as JSON on one line. -/
def compact (datum : Datum) : String :=
  String.ofList (compactChars datum)

/-- A tree as JSON, laid out. -/
def pretty (datum : Datum) : String :=
  String.ofList (prettyChars 0 datum)

end VendorSql.Json
