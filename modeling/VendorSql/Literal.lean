import VendorSql.Number.Decimal

/-!
# String literals

A text becomes one SQL expression between single quotes. A quote inside is written twice. Vendors
differ in whether the backslash is an escape character and in what becomes of line breaks: they stay
as they are, become an escape, or interrupt the literal with a call of a character function.
-/
namespace VendorSql

/-- What becomes of a carriage return or line feed inside a literal. -/
inductive LineBreaks where
  /-- The literal is closed, `function` of the character's code is joined on both sides with
  `operator`, and the literal is opened again. -/
  | concat (operator function : String)
  /-- A backslash and the letter `r` or `n`. -/
  | escape
  /-- The character itself. -/
  | verbatim
  deriving Repr, DecidableEq

/-- The rules of a vendor for string literals. -/
structure LiteralStyle where
  /-- The backslash is an escape character, so it has to be escaped itself. -/
  backslashEscapes : Bool := false
  lineBreaks : LineBreaks := .verbatim
  deriving Repr, DecidableEq

namespace LiteralStyle

/-- The rules of the SQL standard: only the quote is special. -/
def standard : LiteralStyle := {}

def lineBreak (style : LiteralStyle) (c : Char) : List Char :=
  match style.lineBreaks with
  | .concat operator function =>
    ['\''] ++ operator.toList ++ function.toList ++ ['('] ++ Nat.toDigits 10 c.toNat ++ [')'] ++
      operator.toList ++ ['\'']
  | .escape => ['\\', if c = '\r' then 'r' else 'n']
  | .verbatim => [c]

def encodeChar (style : LiteralStyle) (c : Char) : List Char :=
  if c = '\'' then ['\'', '\'']
  else if c = '\\' ∧ style.backslashEscapes then ['\\', '\\']
  else if c = '\r' ∨ c = '\n' then style.lineBreak c
  else [c]

/-- A text between single quotes. -/
def encode (style : LiteralStyle) (value : List Char) : List Char :=
  '\'' :: value.flatMap style.encodeChar ++ ['\'']

def quote (style : LiteralStyle) (value : String) : String :=
  String.ofList (style.encode value.toList)

end LiteralStyle

end VendorSql
