import VendorSql.Text.Alphabetic
import VendorSql.Text.CharClass

/-!
# Identifiers

A plain identifier consists of letters, digits and underscores of any script and does not begin
with a digit. Any other name has to stand between the identifier quotes of the vendor, and there a
closing quote inside the name is written twice, so that only a single one ends the identifier.
-/
namespace VendorSql

/-- Whether a character may begin a plain identifier. -/
def beginsIdentifier (c : Char) : Bool :=
  Text.isAlphabetic c || c == '_'

/-- Whether a character may stand inside a plain identifier. -/
def continuesIdentifier (c : Char) : Bool :=
  Text.isAlphabetic c || Text.isNumeric c || c == '_'

def isPlainChars : List Char → Bool
  | [] => false
  | c :: rest => beginsIdentifier c && rest.all continuesIdentifier

/-- Whether a name is an identifier that needs no quotes. -/
def isPlainIdentifier (name : String) : Bool :=
  isPlainChars name.toList

/-- The pair of quotes around an identifier. -/
structure IdentifierQuotes where
  opening : String := "\""
  closing : String := "\""
  deriving Repr, DecidableEq

namespace IdentifierQuotes

/-- The text with every occurrence of `closing` written twice, from the left and without overlap;
`skip` characters belong to an occurrence that has been written. -/
def doubleFrom (closing : List Char) : Nat → List Char → List Char
  | _, [] => []
  | skip + 1, _ :: rest => doubleFrom closing skip rest
  | 0, c :: rest =>
    if closing.isPrefixOf (c :: rest) then
      closing ++ closing ++ doubleFrom closing (closing.length - 1) rest
    else c :: doubleFrom closing 0 rest

/-- The text with every occurrence of a closing quote written twice. A quote without characters
occurs nowhere. -/
def double (closing text : List Char) : List Char :=
  if closing = [] then text else doubleFrom closing 0 text

def enclose (quotes : IdentifierQuotes) (name : String) : String :=
  quotes.opening ++ String.ofList (double quotes.closing.toList name.toList) ++ quotes.closing

/-- Whether a name stands between the quotes already, with something in between. -/
def encloses (quotes : IdentifierQuotes) (name : String) : Bool :=
  quotes.opening.toList.length + quotes.closing.toList.length < name.toList.length &&
    quotes.opening.toList.isPrefixOf name.toList && quotes.closing.toList.isSuffixOf name.toList

end IdentifierQuotes

end VendorSql
