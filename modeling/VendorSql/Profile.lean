import VendorSql.Attributes
import VendorSql.ColumnType
import VendorSql.Identifier
import VendorSql.Literal
import VendorSql.Vendor

/-!
# Profiles

A profile is everything that is known about one database: what it supports, how it spells types,
literals and identifiers, which words it reserves, and whose statement forms it understands. It is
data; names, literals and statements are functions of it.
-/
namespace VendorSql

/-- How a connection URL is put together. -/
inductive UrlForm where
  /-- Scheme, host, port if there is one, and database. -/
  | server (scheme : String)
  /-- Scheme and database. -/
  | database (scheme : String)
  /-- A complete URL. -/
  | fixed (url : String)
  deriving Repr, DecidableEq

/-- What is known about a database. -/
structure Profile where
  /-- The name of the product. -/
  name : String
  capabilities : Capabilities
  options : CommonOptions
  tokens : TypeTokens
  literals : LiteralStyle := .standard
  quotes : IdentifierQuotes := {}
  /-- Stands between a schema and a table. -/
  separator : String := "."
  reservedWords : List String
  /-- The vendor whose statement forms the database understands, if they are not the standard
  ones. -/
  grammar : Option Vendor := none
  url : UrlForm
  deriving Repr, DecidableEq

def nonEmpty (name : Option String) : Option String :=
  name.filter (· ≠ "")

namespace Profile

/-- The vendor whose grammar a statement of this profile is checked against. -/
def checkedAs (profile : Profile) : Vendor :=
  profile.grammar.getD .generic

def isReserved (profile : Profile) (word : String) : Bool :=
  profile.reservedWords.any (Text.equalIgnoringCase · word)

def quoteIdentifier (profile : Profile) (name : String) : String :=
  profile.quotes.enclose name

/-- A name in the forced case, and between quotes if it would not be read as an identifier without
them. A name that stands between quotes already is left alone, and so is the empty one. -/
def quoteName (profile : Profile) (name : String) : String :=
  if name = "" then ""
  else if profile.quotes.encloses name then name
  else
    let folded := profile.options.foldCase name
    if profile.options.quoteAll || profile.isReserved folded || !isPlainIdentifier folded then
      profile.quoteIdentifier folded
    else folded

/-- A schema and a table, both quoted already, in one name. -/
def combine (profile : Profile) (schema table : String) : String :=
  schema ++ profile.separator ++ table

/-- The name of a table in a schema, or of the table alone if there is no schema. -/
def qualifiedName (profile : Profile) (schema : Option String) (table : String) : String :=
  match nonEmpty schema with
  | some schema => profile.combine (profile.quoteName schema) (profile.quoteName table)
  | none => profile.quoteName table

def quoteText (profile : Profile) (value : String) : String :=
  profile.literals.quote value

/-- The definition of a column, with its name and a line break if asked for. -/
def define (profile : Profile) (column : Column) (keys : KeyColumns)
    (withName withLineBreak : Bool) : String :=
  columnDefinition profile.tokens profile.capabilities column keys withName withLineBreak

/-- The URL of a database; an empty port is left out. -/
def connectionUrl (profile : Profile) (host port database : String) : String :=
  match profile.url with
  | .server scheme =>
    scheme ++ "://" ++ host ++ (if port = "" then "" else ":" ++ port) ++ "/" ++ database
  | .database scheme => scheme ++ ":" ++ database
  | .fixed url => url

end Profile

end VendorSql
