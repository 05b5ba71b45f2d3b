import VendorSql.Statement

/-!
# Altering a table column by column

The same change is made with each of a list of columns, one statement for each. A column whose type
has no name in the database is worth a warning wherever the type is written, which is everywhere but
in a statement that drops the column. So is, if that is to be verified, a statement that a parser of
the vendor's grammar finds at fault; such a parser is not part of this library.
-/
namespace VendorSql

/-- What is done with a column of a table. -/
inductive Alteration where
  | add
  | modify
  | drop
  deriving Repr, DecidableEq

/-- The fault that a parser of a vendor's grammar finds in a statement, if it finds one. -/
abbrev StatementParser := Vendor → String → Option String

/-- A statement, the column it is about, and what is worth a warning. -/
structure Generated where
  column : String
  sql : String
  warnings : List String
  deriving Repr, DecidableEq

namespace Alteration

def ofName? (name : String) : Option Alteration :=
  match name with
  | "add" => some add
  | "modify" => some modify
  | "drop" => some drop
  | _ => none

def statement (alteration : Alteration) (profile : Profile) (table : String) (column : Column)
    (keys : KeyColumns) : String :=
  match alteration with
  | add => profile.addColumn table column keys
  | modify => profile.modifyColumn table column keys
  | drop => profile.dropColumn table column

def unmappedTypeWarning (column : Column) : String :=
  "column " ++ column.name ++ " has type '" ++ column.logicalType.name ++ "' with no SQL mapping"

/-- What is said about a statement that does not parse. -/
def faultWarning (profile : Profile) (fault : String) : String :=
  profile.name ++ " does not parse: " ++ fault

/-- What is worth a warning about the change, given what verifying its statement has found. -/
def warnings (alteration : Alteration) (profile : Profile) (column : Column) (keys : KeyColumns)
    (fault : Option String) : List String :=
  (if alteration ≠ drop ∧ profile.define column keys false false = unknownTypeMarker then
    [unmappedTypeWarning column]
  else []) ++ (fault.map (faultWarning profile)).toList

/-- The statement that makes the change, with its warnings. It is checked by the parser that is
given, if one is. -/
def generate (alteration : Alteration) (profile : Profile) (parser : Option StatementParser)
    (table : String) (keys : KeyColumns) (column : Column) : Generated :=
  let sql := alteration.statement profile table column keys
  let fault := parser.bind fun parse => parse profile.checkedAs sql
  { column := column.name, sql, warnings := alteration.warnings profile column keys fault }

end Alteration

end VendorSql
