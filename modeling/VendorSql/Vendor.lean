import VendorSql.Text.Case

/-!
# Vendors

The databases with a profile of their own, and the names by which they are asked for.
-/
namespace VendorSql

/-- A database with a built-in profile; `generic` is any other one that speaks standard SQL. -/
inductive Vendor where
  | sqlServer
  | postgreSql
  | mySql
  | generic
  deriving Repr, DecidableEq

namespace Vendor

/-- The vendors in the order in which they are listed. -/
def all : List Vendor := [sqlServer, postgreSql, mySql, generic]

def assumed : Vendor := sqlServer

instance : Inhabited Vendor := ⟨assumed⟩

/-- The short name under which a vendor is registered. -/
def tag : Vendor → String
  | sqlServer => "mssql"
  | postgreSql => "postgresql"
  | mySql => "mysql"
  | generic => "generic"

/-- The vendor a lowercase name or alias stands for. -/
def ofAlias? (name : String) : Option Vendor :=
  if name ∈ ["mssql", "sqlserver", "sql-server", "mssqlnative", "tsql"] then some sqlServer
  else if name ∈ ["postgresql", "postgres", "pg"] then some postgreSql
  else if name ∈ ["mysql", "mysql8", "mariadb"] then some mySql
  else if name ∈ ["generic", "ansi", "odbc"] then some generic
  else none

/-- The vendor a name or alias stands for, in any case. -/
def ofName? (name : String) : Option Vendor :=
  ofAlias? (Text.lower name)

def unknownNameMessage (name : String) : String :=
  "Unknown vendor: '" ++ name ++ "'. Supported vendors: mssql, postgresql, mysql, generic."

end Vendor

end VendorSql
