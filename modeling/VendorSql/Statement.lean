import VendorSql.Profile

/-!
# Statements

The statements and queries of a profile. They change the columns of a table, look at its fields,
lock it, work with sequences and ask the catalog. Where a vendor has no such statement there is
none. Names of tables and columns are written as they are given, so they are expected to be quoted
already; names that narrow a query of the catalog down are written as strings.
-/
namespace VendorSql

/-- The name under which an indexed column is returned. -/
def indexColumnAlias : String := "column_name"

/-- The name under which the greatest value of a field is returned. -/
def maximumAlias : String := "max_value"

namespace Profile

/-! ### Columns of a table -/

def addColumn (profile : Profile) (table : String) (column : Column) (keys : KeyColumns) : String :=
  let verb := match profile.grammar with
    | some .postgreSql => " ADD COLUMN "
    | _ => " ADD "
  "ALTER TABLE " ++ table ++ verb ++ profile.define column keys true false

def modifyColumn (profile : Profile) (table : String) (column : Column) (keys : KeyColumns) :
    String :=
  let change := match profile.grammar with
    | some .sqlServer => " ALTER COLUMN " ++ profile.define column keys true false
    | some .postgreSql =>
      " ALTER COLUMN " ++ column.name ++ " TYPE " ++ profile.define column keys false false
    | some .generic =>
      " ALTER COLUMN " ++ column.name ++ " SET DATA TYPE " ++ profile.define column keys false false
    | some .mySql | none => " MODIFY " ++ profile.define column keys true false
  "ALTER TABLE " ++ table ++ change

def dropColumn (profile : Profile) (table : String) (column : Column) : String :=
  let verb := match profile.grammar with
    | some .mySql => " DROP "
    | _ => " DROP COLUMN "
  "ALTER TABLE " ++ table ++ verb ++ column.name

/-! ### Fields and values of a table -/

/-- A query for `fields` of a table that returns next to no rows. -/
def probe (profile : Profile) (fields table : String) : String :=
  match profile.grammar with
  | some .sqlServer => "SELECT TOP 1 " ++ fields ++ " FROM " ++ table
  | some .generic => "SELECT " ++ fields ++ " FROM " ++ table ++ " WHERE 1=0"
  | _ => "SELECT " ++ fields ++ " FROM " ++ table ++ " LIMIT 1"

def fieldsQuery (profile : Profile) (table : String) : String :=
  profile.probe "*" table

/-- A query that fails unless the table exists. -/
def tableExistsQuery (profile : Profile) (table : String) : String :=
  profile.fieldsQuery table

/-- A query that fails unless the table has the column. -/
def columnExistsQuery (profile : Profile) (column table : String) : String :=
  profile.probe column table

def maximumQuery (_profile : Profile) (table field : String) : String :=
  "SELECT MAX(" ++ field ++ ") AS " ++ maximumAlias ++ " FROM " ++ table

/-- Inserts the unknown member of a slowly changing dimension. Where the database numbers the keys
by itself, only the version is given. -/
def insertUnknownMember (profile : Profile) (table key version : String) : String :=
  match profile.grammar with
  | some .sqlServer => "insert into " ++ table ++ "(" ++ version ++ ") values (1)"
  | _ => "insert into " ++ table ++ "(" ++ key ++ ", " ++ version ++ ") values (0, 1)"

/-! ### Locks

There are no statements where no table is named or a vendor locks none, and none to release locks
that end with the transaction. -/

/-- A query that holds an update lock on a table. -/
def holdLock (table : String) : String :=
  "SELECT top 0 * FROM " ++ table ++ " WITH (UPDLOCK, HOLDLOCK);\n"

/-- A statement that locks a table until the transaction ends. -/
def exclusiveLock (table : String) : String :=
  "LOCK TABLE " ++ table ++ " IN ACCESS EXCLUSIVE MODE;\n"

/-- One table in a list of tables to be locked. -/
def writeLock (table : String) : String :=
  table ++ " WRITE"

def lockTables? (profile : Profile) (tables : List String) : Option String :=
  if tables = [] then none
  else match profile.grammar with
    | some .sqlServer => some (String.join (tables.map holdLock))
    | some .postgreSql => some (String.join (tables.map exclusiveLock))
    | some .mySql => some ("LOCK TABLES " ++ String.intercalate ", " (tables.map writeLock) ++ ";")
    | some .generic | none => none

/-- Releases the locks, all that are held by the session whatever tables are named. -/
def unlockTables? (profile : Profile) (tables : List String) : Option String :=
  if tables = [] then none
  else match profile.grammar with
    | some .mySql => some "UNLOCK TABLES;"
    | _ => none

/-! ### Sequences

The name of a sequence is written as a string, but for the next value of SQL Server, which takes it
as it is given. -/

def sequencesQuery? (profile : Profile) : Option String :=
  match profile.grammar, profile.capabilities.sequences with
  | some .sqlServer, true => some "SELECT name FROM sys.sequences"
  | some .postgreSql, true =>
    some "SELECT relname AS sequence_name FROM pg_catalog.pg_statio_all_sequences"
  | _, _ => none

def nextValueQuery? (profile : Profile) (sequence : String) : Option String :=
  match profile.grammar, profile.capabilities.sequences with
  | some .sqlServer, true => some ("SELECT NEXT VALUE FOR " ++ sequence)
  | some .postgreSql, true => some ("SELECT nextval(" ++ profile.quoteText sequence ++ ")")
  | _, _ => none

def currentValueQuery? (profile : Profile) (sequence : String) : Option String :=
  match profile.grammar, profile.capabilities.sequences with
  | some .sqlServer, true =>
    some ("SELECT current_value FROM sys.sequences WHERE name = " ++ profile.quoteText sequence)
  | some .postgreSql, true => some ("SELECT currval(" ++ profile.quoteText sequence ++ ")")
  | _, _ => none

/-- Returns a row if there is a sequence of that name. -/
def sequenceExistsQuery? (profile : Profile) (sequence : String) : Option String :=
  match profile.grammar, profile.capabilities.sequences with
  | some .sqlServer, true =>
    some ("SELECT 1 FROM sys.sequences WHERE name = " ++ profile.quoteText sequence)
  | some .postgreSql, true =>
    some ("SELECT relname AS sequence_name FROM pg_catalog.pg_statio_all_sequences WHERE relname = "
      ++ profile.quoteText sequence)
  | _, _ => none

/-! ### The catalog -/

def schemasQuery? (profile : Profile) : Option String :=
  match profile.grammar with
  | some .sqlServer => some "select name from sys.schemas"
  | some .postgreSql => some "SELECT nspname FROM pg_catalog.pg_namespace"
  | some .generic =>
    if profile.capabilities.schemas then
      some "SELECT SCHEMA_NAME FROM INFORMATION_SCHEMA.SCHEMATA"
    else none
  | some .mySql | none => none

/-- A condition on the schema, if one is given. -/
def schemaCondition (profile : Profile) (field : String) (schema : Option String) : String :=
  match nonEmpty schema with
  | some schema => field ++ " = " ++ profile.quoteText schema
  | none => ""

/-- Lists the stored procedures of a schema, or all of them. SQL Server lists all in any case. -/
def proceduresQuery? (profile : Profile) (schema : Option String) : Option String :=
  match profile.grammar with
  | some .sqlServer =>
    some ("select o.name from sysobjects o, sysusers u " ++
      "where xtype in ( 'FN', 'P' ) and o.uid = u.uid order by o.name")
  | some .postgreSql =>
    some ("SELECT p.proname FROM pg_catalog.pg_proc p " ++
      "JOIN pg_catalog.pg_namespace n ON n.oid = p.pronamespace" ++
      profile.schemaCondition " WHERE n.nspname" schema ++ " ORDER BY p.proname")
  | some .mySql =>
    some ("SELECT ROUTINE_NAME FROM information_schema.ROUTINES WHERE ROUTINE_TYPE = 'PROCEDURE'" ++
      profile.schemaCondition " AND ROUTINE_SCHEMA" schema)
  | some .generic | none => none

/-- Lists the columns of the indexes of a table. SQL Server is asked for the qualified name in one
string; without a schema, MySQL is asked for the current one. -/
def indexColumnsQuery? (profile : Profile) (schema : Option String) (table : String) :
    Option String :=
  match profile.grammar with
  | some .sqlServer =>
    some ("select i.name table_name, c.name " ++ indexColumnAlias ++
      " from sysindexes i, sysindexkeys k, syscolumns c where i.name = " ++
      profile.quoteText (profile.qualifiedName schema table) ++
      " AND i.id = k.id AND i.id = c.id AND k.colid = c.colid")
  | some .postgreSql =>
    some ("SELECT a.attname AS " ++ indexColumnAlias ++ " FROM pg_catalog.pg_index x " ++
      "JOIN pg_catalog.pg_class t ON t.oid = x.indrelid " ++
      "JOIN pg_catalog.pg_namespace n ON n.oid = t.relnamespace " ++
      "JOIN pg_catalog.pg_attribute a ON a.attrelid = t.oid AND a.attnum = ANY(x.indkey) " ++
      "WHERE t.relname = " ++ profile.quoteText table ++
      profile.schemaCondition " AND n.nspname" schema)
  | some .mySql =>
    some ("SELECT COLUMN_NAME AS " ++ indexColumnAlias ++
      " FROM information_schema.STATISTICS WHERE TABLE_NAME = " ++ profile.quoteText table ++
      match nonEmpty schema with
      | some schema => " AND TABLE_SCHEMA = " ++ profile.quoteText schema
      | none => " AND TABLE_SCHEMA = DATABASE()")
  | some .generic | none => none

end Profile

end VendorSql
