/-!
# Failures

What can go wrong when a profile is looked up or a database is asked. Building a statement cannot
fail. Each failure is a cause; its wording, its diagnostic code and the table it concerns are
functions of the cause.
-/
namespace VendorSql

/-- A failure reported by the connection to a database. -/
inductive GatewayError where
  | query (text : String)
  | lock (text : String)
  | connection (text : String)
  /-- A failure of the driver underneath, reported in its own words. -/
  | driver (text : String)
  deriving Repr, DecidableEq

def GatewayError.message : GatewayError → String
  | query text => "query failed: " ++ text
  | lock text => "lock error: " ++ text
  | connection text => "connection error: " ++ text
  | driver text => text

inductive Action where
  | lock
  | checkIndex
  | readMaximum
  deriving Repr, DecidableEq

def Action.text : Action → String
  | lock => "lock"
  | checkIndex => "check index"
  | readMaximum => "read max value"

/-- Something a database may lack. -/
inductive Feature where
  | indexIntrospection
  | sequences
  | tableLocks
  deriving Repr, DecidableEq

def Feature.text : Feature → String
  | indexIntrospection => "index introspection"
  | sequences => "sequences"
  | tableLocks => "explicit table locks"

/-- What is wrong with the row that holds the greatest value. -/
inductive RowFault where
  | notInteger
  | overflow
  deriving Repr, DecidableEq

def RowFault.text : RowFault → String
  | notInteger => "max_value is not an integer"
  | overflow => "batch id overflow"

/-- Why an operation failed. -/
inductive Error where
  /-- No profile is registered under the name. -/
  | unknownVendor (name : String)
  /-- The database of this product lacks the feature. -/
  | unsupported (product : String) (feature : Feature)
  /-- The connection failed during an action on a table. -/
  | databaseAccess (action : Action) (table : String) (cause : GatewayError)
  /-- An action under a lock failed, and the lock could not be released afterwards either. -/
  | cleanupFailed (action : Action) (table : String) (cause : Error) (cleanup : GatewayError)
  /-- A row does not carry the value that was asked for. -/
  | unexpectedRow (table : String) (fault : RowFault)
  deriving Repr, DecidableEq

namespace Error

def message : Error → String
  | unknownVendor name => "unknown database vendor '" ++ name ++ "'"
  | unsupported product feature => product ++ " does not support " ++ feature.text
  | databaseAccess action table _ => "unable to " ++ action.text ++ " on table [" ++ table ++ "]"
  | cleanupFailed action table cause cleanup =>
    cause.message ++ "; releasing the lock on [" ++ table ++ "] after " ++ action.text ++
      " also failed: " ++ cleanup.message
  | unexpectedRow table fault => "unexpected row while reading " ++ table ++ ": " ++ fault.text

/-- The stable code of a failure. -/
def code : Error → String
  | unknownVendor _ => "dialect::unknown_vendor"
  | unsupported _ _ => "dialect::unsupported"
  | databaseAccess _ _ _ => "dialect::database_access"
  | cleanupFailed _ _ _ _ => "dialect::cleanup_failed"
  | unexpectedRow _ _ => "dialect::unexpected_row"

/-- What the user can do about a failure. -/
def help : Error → Option String
  | unknownVendor _ =>
    some ("use one of the built-in vendors (mssql, postgresql, mysql, generic) " ++
      "or register a constructor")
  | _ => none

/-- The table a failure concerns. -/
def table? : Error → Option String
  | databaseAccess _ table _ | cleanupFailed _ table _ _ | unexpectedRow table _ => some table
  | unknownVendor _ | unsupported _ _ => none

/-- The reports of the failures behind this one, the nearest first. -/
def causes : Error → List String
  | databaseAccess _ _ cause => [cause.message]
  | cleanupFailed _ _ cause _ => cause.message :: cause.causes
  | unknownVendor _ | unsupported _ _ | unexpectedRow _ _ => []

end Error

end VendorSql
