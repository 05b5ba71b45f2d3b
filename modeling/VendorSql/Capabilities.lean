import VendorSql.OrderedMap

/-!
# Capabilities

What a database supports, fixed when its profile is built. An access mode that is a key of the port
table is supported; its port is absent where a port means nothing.
-/
namespace VendorSql

/-- How the database is reached. -/
inductive AccessMode where
  | native
  | jndi
  | odbc
  | other
  deriving Repr, DecidableEq

namespace AccessMode

def name : AccessMode → String
  | native => "native"
  | jndi => "jndi"
  | odbc => "odbc"
  | other => "other"

def ofName? (name : String) : Option AccessMode :=
  match name with
  | "native" => some native
  | "jndi" => some jndi
  | "odbc" => some odbc
  | "other" => some other
  | _ => none

@[simp] theorem ofName?_name (mode : AccessMode) : ofName? mode.name = some mode := by
  cases mode <;> rfl

end AccessMode

/-- What a database supports. The default values describe a database nothing is known about. -/
structure Capabilities where
  catalogs : Bool := true
  schemas : Bool := true
  sequences : Bool := false
  sequencesWithoutMaximum : Bool := false
  bitmapIndexes : Bool := false
  synonyms : Bool := false
  booleanType : Bool := false
  batchErrorHandling : Bool := true
  savepoints : Bool := true
  /-- Strings shorter than this are stored inline. -/
  maxInlineVarchar : Int32 := 9999999
  /-- The supported access modes and their ports. -/
  ports : OrderedMap AccessMode (Option UInt16) :=
    .ofList [(.native, none), (.odbc, none), (.jndi, none)]
  deriving Repr, DecidableEq

namespace Capabilities

/-- The port of an access mode, if the mode is supported and has one. -/
def port? (capabilities : Capabilities) (mode : AccessMode) : Option UInt16 :=
  (capabilities.ports.get? mode).join

/-- Whether the database can be reached that way. -/
def supports (capabilities : Capabilities) (mode : AccessMode) : Bool :=
  capabilities.ports.contains mode

end Capabilities

end VendorSql
