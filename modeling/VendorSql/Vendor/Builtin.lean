import VendorSql.Event
import VendorSql.Profile
import VendorSql.Vendor.ReservedWords

/-!
# The built-in profiles

The profile of each vendor, as a function of the settings of a connection, and the settings that
the attributes of a connection ask for. An attribute that a vendor does not recognize is reported
and has no other effect.
-/
namespace VendorSql

/-- What a connection can set about a built-in profile. -/
structure Settings where
  common : CommonOptions := {}
  /-- Schema and table are joined with two dots; SQL Server only. -/
  doubleSeparator : Bool := false
  /-- A complete connection URL; the generic vendor only. -/
  customUrl : Option String := none
  deriving Repr, DecidableEq

namespace Settings

/-- The attribute that asks for two dots. -/
def doubleSeparatorKey : String := "MSSQL_DOUBLE_DECIMAL_SEPARATOR"

/-- A short spelling of the same attribute, which counts if the long one is absent. -/
def shortDoubleSeparatorKey : String := "DOUBLE_DECIMAL_SEPARATOR"

def customUrlKey : String := "CUSTOM_URL"

/-- The settings that a connection's attributes ask for. A blank URL counts as none. -/
def ofAttributes (attributes : Attributes) : Settings where
  common := .ofAttributes attributes
  doubleSeparator :=
    ((attributes.flag? doubleSeparatorKey).or (attributes.flag? shortDoubleSeparatorKey)).getD false
  customUrl := (attributes.value? customUrlKey).filter fun url => Text.trim url ≠ ""

end Settings

namespace Vendor

/-- The attributes a vendor recognizes beside the common ones. -/
def ownKeys : Vendor → List String
  | sqlServer => [Settings.doubleSeparatorKey, Settings.shortDoubleSeparatorKey]
  | generic => [Settings.customUrlKey]
  | postgreSql | mySql => []

def tokens : Vendor → TypeTokens
  | sqlServer =>
    { date := "DATETIME"
      timestamp := "DATETIME"
      boolean := "BIT"
      booleanFlag := "CHAR(1)"
      key := "BIGINT PRIMARY KEY"
      autoIncrement := " IDENTITY(0,1)"
      decimal := "DECIMAL"
      bigInteger := "BIGINT"
      integer := "INT"
      double := "FLOAT(53)"
      varchar := "VARCHAR"
      largeText := "TEXT"
      largeBinary := "VARBINARY(MAX)" }
  | postgreSql =>
    { date := "TIMESTAMP"
      timestamp := "TIMESTAMP"
      boolean := "BOOLEAN"
      booleanFlag := "CHAR(1)"
      key := "BIGINT PRIMARY KEY"
      autoIncrement := " GENERATED BY DEFAULT AS IDENTITY"
      decimal := "NUMERIC"
      bigInteger := "BIGINT"
      integer := "INTEGER"
      double := "DOUBLE PRECISION"
      varchar := "VARCHAR"
      largeText := "TEXT"
      largeBinary := "BYTEA" }
  | mySql =>
    { date := "DATETIME"
      timestamp := "DATETIME"
      boolean := "BOOLEAN"
      booleanFlag := "CHAR(1)"
      key := "BIGINT PRIMARY KEY"
      autoIncrement := " AUTO_INCREMENT"
      decimal := "DECIMAL"
      bigInteger := "BIGINT"
      integer := "INT"
      double := "DOUBLE"
      varchar := "VARCHAR"
      largeText := "LONGTEXT"
      largeBinary := "LONGBLOB" }
  | generic =>
    { date := "DATE"
      timestamp := "TIMESTAMP"
      boolean := "BOOLEAN"
      booleanFlag := "CHAR(1)"
      key := "BIGINT PRIMARY KEY"
      autoIncrement := " GENERATED BY DEFAULT AS IDENTITY"
      decimal := "NUMERIC"
      bigInteger := "BIGINT"
      integer := "INTEGER"
      double := "DOUBLE PRECISION"
      varchar := "VARCHAR"
      largeText := "CLOB"
      largeBinary := "BLOB" }

/-- What a vendor supports, unless a connection overrides it. -/
def capabilities : Vendor → Capabilities
  | sqlServer =>
    { catalogs := false
      sequences := true
      sequencesWithoutMaximum := true
      savepoints := false
      maxInlineVarchar := 8000
      ports := .ofList [(.native, some 1433), (.jndi, none)] }
  | postgreSql =>
    { catalogs := false
      sequences := true
      sequencesWithoutMaximum := true
      booleanType := true
      batchErrorHandling := false
      maxInlineVarchar := 10485760
      ports := .ofList [(.native, some 5432), (.odbc, none), (.jndi, none)] }
  | mySql =>
    { schemas := false
      maxInlineVarchar := 16384
      ports := .ofList [(.native, some 3306), (.odbc, none), (.jndi, none)] }
  | generic => {}

/-- What a vendor supports under the options of a connection. -/
def capabilitiesWith (vendor : Vendor) (options : CommonOptions) : Capabilities :=
  { vendor.capabilities with
    booleanType := options.booleanType.getD vendor.capabilities.booleanType }

def profile (vendor : Vendor) (settings : Settings) : Profile :=
  match vendor with
  | sqlServer =>
    { name := "Microsoft SQL Server"
      capabilities := sqlServer.capabilitiesWith settings.common
      options := settings.common
      tokens := sqlServer.tokens
      literals := { lineBreaks := .concat "+" "char" }
      quotes := { opening := "[", closing := "]" }
      separator := if settings.doubleSeparator then ".." else "."
      reservedWords := sqlServerWords
      grammar := some .sqlServer
      url := .server "jdbc:jtds:sqlserver" }
  | postgreSql =>
    { name := "PostgreSQL"
      capabilities := postgreSql.capabilitiesWith settings.common
      options := settings.common
      tokens := postgreSql.tokens
      literals := { lineBreaks := .concat "||" "chr" }
      reservedWords := postgreSqlWords
      grammar := some .postgreSql
      url := .server "jdbc:postgresql" }
  | mySql =>
    { name := "MySQL"
      capabilities := mySql.capabilitiesWith settings.common
      options := settings.common
      tokens := mySql.tokens
      literals := { backslashEscapes := true, lineBreaks := .escape }
      quotes := { opening := "`", closing := "`" }
      reservedWords := mySqlWords
      grammar := some .mySql
      url := .server "jdbc:mysql" }
  | generic =>
    { name := "Generic database"
      capabilities := generic.capabilitiesWith settings.common
      options := settings.common
      tokens := generic.tokens
      reservedWords := sql92Words
      grammar := some .generic
      url := match settings.customUrl with
        | some url => .fixed url
        | none => .database "jdbc:odbc" }

@[simp] theorem profile_grammar (vendor : Vendor) (settings : Settings) :
    (vendor.profile settings).grammar = some vendor := by
  cases vendor <;> rfl

@[simp] theorem profile_options (vendor : Vendor) (settings : Settings) :
    (vendor.profile settings).options = settings.common := by
  cases vendor <;> rfl

@[simp] theorem profile_tokens (vendor : Vendor) (settings : Settings) :
    (vendor.profile settings).tokens = vendor.tokens := by
  cases vendor <;> rfl

/-- A connection overrides nothing about sequences. -/
@[simp] theorem profile_sequences (vendor : Vendor) (settings : Settings) :
    (vendor.profile settings).capabilities.sequences = vendor.capabilities.sequences := by
  cases vendor <;> rfl

/-- One event for each attribute the vendor does not recognize. -/
def ignoredEvents (vendor : Vendor) (attributes : Attributes) : List Event :=
  (attributes.unrecognized (CommonOptions.keys ++ vendor.ownKeys)).map
    (.ignoredAttribute vendor.tag)

def configure (vendor : Vendor) (attributes : Attributes) : Traced Profile where
  result := vendor.profile (.ofAttributes attributes)
  events := vendor.ignoredEvents attributes

end Vendor

end VendorSql
