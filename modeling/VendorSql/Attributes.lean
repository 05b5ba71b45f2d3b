import VendorSql.OrderedMap
import VendorSql.Text.CharClass
import VendorSql.Text.Case

/-!
# Connection attributes

Attributes are the texts stored with a connection. A key is looked up without regard to ASCII case,
and if several keys differ only in case the first one counts. Four attributes mean the same for
every vendor; what a vendor does not recognize has no effect.
-/
namespace VendorSql

/-- The attributes of a connection, in the order in which they were given. -/
abbrev Attributes := OrderedMap String String

namespace Attributes

/-- The value of the first key equal to `key` up to case. -/
def value? (attributes : Attributes) (key : String) : Option String :=
  attributes.findKey? (Text.equalIgnoringCase · key)

/-- Whether a value says yes: `Y`, `YES`, `TRUE` or `1` in any case, between any blanks. -/
def isYes (value : String) : Bool :=
  ["Y", "YES", "TRUE", "1"].any fun yes => Text.equalIgnoringCase (Text.trim value) yes

/-- Whether the attribute says yes; nothing if it is absent. -/
def flag? (attributes : Attributes) (key : String) : Option Bool :=
  (attributes.value? key).map isYes

/-- The keys that equal none of `recognized` up to case, in order. -/
def unrecognized (attributes : Attributes) (recognized : List String) : List String :=
  attributes.keys.filter fun key => !recognized.any (Text.equalIgnoringCase · key)

end Attributes

/-- The options every vendor recognizes. -/
structure CommonOptions where
  /-- Overrides whether the vendor has a boolean type. -/
  booleanType : Option Bool := none
  quoteAll : Bool := false
  forceLower : Bool := false
  forceUpper : Bool := false
  deriving Repr, DecidableEq

namespace CommonOptions

/-- The attribute that overrides whether there is a boolean type. -/
def booleanTypeKey : String := "SUPPORTS_BOOLEAN_DATA_TYPE"

def quoteAllKey : String := "QUOTE_ALL_FIELDS"

def forceLowerKey : String := "FORCE_IDENTIFIERS_TO_LOWERCASE"

def forceUpperKey : String := "FORCE_IDENTIFIERS_TO_UPPERCASE"

def keys : List String := [booleanTypeKey, quoteAllKey, forceLowerKey, forceUpperKey]

def ofAttributes (attributes : Attributes) : CommonOptions where
  booleanType := attributes.flag? booleanTypeKey
  quoteAll := (attributes.flag? quoteAllKey).getD false
  forceLower := (attributes.flag? forceLowerKey).getD false
  forceUpper := (attributes.flag? forceUpperKey).getD false

/-- An identifier in the case that is forced, lowercase if both are. -/
def foldCase (options : CommonOptions) (identifier : String) : String :=
  if options.forceLower then Text.lower identifier
  else if options.forceUpper then Text.upper identifier
  else identifier

end CommonOptions

end VendorSql
