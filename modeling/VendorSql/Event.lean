import VendorSql.Error

/-!
# Events

What the program has to say while it works, apart from its results. An event is a value, and a
computation that reports events returns them in order beside its result.
-/
namespace VendorSql

/-- How much an event matters. -/
inductive Level where
  | debug
  | warning
  deriving Repr, DecidableEq

inductive Event where
  | ignoredAttribute (vendor key : String)
  | createdProfile (tag product : String)
  | checkingIndex (table sql : String)
  | acquiredLock (table : String)
  | readingMaximum (table sql : String)
  | unlockFailed (table : String) (error : GatewayError)
  deriving Repr, DecidableEq

namespace Event

def level : Event → Level
  | unlockFailed _ _ => .warning
  | _ => .debug

def message : Event → String
  | ignoredAttribute _ _ => "ignoring unrecognized connection attribute"
  | createdProfile _ _ => "created dialect profile"
  | checkingIndex _ _ => "checking index columns"
  | acquiredLock _ => "acquired table lock"
  | readingMaximum _ _ => "reading current maximum"
  | unlockFailed _ _ => "failed to release table lock"

def fields : Event → List (String × String)
  | ignoredAttribute vendor key => [("vendor", vendor), ("attribute", key)]
  | createdProfile tag product => [("tag", tag), ("vendor", product)]
  | checkingIndex table sql => [("table", table), ("sql", sql)]
  | acquiredLock table => [("table", table)]
  | readingMaximum table sql => [("table", table), ("sql", sql)]
  | unlockFailed table error => [("table", table), ("error", error.message)]

end Event

/-- A result and the events reported on the way to it. -/
structure Traced (α : Type) where
  result : α
  events : List Event := []
  deriving Repr

end VendorSql
