import VendorSql.Number.Binary64

/-!
# Data

What a file or a message says before it is known what it should say: a tree of texts, numbers,
lists and tables. Both notations the program reads lead to it, and the notation it writes starts
from it. A table keeps its entries as they were written, in order and with repetitions, because some
readers refuse a repetition and others let the last one count.
-/
namespace VendorSql

/-- A tree of data. -/
inductive Datum where
  | null
  | bool (value : Bool)
  | int (value : Int)
  | float (value : Binary64)
  | text (value : String)
  /-- A date, a time or both. -/
  | moment (text : String)
  | list (items : List Datum)
  | table (entries : List (String × Datum))
  /-- Something well written that has no value, such as a number out of range. It does no harm where
  nobody asks for it. -/
  | unreadable
  deriving Inhabited, Repr

namespace Datum

def bool? : Datum → Option Bool
  | bool value => some value
  | _ => none

def int? : Datum → Option Int
  | int value => some value
  | _ => none

def text? : Datum → Option String
  | text value => some value
  | _ => none

def list? : Datum → Option (List Datum)
  | list items => some items
  | _ => none

def table? : Datum → Option (List (String × Datum))
  | table entries => some entries
  | _ => none

/-- The name a choice without further content is written by: a text, or a table whose only key has
no value. -/
def choice? : Datum → Option String
  | text name => some name
  | table [(name, null)] => some name
  | _ => none

/-- The fields of a record, one for each of `names`; a missing field is `none`. A record is written
as a table, in which no field occurs twice and other entries do not count, or as the list of its
first fields. -/
def record? (names : List String) : Datum → Option (List (Option Datum))
  | table entries =>
    if names.all fun name => entries.countP (·.1 == name) ≤ 1 then
      some (names.map fun name => entries.lookup name)
    else none
  | list items =>
    if items.length ≤ names.length then
      some (items.map some ++ List.replicate (names.length - items.length) none)
    else none
  | _ => none

/-- A field that may be missing, read by `read`. -/
def optional {α : Type} (read : Datum → Option α) (default : α) : Option Datum → Option α
  | none => some default
  | some datum => read datum

/-- A field that has to be there, read by `read`. -/
def required {α : Type} (read : Datum → Option α) (field : Option Datum) : Option α :=
  field.bind read

end Datum

end VendorSql
