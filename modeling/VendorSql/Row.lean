import VendorSql.Number.Binary64
import VendorSql.Number.Decimal
import VendorSql.OrderedMap
import VendorSql.Text.CharClass
import VendorSql.Text.Case

/-!
# Rows

A row of a query result: named values in the order in which they came. A field is found by its exact
name, or else by the first name that differs only in case. The integer view of a field accepts
numbers in every guise in which databases return them.
-/
namespace VendorSql

inductive Value where
  | null
  | bool (value : Bool)
  | int (value : Int64)
  | float (value : Binary64)
  | text (value : String)
  deriving Repr, DecidableEq

namespace Value

/-- A value that may be absent, null if it is. -/
def ofOption {α : Type} (wrap : α → Value) : Option α → Value
  | none => null
  | some value => wrap value

def isNull : Value → Bool
  | null => true
  | _ => false

/-- The 64-bit integer nearest to an integer. -/
def clamp (n : Int) : Int64 :=
  if n < Int64.minValue.toInt then Int64.minValue
  else if Int64.maxValue.toInt < n then Int64.maxValue
  else Int64.ofInt n

def integer? : Value → Option Int64
  | int value => some value
  | float value => value.toInt?.map clamp
  | text value => (Number.readInt? (Text.trimChars value.toList)).bind Number.int64?
  | null | bool _ => none

end Value

/-- A row of a query result. -/
structure Row where
  fields : OrderedMap String Value := .empty
  deriving Repr, DecidableEq

namespace Row

instance : Inhabited Row := ⟨{}⟩

/-- The row with a field set; a field that is there keeps its place. -/
def insert (row : Row) (name : String) (value : Value) : Row :=
  ⟨row.fields.insert name value⟩

/-- The row that results from setting the fields one after another. -/
def ofList (fields : List (String × Value)) : Row :=
  fields.foldl (fun row (name, value) => row.insert name value) {}

theorem fields_ofList (entries : List (String × Value)) :
    (ofList entries).fields = .ofList entries := by
  have step (row : Row) :
      (entries.foldl (fun row (name, value) => row.insert name value) row).fields =
        entries.foldl (fun map (name, value) => map.insert name value) row.fields := by
    induction entries generalizing row with
    | nil => rfl
    | cons entry entries ih => exact ih _
  exact step {}

/-- The value of a field: of that exact name, or else of the first name equal up to case. -/
def get? (row : Row) (name : String) : Option Value :=
  (row.fields.get? name).or (row.fields.findKey? (Text.equalIgnoringCase · name))

/-- A row carries a value under a name: in the entry of exactly that name or, where there is none,
in the first entry whose name is equal up to case. -/
inductive Carries (row : Row) (name : String) : Value → Prop
  | exact {value : Value} : (name, value) ∈ row.fields.entries → Carries row name value
  | similar {key : String} {value : Value} {before after : List (String × Value)} :
    name ∉ row.fields.keys → row.fields.entries = before ++ (key, value) :: after →
    Text.equalIgnoringCase key name = true →
    (∀ entry ∈ before, Text.equalIgnoringCase entry.1 name = false) → Carries row name value

theorem get?_eq_some_iff {row : Row} {name : String} {value : Value} :
    row.get? name = some value ↔ row.Carries name value := by
  rw [get?, Option.or_eq_some_iff, OrderedMap.get?_eq_some_iff, OrderedMap.get?_eq_none_iff,
    OrderedMap.findKey?, Option.map_eq_some_iff]
  constructor
  · rintro (present | ⟨absent, ⟨key, _⟩, found, rfl⟩)
    · exact .exact present
    · obtain ⟨same, before, after, split, others⟩ := List.find?_eq_some_iff_append.mp found
      exact .similar absent split same fun entry early => by simpa using others entry early
  · rintro (present | ⟨absent, split, same, others⟩)
    · exact .inl present
    · refine .inr ⟨absent, _, List.find?_eq_some_iff_append.mpr ⟨same, _, _, split, ?_⟩, rfl⟩
      intro entry early
      simpa using others entry early

theorem Carries.unique {row : Row} {name : String} {left right : Value}
    (first : row.Carries name left) (second : row.Carries name right) : left = right := by
  rw [← get?_eq_some_iff] at first second
  exact Option.some.inj (first.symm.trans second)

theorem get?_eq_none_iff {row : Row} {name : String} :
    row.get? name = none ↔ ∀ value, ¬row.Carries name value := by
  simp only [Option.eq_none_iff_forall_ne_some, ne_eq, get?_eq_some_iff]

def text? (row : Row) (name : String) : Option String :=
  match row.get? name with
  | some (.text value) => some value
  | _ => none

theorem text?_eq_some_iff {row : Row} {name text : String} :
    row.text? name = some text ↔ row.Carries name (.text text) := by
  rw [← get?_eq_some_iff, text?]
  split
  next value found => simp [found]
  next other => simpa using other text

def integer? (row : Row) (name : String) : Option Int64 :=
  (row.get? name).bind Value.integer?

def size (row : Row) : Nat := row.fields.size

end Row

end VendorSql
