import VendorSql.Proofs.InsertionHistory
import VendorSql.Row

/-!
# Rows and the insertions they are made by

A row is made by setting one field after another, and what it shows under a name follows from that
history alone. A name that was set shows what it was set to last. Any other name is answered for by
another spelling of it, the one that came in first, and shows what that spelling was set to last.
Setting one spelling therefore says nothing about another one that is there.
-/
namespace VendorSql.Row

open OrderedMap (Last)
open Text (equalIgnoringCase)

/-- Of the names that differ from this one at most in case, the one that was set first. -/
def FirstSpelling (history : List (String × Value)) (name spelling : String) : Prop :=
  ∃ before value after, history = before ++ (spelling, value) :: after ∧
    equalIgnoringCase spelling name = true ∧
    ∀ entry ∈ before, equalIgnoringCase entry.1 name = false

/-- What a name is answered with after the insertions of a history. -/
inductive Answers (history : List (String × Value)) (name : String) : Option Value → Prop
  | exact {value : Value} : Last history name value → Answers history name (some value)
  | similar {spelling : String} {value : Value} : name ∉ history.map Prod.fst →
    FirstSpelling history name spelling → Last history spelling value →
    Answers history name (some value)
  | absent : (∀ entry ∈ history, equalIgnoringCase entry.1 name = false) →
    Answers history name none

theorem get?_ofList (history : List (String × Value)) (name : String) :
    (ofList history).get? name = ((OrderedMap.ofList history).get? name).or
      (((history.map Prod.fst).find? (equalIgnoringCase · name)).bind
        (OrderedMap.ofList history).get?) := by
  rw [get?, fields_ofList, OrderedMap.findKey?_ofList]

theorem find?_spelling_eq_some_iff {history : List (String × Value)} {name spelling : String} :
    (history.map Prod.fst).find? (equalIgnoringCase · name) = some spelling ↔
      FirstSpelling history name spelling := by
  rw [List.find?_map, Option.map_eq_some_iff]
  constructor
  · rintro ⟨⟨_, value⟩, found, rfl⟩
    obtain ⟨same, before, after, split, others⟩ := List.find?_eq_some_iff_append.mp found
    exact ⟨before, value, after, split, same, fun entry early => by simpa using others entry early⟩
  · rintro ⟨before, value, after, split, same, others⟩
    refine ⟨(spelling, value), List.find?_eq_some_iff_append.mpr ⟨same, before, after, split, ?_⟩,
      rfl⟩
    intro entry early
    simpa using others entry early

theorem find?_spelling_eq_none_iff {history : List (String × Value)} {name : String} :
    (history.map Prod.fst).find? (equalIgnoringCase · name) = none ↔
      ∀ entry ∈ history, equalIgnoringCase entry.1 name = false := by
  simp

/-- What a history says about a name is what the row of that history shows. -/
theorem Answers.get?_eq {history : List (String × Value)} {name : String} {result : Option Value}
    (answers : Answers history name result) : (ofList history).get? name = result := by
  rw [get?_ofList]
  -- The exact name comes first, then the first spelling, each with its last value.
  cases answers with
  | exact last => rw [OrderedMap.get?_ofList_eq_some_iff.mpr last, Option.some_or]
  | similar unset first last =>
    rw [OrderedMap.get?_ofList_eq_none_iff.mpr unset, Option.none_or,
      find?_spelling_eq_some_iff.mpr first, Option.bind_some,
      OrderedMap.get?_ofList_eq_some_iff.mpr last]
  | absent other =>
    have unset : name ∉ history.map Prod.fst := by
      intro set
      obtain ⟨entry, member, rfl⟩ := List.mem_map.mp set
      simpa using other entry member
    rw [OrderedMap.get?_ofList_eq_none_iff.mpr unset, find?_spelling_eq_none_iff.mpr other]
    rfl

/-- Every history says something about every name. -/
theorem exists_answers (history : List (String × Value)) (name : String) :
    ∃ result, Answers history name result := by
  cases own : (OrderedMap.ofList history).get? name with
  | some value => exact ⟨some value, .exact (OrderedMap.get?_ofList_eq_some_iff.mp own)⟩
  | none =>
    have unset := OrderedMap.get?_ofList_eq_none_iff.mp own
    cases first : (history.map Prod.fst).find? (equalIgnoringCase · name) with
    | none => exact ⟨none, .absent (find?_spelling_eq_none_iff.mp first)⟩
    | some spelling =>
      -- A name that was set has been set to something last.
      have set : spelling ∈ history.map Prod.fst := List.mem_of_find?_eq_some first
      cases last : (OrderedMap.ofList history).get? spelling with
      | none => exact absurd set (OrderedMap.get?_ofList_eq_none_iff.mp last)
      | some value =>
        exact ⟨some value, .similar unset (find?_spelling_eq_some_iff.mp first)
          (OrderedMap.get?_ofList_eq_some_iff.mp last)⟩

/-- Setting a field changes nothing about a name that is there in another spelling. -/
theorem get?_insert_of_ne {row : Row} {name other : String} (present : name ∈ row.fields.keys)
    (differ : other ≠ name) (value : Value) :
    (row.insert other value).get? name = row.get? name := by
  cases own : row.fields.get? name with
  | none => exact absurd present (OrderedMap.get?_eq_none_iff.mp own)
  | some found =>
    have kept : (row.insert other value).fields.get? name = some found := by
      rw [insert, OrderedMap.get?_insert, if_neg (Ne.symm differ), own]
    rw [get?, get?, kept, own, Option.some_or, Option.some_or]

/-- A row shows under every name what the history of its insertions says, and has as many fields as
different names were set. Setting a field leaves the other names alone that are there. -/
theorem get?_eq_iff_answers (history : List (String × Value)) :
    (∀ name result, (ofList history).get? name = result ↔ Answers history name result) ∧
    (ofList history).size = (history.map Prod.fst).toFinset.card ∧
    ∀ name other value, name ∈ history.map Prod.fst → other ≠ name →
      ((ofList history).insert other value).get? name = (ofList history).get? name := by
  refine ⟨?_, ?_, ?_⟩
  · intro name result
    constructor
    · rintro rfl
      obtain ⟨result, answers⟩ := exists_answers history name
      rw [answers.get?_eq]
      exact answers
    · exact Answers.get?_eq
  · rw [size, fields_ofList, OrderedMap.size_ofList]
  · intro name other value set differ
    apply get?_insert_of_ne _ differ
    rw [fields_ofList, OrderedMap.keys_ofList]
    exact List.mem_eraseDups.mpr set

example : (ofList [("ID", .int 1), ("Id", .int 2), ("ID", .int 3)]).get? "id" = some (.int 3) := by
  decide +kernel

end VendorSql.Row
