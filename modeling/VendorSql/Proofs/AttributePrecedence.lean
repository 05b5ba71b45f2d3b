import VendorSql.Config
import Mathlib.Data.List.Nodup

/-!
# Attributes from the command line against those of the file

A lookup of an attribute sees the entries whose keys are spellings of the key it asks for, and takes
the first. Setting an attribute from the command line drops the first spelling and sets the one that
was given. So the command line has the last word as long as the file has at most one spelling of the
key. Where the file has two, the second one moves up when the first is dropped, and stays in front
of what the command line says.
-/
namespace VendorSql

open Text (equalIgnoringCase)

namespace Attributes

/-- The entries whose keys differ from `key` at most in case, in order. -/
def spellings (attributes : Attributes) (key : String) : List (String × String) :=
  attributes.entries.filter fun entry => equalIgnoringCase entry.1 key

theorem spelled_of_mem (attributes : Attributes) {key : String} {entry : String × String}
    (member : entry ∈ attributes.spellings key) : equalIgnoringCase entry.1 key = true :=
  (List.mem_filter.mp member).2

/-- A lookup only sees the first spelling of its key. -/
theorem value?_eq_head? (attributes : Attributes) (key : String) :
    attributes.value? key = (attributes.spellings key).head?.map Prod.snd :=
  attributes.findKey?_eq_head? _

theorem keys_spellings (attributes : Attributes) (key : String) :
    (attributes.spellings key).map Prod.fst =
      attributes.keys.filter (equalIgnoringCase · key) := by
  rw [spellings, OrderedMap.keys, List.filter_map]
  rfl

theorem distinct_spellings (attributes : Attributes) (key : String) :
    ((attributes.spellings key).map Prod.fst).Nodup :=
  attributes.distinct.sublist (List.filter_sublist.map Prod.fst)

theorem spellings_congr (attributes : Attributes) {given key : String}
    (same : equalIgnoringCase given key = true) :
    attributes.spellings given = attributes.spellings key := by
  simp only [spellings, Text.equalIgnoringCase_congr same]

theorem spellings_insert (attributes : Attributes) (given value key : String) :
    spellings (attributes.insert given value) key =
      if equalIgnoringCase given key then
        OrderedMap.setEntry given value (attributes.spellings key)
      else attributes.spellings key :=
  OrderedMap.filter_setEntry (equalIgnoringCase · key) given value attributes.entries

theorem spellings_erase (attributes : Attributes) (given key : String) :
    spellings (attributes.erase given) key =
      (attributes.spellings key).filter fun entry => entry.1 ≠ given :=
  List.filter_comm _ _ _

theorem spellings_erase_other (attributes : Attributes) {given key : String}
    (differ : equalIgnoringCase given key = false) :
    spellings (attributes.erase given) key = attributes.spellings key := by
  rw [spellings_erase, List.filter_eq_self]
  intro entry member
  have spelled := attributes.spelled_of_mem member
  have other : entry.1 ≠ given := by
    rintro rfl
    rw [differ] at spelled
    cases spelled
  exact decide_eq_true other

/-- No key is a spelling of another one. -/
def Unambiguous (attributes : Attributes) : Prop :=
  attributes.keys.Pairwise fun first second => equalIgnoringCase first second = false

instance (attributes : Attributes) : Decidable attributes.Unambiguous :=
  inferInstanceAs (Decidable (List.Pairwise _ _))

/-- Two spellings of one key would be spellings of each other. -/
theorem Unambiguous.length_spellings_le {attributes : Attributes}
    (unambiguous : attributes.Unambiguous) (key : String) :
    (attributes.spellings key).length ≤ 1 := by
  have apart : ((attributes.spellings key).map Prod.fst).Pairwise
      fun first second => equalIgnoringCase first second = false := by
    rw [keys_spellings]
    exact unambiguous.sublist List.filter_sublist
  match found : attributes.spellings key with
  | [] => simp
  | [_] => simp
  | first :: second :: rest =>
    have spelled := attributes.spelled_of_mem (found ▸ List.mem_cons_self)
    have again := attributes.spelled_of_mem (found ▸ List.mem_cons_of_mem first List.mem_cons_self)
    -- Two spellings of one key are equal up to case, which unambiguous keys never are.
    simp only [found, List.map_cons, List.pairwise_cons, List.mem_cons] at apart
    have differ := apart.1 second.1 (Or.inl rfl)
    rw [Text.equalIgnoringCase_congr again, spelled] at differ
    cases differ

end Attributes

/-- Erasing the first key of a list without repetition leaves the rest. -/
theorem filter_ne_first {first : String × String} {rest : List (String × String)}
    (distinct : ((first :: rest).map Prod.fst).Nodup) :
    (first :: rest).filter (fun entry => entry.1 ≠ first.1) = rest := by
  rw [List.map_cons, List.nodup_cons] at distinct
  rw [List.filter_cons_of_neg (by simp), List.filter_eq_self]
  intro entry member
  have other : entry.1 ≠ first.1 :=
    fun same => distinct.1 (same ▸ List.mem_map_of_mem (f := Prod.fst) member)
  exact decide_eq_true other

namespace Config

open Attributes

/-- The key that is dropped is the first spelling. -/
theorem find?_keys_eq (attributes : Attributes) (key : String) :
    attributes.keys.find? (equalIgnoringCase · key) =
      (attributes.spellings key).head?.map Prod.fst := by
  rw [← List.head?_filter, ← keys_spellings, List.head?_map]

/-- An override takes the first spelling away and no more, and sets its own among the others. -/
theorem spellings_override_self (attributes : Attributes) (given value : String) :
    spellings (override attributes given value) given =
      OrderedMap.setEntry given value (attributes.spellings given).tail := by
  have dropped := find?_keys_eq attributes given
  have distinct := attributes.distinct_spellings given
  cases found : attributes.spellings given with
  | nil =>
    rw [found] at dropped
    simp only [override, dropped, List.head?_nil, Option.map_none, spellings_insert, found,
      Text.equalIgnoringCase_refl, if_true, List.tail_nil]
  | cons first rest =>
    rw [found] at dropped distinct
    simp only [override, dropped, List.head?_cons, Option.map_some, spellings_insert,
      spellings_erase, found, filter_ne_first distinct, Text.equalIgnoringCase_refl, if_true,
      List.tail_cons]

theorem spellings_override_other (attributes : Attributes) {given key : String}
    (differ : equalIgnoringCase given key = false) (value : String) :
    spellings (override attributes given value) key = attributes.spellings key := by
  unfold override
  split
  next present found =>
    -- What is dropped is a spelling of the given key, and none of the other.
    have spelled : equalIgnoringCase present given = true := by
      simpa using List.find?_some found
    have apart : equalIgnoringCase present key = false := by
      rw [Text.equalIgnoringCase_comm, Text.equalIgnoringCase_congr spelled,
        Text.equalIgnoringCase_comm]
      exact differ
    rw [spellings_insert, differ, if_neg Bool.false_ne_true, spellings_erase_other _ apart]
  next => rw [spellings_insert, differ, if_neg Bool.false_ne_true]

/-- Setting an attribute puts one spelling in the place of the first, and leaves the entries of all
other keys alone. -/
theorem spellings_override (attributes : Attributes) (given value key : String) :
    spellings (override attributes given value) key =
      if equalIgnoringCase given key then
        OrderedMap.setEntry given value (attributes.spellings key).tail
      else attributes.spellings key := by
  split
  next same =>
    rw [← spellings_congr _ same, ← spellings_congr _ same]
    exact spellings_override_self attributes given value
  next differ => exact spellings_override_other attributes (by simpa using differ) value

/-- Where a key has at most one spelling, setting attributes one after another leaves of it what was
given last. -/
theorem spellings_foldl_override {attributes : Attributes} {key : String}
    (single : (attributes.spellings key).length ≤ 1) (given : List (String × String)) :
    spellings (given.foldl (fun attributes (key, value) => override attributes key value)
        attributes) key =
      match (given.filter fun entry => equalIgnoringCase entry.1 key).getLast? with
      | some last => [last]
      | none => attributes.spellings key := by
  induction given generalizing attributes with
  | nil => rfl
  | cons entry given ih =>
    obtain ⟨spelling, value⟩ := entry
    have step := spellings_override attributes spelling value key
    cases same : equalIgnoringCase spelling key with
    | false =>
      -- Another key is overridden, and the spellings of this one stay as they are.
      rw [same, if_neg Bool.false_ne_true] at step
      have few : (spellings (override attributes spelling value) key).length ≤ 1 := by
        rwa [step]
      rw [List.foldl_cons, ih few, step, List.filter_cons_of_neg (by simp [same])]
    | true =>
      -- The only spelling there may be goes, so the new one is the only one again.
      have gone : (attributes.spellings key).tail = [] := by
        rw [← List.length_eq_zero_iff, List.length_tail]
        omega
      rw [same, if_pos rfl, gone] at step
      have one : (spellings (override attributes spelling value) key).length ≤ 1 := by
        simp [step, OrderedMap.setEntry]
      rw [List.foldl_cons, ih one, step, List.filter_cons_of_pos (by simp [same]),
        List.getLast?_cons]
      cases (given.filter fun entry => equalIgnoringCase entry.1 key).getLast? <;> rfl

/-- Where a key has two spellings, setting the first one anew leaves the second in front. -/
theorem value?_override_first {attributes : Attributes} {key : String}
    {first second : String × String} {rest : List (String × String)}
    (found : attributes.spellings key = first :: second :: rest) (value : String) :
    Attributes.value? (override attributes first.1 value) key = some second.2 := by
  have spelled := attributes.spelled_of_mem (found ▸ List.mem_cons_self)
  have distinct := attributes.distinct_spellings key
  rw [found, List.map_cons, List.nodup_cons] at distinct
  have other : second.1 ≠ first.1 := fun same => distinct.1 (by simp [same])
  rw [value?_eq_head?, spellings_override, spelled, if_pos rfl, found, List.tail_cons,
    OrderedMap.setEntry, if_neg other]
  rfl

/-- What a lookup of `key` should find: the value given last on the command line, else that of the
file. -/
def settled? (config : Config) (choice : Choice) (key : String) : Option String :=
  ((choice.attributes.filter fun entry => equalIgnoringCase entry.1 key).getLast?.map Prod.snd).or
    (config.attributes.value? key)

/-- The command line has the last word on a key, whatever it says, exactly if the file has at most
one spelling of that key. -/
theorem value?_choose_iff (config : Config) (key : String) :
    (∀ choice : Choice,
      (config.choose choice).attributes.value? key = config.settled? choice key) ↔
    (config.attributes.keys.filter (equalIgnoringCase · key)).length ≤ 1 := by
  rw [← keys_spellings, List.length_map]
  constructor
  · intro last
    match found : config.attributes.spellings key with
    | [] => simp
    | [_] => simp
    | first :: second :: rest =>
      -- The command line gives the first spelling a value that the second one does not have.
      have spelled := config.attributes.spelled_of_mem (found ▸ List.mem_cons_self)
      have longer := last { attributes := [(first.1, second.2 ++ "!")] }
      have same : some second.2 = some (second.2 ++ "!") := by
        simpa [choose, settled?, spelled, value?_override_first found] using longer
      have lengths := congrArg String.length (Option.some.inj same)
      have one : "!".length = 1 := rfl
      rw [String.length_append] at lengths
      omega
  · intro single choice
    simp only [choose, settled?, value?_eq_head?, spellings_foldl_override single]
    cases (choice.attributes.filter fun entry => equalIgnoringCase entry.1 key).getLast? <;> rfl

/-- A file with two spellings of a key keeps its own value against the command line. -/
theorem value?_choose_ne_settled? :
    let config : Config :=
      { attributes := .ofList [("QUOTE_ALL_FIELDS", "N"), ("quote_all_fields", "N")] }
    let choice : Choice := { attributes := [("Quote_All_Fields", "Y")] }
    (config.choose choice).attributes.value? "QUOTE_ALL_FIELDS" = some "N" ∧
      config.settled? choice "QUOTE_ALL_FIELDS" = some "Y" := by
  decide +kernel

end Config

end VendorSql
