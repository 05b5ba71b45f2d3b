import VendorSql.OrderedMap
import Mathlib.Data.Finset.Card
import Mathlib.Data.List.Induction

/-!
# Maps and the insertions they are made by

A map that is made by inserting pairs one after another can be described without the map: its keys
are those of the pairs, each where it came in first, and a key has the value it came with last. A
search for the first key that passes a test can therefore be made among the pairs.
-/
namespace VendorSql.OrderedMap

variable {κ ν : Type} [DecidableEq κ]

theorem eraseDups_concat (list : List κ) (last : κ) :
    (list ++ [last]).eraseDups =
      if last ∈ list then list.eraseDups else list.eraseDups ++ [last] := by
  rw [List.eraseDups_append]
  by_cases present : last ∈ list <;> simp [List.removeAll, List.eraseDups_cons, present]

/-- Only first occurrences matter to a search. -/
theorem find?_eraseDups (list : List κ) (test : κ → Bool) :
    list.eraseDups.find? test = list.find? test := by
  induction list using List.reverseRecOn with
  | nil => rfl
  | append_singleton list last ih =>
    rw [eraseDups_concat]
    split
    next present =>
      rw [ih, List.find?_append]
      -- A last element that passes has passed before.
      cases passes : test last with
      | false => simp [passes]
      | true =>
        have found : (list.find? test).isSome = true :=
          List.find?_isSome.mpr ⟨last, present, passes⟩
        rw [Option.or_of_isSome found]
    next => rw [List.find?_append, List.find?_append, ih]

/-- What a test finds is the value of the first key that passes it. -/
theorem findKey?_eq_bind (map : OrderedMap κ ν) (test : κ → Bool) :
    map.findKey? test = (map.keys.find? test).bind map.get? := by
  rw [findKey?, keys, List.find?_map, Function.comp_def]
  cases found : map.entries.find? fun entry => test entry.1 with
  | none => rfl
  | some entry => exact (get?_eq_some_iff.mpr (List.mem_of_find?_eq_some found)).symm

/-! ### One insertion after another -/

theorem ofList_concat (pairs : List (κ × ν)) (key : κ) (value : ν) :
    ofList (pairs ++ [(key, value)]) = (ofList pairs).insert key value := by
  rw [ofList, List.foldl_append]
  rfl

/-- The keys stand in the order of their first insertion. -/
theorem keys_ofList (pairs : List (κ × ν)) :
    (ofList pairs).keys = (pairs.map Prod.fst).eraseDups := by
  -- The latest insertion comes last, so the pairs are taken apart from their end.
  induction pairs using List.reverseRecOn with
  | nil => rfl
  | append_singleton pairs pair ih =>
    rw [ofList_concat, keys_insert, ih, List.map_append, List.map_singleton, eraseDups_concat]
    simp only [List.mem_eraseDups]

/-- A lookup finds what was inserted last under its key. -/
theorem get?_ofList (pairs : List (κ × ν)) (key : κ) :
    (ofList pairs).get? key = (pairs.reverse.find? fun pair => pair.1 == key).map Prod.snd := by
  induction pairs using List.reverseRecOn with
  | nil => rfl
  | append_singleton pairs pair ih =>
    rw [ofList_concat, get?_insert, ih, List.reverse_concat]
    split
    next same =>
      rw [List.find?_cons_of_pos (by simp [same])]
      rfl
    next other => rw [List.find?_cons_of_neg (by simpa using Ne.symm other)]

/-- The value of the last of the pairs with a key. -/
def Last (pairs : List (κ × ν)) (key : κ) (value : ν) : Prop :=
  ∃ before after, pairs = before ++ (key, value) :: after ∧ ∀ pair ∈ after, pair.1 ≠ key

theorem get?_ofList_eq_some_iff {pairs : List (κ × ν)} {key : κ} {value : ν} :
    (ofList pairs).get? key = some value ↔ Last pairs key value := by
  rw [get?_ofList, Option.map_eq_some_iff]
  constructor
  · -- A search from the end is one from the front of the reversed pairs.
    rintro ⟨⟨found, _⟩, search, rfl⟩
    obtain ⟨same, after, before, split, others⟩ := List.find?_eq_some_iff_append.mp search
    obtain rfl : found = key := by simpa using same
    refine ⟨before.reverse, after.reverse, ?_, ?_⟩
    · rw [← List.reverse_reverse pairs, split]
      simp
    · intro pair later
      simpa using others pair (List.mem_reverse.mp later)
  · rintro ⟨before, after, rfl, others⟩
    refine ⟨(key, value), List.find?_eq_some_iff_append.mpr ⟨by simp, ?_⟩, rfl⟩
    refine ⟨after.reverse, before.reverse, by simp, ?_⟩
    intro pair later
    simpa using others pair (List.mem_reverse.mp later)

theorem get?_ofList_eq_none_iff {pairs : List (κ × ν)} {key : κ} :
    (ofList pairs).get? key = none ↔ key ∉ pairs.map Prod.fst := by
  rw [get?_eq_none_iff, keys_ofList, List.mem_eraseDups]

/-- A search passes over repetitions, and takes the latest value of the key that it finds. -/
theorem findKey?_ofList (pairs : List (κ × ν)) (test : κ → Bool) :
    (ofList pairs).findKey? test =
      ((pairs.map Prod.fst).find? test).bind (ofList pairs).get? := by
  rw [findKey?_eq_bind, keys_ofList, find?_eraseDups]

theorem size_ofList (pairs : List (κ × ν)) :
    (ofList pairs).size = (pairs.map Prod.fst).toFinset.card := by
  have same : (pairs.map Prod.fst).toFinset = (ofList pairs).keys.toFinset := by
    ext key
    rw [List.mem_toFinset, List.mem_toFinset, keys_ofList, List.mem_eraseDups]
  have distinct : (ofList pairs).keys.Nodup := (ofList pairs).distinct
  rw [same, List.toFinset_card_of_nodup distinct, keys, List.length_map]
  rfl

end VendorSql.OrderedMap
