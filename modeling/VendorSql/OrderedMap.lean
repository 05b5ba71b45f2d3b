/-!
# Maps that remember the order of insertion

Attributes, rows, port tables and the vendors of a registry all keep their entries in the order in
which the keys first came in. A map is its list of entries; that no key occurs twice is part of the
type, so a lookup has one answer and the keys are a list without repetition.
-/
namespace VendorSql

/-- A finite map whose entries stand in the order in which their keys were first inserted. -/
structure OrderedMap (κ ν : Type) where
  entries : List (κ × ν)
  distinct : (entries.map Prod.fst).Nodup

namespace OrderedMap

variable {κ ν : Type}

theorem ext {left right : OrderedMap κ ν} (same : left.entries = right.entries) : left = right := by
  cases left
  cases right
  simp_all

instance [DecidableEq κ] [DecidableEq ν] : DecidableEq (OrderedMap κ ν) := fun left right =>
  decidable_of_iff (left.entries = right.entries) ⟨ext, fun same => same ▸ rfl⟩

instance [Repr κ] [Repr ν] : Repr (OrderedMap κ ν) := ⟨fun map => reprPrec map.entries⟩

def empty : OrderedMap κ ν := ⟨[], List.nodup_nil⟩

instance : Inhabited (OrderedMap κ ν) := ⟨empty⟩

def keys (map : OrderedMap κ ν) : List κ := map.entries.map Prod.fst

def size (map : OrderedMap κ ν) : Nat := map.entries.length

/-- The value of the first entry whose key passes the test. -/
def findKey? (map : OrderedMap κ ν) (test : κ → Bool) : Option ν :=
  (map.entries.find? fun entry => test entry.1).map Prod.snd

variable [DecidableEq κ]

def get? (map : OrderedMap κ ν) (key : κ) : Option ν :=
  map.findKey? (· == key)

def contains (map : OrderedMap κ ν) (key : κ) : Bool :=
  map.keys.contains key

/-- The entries with `key` set to `value`: in its place if the key is there, else at the end. -/
def setEntry (key : κ) (value : ν) : List (κ × ν) → List (κ × ν)
  | [] => [(key, value)]
  | entry :: rest =>
    if entry.1 = key then (key, value) :: rest else entry :: setEntry key value rest

/-- Setting an entry adds its key at the end unless it is there already. -/
theorem keys_setEntry (key : κ) (value : ν) (entries : List (κ × ν)) :
    (setEntry key value entries).map Prod.fst =
      if key ∈ entries.map Prod.fst then entries.map Prod.fst
      else entries.map Prod.fst ++ [key] := by
  induction entries with
  | nil => simp [setEntry]
  | cons entry rest ih =>
    by_cases same : entry.1 = key
    · simp [setEntry, same]
    · have other : ¬ key = entry.1 := fun h => same h.symm
      simp only [setEntry, same, if_false, List.map_cons, List.mem_cons, other, false_or, ih]
      split <;> simp

/-- A key that is not there is set at the end. -/
theorem setEntry_of_not_mem {key : κ} {entries : List (κ × ν)}
    (absent : key ∉ entries.map Prod.fst) (value : ν) :
    setEntry key value entries = entries ++ [(key, value)] := by
  induction entries with
  | nil => rfl
  | cons entry rest ih =>
    rw [List.map_cons, List.mem_cons, not_or] at absent
    rw [setEntry, if_neg (Ne.symm absent.1), ih absent.2]
    rfl

/-- The map with `key` set to `value`; a key that is there keeps its place. -/
def insert (map : OrderedMap κ ν) (key : κ) (value : ν) : OrderedMap κ ν where
  entries := setEntry key value map.entries
  distinct := by
    rw [keys_setEntry]
    split
    · exact map.distinct
    · next absent =>
      rw [List.nodup_append]
      exact ⟨map.distinct, by simp, fun a present b last => by
        simp only [List.mem_singleton] at last
        subst last
        exact fun same => absent (same ▸ present)⟩

/-- The map without `key`; the other entries keep their order. -/
def erase (map : OrderedMap κ ν) (key : κ) : OrderedMap κ ν where
  entries := map.entries.filter fun entry => entry.1 ≠ key
  distinct := map.distinct.sublist (List.filter_sublist.map Prod.fst)

/-- The map that results from inserting the pairs one after another. -/
def ofList (pairs : List (κ × ν)) : OrderedMap κ ν :=
  pairs.foldl (fun map (key, value) => map.insert key value) empty

theorem keys_insert (map : OrderedMap κ ν) (key : κ) (value : ν) :
    (map.insert key value).keys = if key ∈ map.keys then map.keys else map.keys ++ [key] :=
  keys_setEntry key value map.entries

/-! ### Looking up what was inserted -/

omit [DecidableEq κ] in
/-- A lookup sees the entries that pass its test, and of those the first. -/
theorem findKey?_eq_head? (map : OrderedMap κ ν) (test : κ → Bool) :
    map.findKey? test = (map.entries.filter fun entry => test entry.1).head?.map Prod.snd := by
  rw [findKey?, List.head?_filter]

/-- Setting an entry is seen by the tests its key passes, as the setting of that entry. -/
theorem filter_setEntry (test : κ → Bool) (key : κ) (value : ν) (entries : List (κ × ν)) :
    (setEntry key value entries).filter (fun entry => test entry.1) =
      if test key then setEntry key value (entries.filter fun entry => test entry.1)
      else entries.filter fun entry => test entry.1 := by
  induction entries with
  | nil => cases passes : test key <;> simp [setEntry, passes]
  | cons entry rest ih =>
    by_cases same : entry.1 = key
    · subst same
      cases passes : test entry.1 <;> simp [setEntry, passes]
    · cases passes : test entry.1 <;> cases among : test key <;>
        simp_all [setEntry]

/-- A key stands in one entry only, so a search for it ends at that entry. -/
theorem find?_eq_of_mem {entries : List (κ × ν)} (distinct : (entries.map Prod.fst).Nodup)
    {key : κ} {value : ν} (present : (key, value) ∈ entries) :
    entries.find? (fun entry => entry.1 == key) = some (key, value) := by
  induction entries with
  | nil => cases present
  | cons entry rest ih =>
    obtain ⟨absent, distinct⟩ := List.nodup_cons.mp distinct
    rcases List.mem_cons.mp present with rfl | later
    · simp
    · have other : entry.1 ≠ key :=
        fun same => absent (same ▸ List.mem_map_of_mem (f := Prod.fst) later)
      rw [List.find?_cons_of_neg (by simpa using other)]
      exact ih distinct later

theorem get?_eq_some_iff {map : OrderedMap κ ν} {key : κ} {value : ν} :
    map.get? key = some value ↔ (key, value) ∈ map.entries := by
  constructor
  · intro found
    obtain ⟨entry, search, rfl⟩ := Option.map_eq_some_iff.mp found
    have same : entry.1 = key := by simpa using List.find?_some search
    exact same ▸ List.mem_of_find?_eq_some search
  · intro present
    simp only [get?, findKey?, find?_eq_of_mem map.distinct present, Option.map_some]

theorem get?_eq_none_iff {map : OrderedMap κ ν} {key : κ} :
    map.get? key = none ↔ key ∉ map.keys := by
  rw [Option.eq_none_iff_forall_ne_some, keys, List.mem_map]
  constructor
  · rintro absent ⟨entry, present, rfl⟩
    exact absent entry.2 (get?_eq_some_iff.mpr present)
  · intro absent value found
    exact absent ⟨(key, value), get?_eq_some_iff.mp found, rfl⟩

/-- Setting a key changes what is found under that key only. -/
theorem get?_insert (map : OrderedMap κ ν) (key other : κ) (value : ν) :
    (map.insert key value).get? other = if other = key then some value else map.get? other := by
  simp only [get?, findKey?_eq_head?, insert, filter_setEntry (· == other)]
  -- Only entries under `other` count, and none of them is touched by setting another key.
  by_cases same : other = key
  · subst same
    rw [beq_self_eq_true, if_pos rfl, if_pos rfl]
    cases kept : map.entries.filter fun entry => entry.1 == other with
    | nil => rfl
    | cons entry rest =>
      have member : entry ∈ map.entries.filter fun entry => entry.1 == other := by simp [kept]
      have found : entry.1 = other := by simpa using (List.mem_filter.mp member).2
      rw [setEntry, if_pos found]
      rfl
  · have differ : (key == other) = false := by simpa using Ne.symm same
    rw [differ, if_neg same]
    rfl

/-- Pairs whose keys are new, all of them, are appended as they stand. -/
theorem entries_foldl_insert (map : OrderedMap κ ν) (pairs : List (κ × ν))
    (distinct : (map.keys ++ pairs.map Prod.fst).Nodup) :
    (pairs.foldl (fun map (key, value) => map.insert key value) map).entries =
      map.entries ++ pairs := by
  induction pairs generalizing map with
  | nil => simp
  | cons pair pairs ih =>
    obtain ⟨key, value⟩ := pair
    have absent : key ∉ map.keys := by
      intro present
      exact (List.nodup_append.mp distinct).2.2 key present key (by simp) rfl
    have added : (map.insert key value).entries = map.entries ++ [(key, value)] :=
      setEntry_of_not_mem absent value
    rw [List.foldl_cons, ih, added, List.append_assoc]
    · rfl
    · rw [keys, added]
      simpa [keys] using distinct

/-- Pairs without a repeated key are the entries of the map made of them. -/
theorem entries_ofList {pairs : List (κ × ν)} (distinct : (pairs.map Prod.fst).Nodup) :
    (ofList pairs).entries = pairs :=
  entries_foldl_insert empty pairs distinct

theorem ofList_entries (map : OrderedMap κ ν) : ofList map.entries = map :=
  ext (entries_ofList map.distinct)

/-- The other keys keep their values when one is erased. -/
theorem get?_erase (map : OrderedMap κ ν) {key other : κ} (differ : other ≠ key) :
    (map.erase key).get? other = map.get? other := by
  simp only [get?, findKey?_eq_head?, erase, List.filter_filter]
  congr 2
  apply List.filter_congr
  intro entry _
  by_cases same : entry.1 = other
  · simp [same, differ]
  · simp [same]

end OrderedMap

end VendorSql
