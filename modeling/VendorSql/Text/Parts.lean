/-!
# Parts of a text

A text is taken apart at a mark: once, at its first occurrence, or everywhere.
-/
namespace VendorSql.Text

/-- What stands before the first `mark` and what stands after it. -/
def splitFirst? (mark : Char) : List Char → Option (List Char × List Char)
  | [] => none
  | c :: rest =>
    if c = mark then some ([], rest)
    else (splitFirst? mark rest).map fun (before, after) => (c :: before, after)

/-- What stands between the marks; there is one part more than there are marks. -/
def parts (mark : Char) : List Char → List (List Char)
  | [] => [[]]
  | c :: rest =>
    match parts mark rest with
    | first :: others => if c = mark then [] :: first :: others else (c :: first) :: others
    | [] => [[c]]

theorem parts_ne_nil (mark : Char) (chars : List Char) : parts mark chars ≠ [] := by
  cases chars with
  | nil => simp [parts]
  | cons c rest =>
    simp only [parts]
    split
    · split <;> simp
    · simp

theorem parts_of_not_mem {mark : Char} {chars : List Char} (absent : mark ∉ chars) :
    parts mark chars = [chars] := by
  induction chars with
  | nil => rfl
  | cons c rest ih =>
    have other : c ≠ mark := fun same => absent (same ▸ List.mem_cons_self)
    have later := ih fun member => absent (List.mem_cons_of_mem c member)
    simp [parts, other, later]

/-- The first part ends at the first mark. -/
theorem parts_append {mark : Char} {before : List Char} (absent : mark ∉ before)
    (after : List Char) : parts mark (before ++ mark :: after) = before :: parts mark after := by
  induction before with
  | nil =>
    cases split : parts mark after with
    | nil => exact absurd split (parts_ne_nil mark after)
    | cons first others => simp [parts, split]
  | cons c rest ih =>
    have other : c ≠ mark := fun same => absent (same ▸ List.mem_cons_self)
    have later := ih fun member => absent (List.mem_cons_of_mem c member)
    simp [parts, other, later]

theorem splitFirst?_eq_some {mark : Char} {chars before after : List Char}
    (split : splitFirst? mark chars = some (before, after)) :
    chars = before ++ mark :: after ∧ mark ∉ before := by
  induction chars generalizing before with
  | nil => simp [splitFirst?] at split
  | cons c rest ih =>
    by_cases same : c = mark
    · simp only [splitFirst?, same, if_true, Option.some.injEq, Prod.mk.injEq] at split
      simp [← split.1, ← split.2, same]
    · simp only [splitFirst?, same, if_false, Option.map_eq_some_iff, Prod.mk.injEq] at split
      obtain ⟨⟨first, second⟩, found, rfl, rfl⟩ := split
      obtain ⟨whole, absent⟩ := ih found
      simp [whole, absent, Ne.symm same]

/-- A text without the mark ends at the first one. -/
theorem splitFirst?_append {mark : Char} {before : List Char} (absent : mark ∉ before)
    (after : List Char) : splitFirst? mark (before ++ mark :: after) = some (before, after) := by
  induction before with
  | nil => simp [splitFirst?]
  | cons c rest ih =>
    have other : c ≠ mark := fun same => absent (same ▸ List.mem_cons_self)
    have later := ih fun member => absent (List.mem_cons_of_mem c member)
    simp [splitFirst?, other, later]

end VendorSql.Text
