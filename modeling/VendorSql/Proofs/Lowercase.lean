import VendorSql.Text.CharClass
import VendorSql.Text.Case
import Mathlib.Data.List.DropRight

/-!
# Texts that are lowercase or trimmed already

No letter that lowercasing yields would change again, so a text in lowercase stays what it is; the
capital sigma, whose form depends on what surrounds it, does not survive the first time. Lowercasing
turns blanks into themselves and nothing else into a blank, so a text has blanks around it exactly
if its lowercase has. Both rest on a few facts about the table of lowercase forms, which are checked
run by run instead of letter by letter.
-/
namespace VendorSql.Text

/-! ### Runs of the table -/

namespace CaseRun

/-- The first and the last image of a run. -/
def image (run : CaseRun) : Nat × Nat :=
  ((run.first + run.shift).toNat, (run.last + run.shift).toNat)

def yieldsChars (run : CaseRun) : Bool :=
  decide (0 ≤ run.first + run.shift) &&
    (Nat.blt run.image.2 0xd800 || Nat.blt 0xdfff run.image.1 && Nat.blt run.image.2 0x110000)

/-- Whether no image of `run` is in `other`, because it lies before or behind it or between two of
its steps. -/
def avoids (run other : CaseRun) : Bool :=
  Nat.blt run.image.2 other.first || Nat.blt other.last run.image.1 ||
    (Nat.beq ((run.image.1 - other.first) % 2) 1 && Nat.beq other.step 2 &&
      (Nat.beq run.step 2 || Nat.beq run.first run.last))

theorem covers_iff (run : CaseRun) (code : Nat) :
    run.covers code = true ↔
      (run.first ≤ code ∧ code ≤ run.last) ∧ (code - run.first) % run.step = 0 := by
  simp [covers]

theorem isValidChar_of_covers {run : CaseRun} {code : Nat} (yields : run.yieldsChars = true)
    (covered : run.covers code = true) : (code + run.shift).toNat.isValidChar := by
  simp only [yieldsChars, image, Bool.and_eq_true, Bool.or_eq_true, decide_eq_true_eq,
    Nat.blt_eq] at yields
  obtain ⟨⟨first, last⟩, _⟩ := (covers_iff run code).mp covered
  simp only [Nat.isValidChar]
  omega

/-- The image of a letter lies in no run that its own run avoids. -/
theorem not_covers_of_avoids {run other : CaseRun} {code : Nat}
    (avoided : run.avoids other = true) (covered : run.covers code = true) :
    other.covers (code + run.shift).toNat = false := by
  obtain ⟨⟨first, last⟩, step⟩ := (covers_iff run code).mp covered
  rw [Bool.eq_false_iff, ne_eq, covers_iff]
  rintro ⟨⟨above, below⟩, step'⟩
  simp only [avoids, image, Bool.or_eq_true, Bool.and_eq_true, Nat.blt_eq, Nat.beq_eq] at avoided
  rcases avoided with (before | behind) | ⟨⟨odd, two⟩, two' | single⟩
  · omega
  · omega
  · rw [two'] at step
    rw [two] at step'
    omega
  · rw [two] at step'
    omega

end CaseRun

/-- Runs of the letters that lowercasing does not move: blanks, and the letter whose lowercase form
is not in the table. -/
def unmoved : List CaseRun :=
  ⟨0x130, 0x130, 1, 0⟩ :: blankRanges.map fun (first, last) => ⟨first, last, 1, 0⟩

theorem yieldsChars_lowerRuns {run : CaseRun} (member : run ∈ lowerRuns) :
    run.yieldsChars = true := by
  have table : lowerRuns.all CaseRun.yieldsChars = true := by decide +kernel
  exact List.all_eq_true.mp table run member

theorem avoids_lowerRuns {run other : CaseRun} (member : run ∈ unmoved ++ lowerRuns)
    (table : other ∈ lowerRuns) : run.avoids other = true := by
  have apart : (unmoved ++ lowerRuns).all (fun run => lowerRuns.all run.avoids) = true := by
    decide +kernel
  exact List.all_eq_true.mp (List.all_eq_true.mp apart run member) other table

theorem avoids_unmoved {run other : CaseRun} (member : run ∈ lowerRuns)
    (still : other ∈ unmoved) : run.avoids other = true := by
  have apart : lowerRuns.all (fun run => unmoved.all run.avoids) = true := by decide +kernel
  exact List.all_eq_true.mp (List.all_eq_true.mp apart run member) other still

/-- A code point is moved by a run that covers it, or no run covers it and it stays. -/
theorem shifted_cases (runs : List CaseRun) (code : Nat) :
    (∃ run ∈ runs, run.covers code = true ∧ shifted runs code = (code + run.shift).toNat) ∨
      (∀ run ∈ runs, run.covers code = false) ∧ shifted runs code = code := by
  cases found : runs.find? (·.covers code) with
  | some run =>
    have covered : run.covers code = true := by simpa using List.find?_some found
    exact .inl ⟨run, List.mem_of_find?_eq_some found, covered, by simp only [shifted, found]⟩
  | none =>
    have uncovered := List.find?_eq_none.mp found
    refine .inr ⟨?_, by simp only [shifted, found]⟩
    intro run member
    simpa using uncovered run member

/-! ### Letters -/

theorem toNat_ofNat_of_valid {code : Nat} (valid : code.isValidChar) :
    (Char.ofNat code).toNat = code := by
  rw [Char.ofNat, dif_pos valid]
  rfl

/-- Whether lowercasing does not change a letter, wherever it stands. -/
def IsLower (c : Char) : Prop :=
  c ≠ 'İ' ∧ ∀ run ∈ lowerRuns, run.covers c.toNat = false

instance (c : Char) : Decidable (IsLower c) :=
  inferInstanceAs (Decidable (c ≠ 'İ' ∧ ∀ run ∈ lowerRuns, run.covers c.toNat = false))

theorem IsLower.lowerChar_eq {c : Char} (settled : IsLower c) : lowerChar c = [c] := by
  rcases shifted_cases lowerRuns c.toNat with ⟨run, member, covered, _⟩ | ⟨_, same⟩
  · rw [settled.2 run member] at covered
    cases covered
  · rw [lowerChar, if_neg settled.1, same, Char.ofNat_toNat]

theorem IsLower.ne_sigma {c : Char} (settled : IsLower c) : c ≠ 'Σ' := by
  rintro rfl
  revert settled
  decide +kernel

theorem covers_unmoved_of_isBlank {c : Char} (blank : isBlank c = true) :
    ∃ run ∈ unmoved, run.covers c.toNat = true ∧ run.shift = 0 := by
  obtain ⟨range, member, inside⟩ := (Ranges.contains_iff blankRanges c.toNat).mp blank
  refine ⟨⟨range.1, range.2, 1, 0⟩, List.mem_cons_of_mem _ (List.mem_map_of_mem member), ?_, rfl⟩
  exact (CaseRun.covers_iff _ _).mpr ⟨inside, Nat.mod_one _⟩

/-- Blanks stay what they are. -/
theorem isLower_of_isBlank {c : Char} (blank : isBlank c = true) : IsLower c := by
  obtain ⟨still, member, covered, unshifted⟩ := covers_unmoved_of_isBlank blank
  constructor
  · rintro rfl
    revert blank
    decide +kernel
  · intro run table
    have uncovered := CaseRun.not_covers_of_avoids
      (avoids_lowerRuns (List.mem_append_left _ member) table) covered
    simpa [unshifted] using uncovered

/-- What a run moves a letter to is lowercase and no blank. -/
theorem settled_of_covers {run : CaseRun} (member : run ∈ lowerRuns) {code : Nat}
    (covered : run.covers code = true) :
    let c := Char.ofNat (code + run.shift).toNat
    IsLower c ∧ isBlank c = false := by
  intro c
  have same : c.toNat = (code + run.shift).toNat :=
    toNat_ofNat_of_valid (CaseRun.isValidChar_of_covers (yieldsChars_lowerRuns member) covered)
  -- Neither a blank nor the letter that is not in the table is an image.
  have apart : ∀ other ∈ unmoved, other.covers c.toNat = false := by
    intro other still
    rw [same]
    exact CaseRun.not_covers_of_avoids (avoids_unmoved member still) covered
  refine ⟨⟨?_, ?_⟩, ?_⟩
  · intro capital
    have uncovered := apart _ List.mem_cons_self
    rw [capital] at uncovered
    revert uncovered
    decide
  · intro other table
    rw [same]
    exact CaseRun.not_covers_of_avoids (avoids_lowerRuns (List.mem_append_right _ member) table)
      covered
  · rw [Bool.eq_false_iff]
    intro blank
    obtain ⟨other, still, inside, _⟩ := covers_unmoved_of_isBlank blank
    rw [apart other still] at inside
    cases inside

/-- Lowercasing a letter leaves nothing to lowercase, and makes no blank of it. -/
theorem settled_of_mem_lowerChar {c d : Char} (member : d ∈ lowerChar c) :
    IsLower d ∧ isBlank d = isBlank c := by
  unfold lowerChar at member
  split at member
  -- One letter becomes two, which are checked one by one.
  next capital =>
    subst capital
    have settled : (lowerChar 'İ').all
        (fun d => decide (IsLower d ∧ isBlank d = isBlank 'İ')) = true := by decide +kernel
    exact of_decide_eq_true (List.all_eq_true.mp settled d member)
  next other =>
    rw [List.mem_singleton] at member
    subst member
    rcases shifted_cases lowerRuns c.toNat with ⟨run, table, covered, moved⟩ | ⟨uncovered, same⟩
    · -- A letter that moves is no blank, as blanks do not.
      have unblank : isBlank c = false := by
        rw [Bool.eq_false_iff]
        intro blank
        rw [(isLower_of_isBlank blank).2 run table] at covered
        cases covered
      rw [moved, unblank]
      exact settled_of_covers table covered
    · rw [same, Char.ofNat_toNat]
      exact ⟨⟨other, uncovered⟩, rfl⟩

theorem lowerSigma_cases (before after : List Char) :
    lowerSigma before after = 'ς' ∨ lowerSigma before after = 'σ' := by
  unfold lowerSigma
  split
  · exact .inl rfl
  · exact .inr rfl

/-! ### Texts -/

/-- What becomes of a letter between `before`, nearest first, and `after`. -/
def lowerAt (before : List Char) (c : Char) (after : List Char) : List Char :=
  if c = 'Σ' then [lowerSigma before after] else lowerChar c

theorem lowerAfter_cons (before : List Char) (c : Char) (rest : List Char) :
    lowerAfter before (c :: rest) = lowerAt before c rest ++ lowerAfter (c :: before) rest :=
  rfl

/-- What a letter becomes is lowercase, and blank exactly if the letter is. -/
theorem settled_of_mem_lowerAt {before after : List Char} {c d : Char}
    (member : d ∈ lowerAt before c after) : IsLower d ∧ isBlank d = isBlank c := by
  unfold lowerAt at member
  split at member
  next sigma =>
    rw [List.mem_singleton] at member
    subst sigma member
    rcases lowerSigma_cases before after with form | form <;> rw [form] <;> decide +kernel
  next => exact settled_of_mem_lowerChar member

theorem lowerAt_ne_nil (before : List Char) (c : Char) (after : List Char) :
    lowerAt before c after ≠ [] := by
  unfold lowerAt lowerChar
  split
  · simp
  · split <;> simp

theorem isLower_lowerAfter (before chars : List Char) :
    ∀ c ∈ lowerAfter before chars, IsLower c := by
  induction chars generalizing before with
  | nil => simp [lowerAfter]
  | cons c rest ih =>
    rw [lowerAfter_cons, List.forall_mem_append]
    exact ⟨fun d member => (settled_of_mem_lowerAt member).1, ih (c :: before)⟩

theorem lowerAfter_eq_self {chars : List Char} (settled : ∀ c ∈ chars, IsLower c)
    (before : List Char) : lowerAfter before chars = chars := by
  induction chars generalizing before with
  | nil => rfl
  | cons c rest ih =>
    obtain ⟨first, later⟩ := List.forall_mem_cons.mp settled
    rw [lowerAfter_cons, lowerAt, if_neg first.ne_sigma, first.lowerChar_eq, ih later]
    rfl

/-- A text in lowercase stays what it is. -/
@[simp] theorem lower_lower (text : String) : lower (lower text) = lower text := by
  rw [lower, lower, String.toList_ofList, lowerAfter_eq_self (isLower_lowerAfter [] _)]

/-! ### Blanks around a text -/

def IsTrimmed (chars : List Char) : Prop :=
  chars.head?.map isBlank ≠ some true ∧ chars.getLast?.map isBlank ≠ some true

theorem head?_dropWhile_isBlank (chars : List Char) :
    (chars.dropWhile isBlank).head?.map isBlank ≠ some true := by
  have first := List.head?_dropWhile_not isBlank chars
  cases found : (chars.dropWhile isBlank).head? with
  | none => simp
  | some c =>
    rw [found] at first
    simpa using first

theorem isTrimmed_trimChars (chars : List Char) : IsTrimmed (trimChars chars) := by
  constructor
  · -- Dropping blanks from the end leaves the beginning, unless nothing is left.
    obtain ⟨blanks, whole⟩ := List.dropWhile_suffix (l := (chars.dropWhile isBlank).reverse) isBlank
    cases kept : ((chars.dropWhile isBlank).reverse.dropWhile isBlank).getLast? with
    | none => simp [trimChars, kept]
    | some c =>
      have first : (chars.dropWhile isBlank).head? = some c := by
        rw [← List.getLast?_reverse, ← whole, List.getLast?_append, kept]
        rfl
      rw [trimChars, List.head?_reverse, kept, ← first]
      exact head?_dropWhile_isBlank chars
  · rw [trimChars, List.getLast?_reverse]
    exact head?_dropWhile_isBlank _

theorem dropWhile_isBlank_eq_self {chars : List Char}
    (first : chars.head?.map isBlank ≠ some true) : chars.dropWhile isBlank = chars := by
  cases chars with
  | nil => rfl
  | cons c rest =>
    have unblank : isBlank c = false := by simpa using first
    rw [List.dropWhile_cons, unblank, if_neg Bool.false_ne_true]

theorem trimChars_eq_self_iff {chars : List Char} : trimChars chars = chars ↔ IsTrimmed chars := by
  constructor
  · intro same
    rw [← same]
    exact isTrimmed_trimChars chars
  · rintro ⟨first, last⟩
    rw [← List.head?_reverse] at last
    rw [trimChars, dropWhile_isBlank_eq_self first, dropWhile_isBlank_eq_self last,
      List.reverse_reverse]

/-- What is trimmed off are blanks, all those at the two ends. -/
theorem trimChars_eq_iff {chars inner : List Char} :
    trimChars chars = inner ↔ IsTrimmed inner ∧ ∃ before after,
      (∀ c ∈ before, isBlank c = true) ∧ (∀ c ∈ after, isBlank c = true) ∧
      chars = before ++ (inner ++ after) := by
  constructor
  · rintro rfl
    refine ⟨isTrimmed_trimChars chars, chars.takeWhile isBlank,
      ((chars.dropWhile isBlank).reverse.takeWhile isBlank).reverse, ?_, ?_, ?_⟩
    · exact fun c member => List.all_eq_true.mp List.all_takeWhile c member
    · intro c member
      exact List.all_eq_true.mp List.all_takeWhile c (List.mem_reverse.mp member)
    · rw [trimChars, ← List.reverse_append, List.takeWhile_append_dropWhile, List.reverse_reverse,
        List.takeWhile_append_dropWhile]
  · rintro ⟨⟨first, last⟩, before, after, leading, trailing, rfl⟩
    rw [trimChars, List.dropWhile_append_of_pos leading]
    have behind : ∀ c ∈ after.reverse, isBlank c = true :=
      fun c member => trailing c (List.mem_reverse.mp member)
    -- Blanks around nothing are dropped all at once; else the first and the last letter stop the
    -- drop.
    cases inner with
    | nil =>
      have dropped : after.dropWhile isBlank = [] := List.dropWhile_eq_nil_iff.mpr trailing
      rw [List.nil_append, dropped]
      rfl
    | cons c rest =>
      have kept : (c :: rest ++ after).dropWhile isBlank = c :: rest ++ after :=
        dropWhile_isBlank_eq_self (by simpa using first)
      rw [← List.head?_reverse] at last
      rw [kept, List.reverse_append, List.dropWhile_append_of_pos behind,
        dropWhile_isBlank_eq_self last, List.reverse_reverse]

theorem head?_lowerAfter (before chars : List Char) :
    (lowerAfter before chars).head?.map isBlank = chars.head?.map isBlank := by
  cases chars with
  | nil => rfl
  | cons c rest =>
    cases written : lowerAt before c rest with
    | nil => exact absurd written (lowerAt_ne_nil before c rest)
    | cons d others =>
      have same := (settled_of_mem_lowerAt (written ▸ List.mem_cons_self)).2
      simp [lowerAfter_cons, written, same]

/-- Lowercasing keeps whether the last letter is a blank. -/
theorem getLast?_lowerAfter (before chars : List Char) :
    (lowerAfter before chars).getLast?.map isBlank = chars.getLast?.map isBlank := by
  induction chars generalizing before with
  | nil => rfl
  | cons c rest ih =>
    rw [lowerAfter_cons, List.getLast?_append, List.getLast?_cons]
    have later := ih (c :: before)
    -- The last letter stands behind others, or is the only one.
    cases last : rest.getLast? with
    | some d =>
      rw [last, Option.map_some, Option.map_eq_some_iff] at later
      obtain ⟨e, found, same⟩ := later
      simp [found, same]
    | none =>
      rw [last, Option.map_none, Option.map_eq_none_iff] at later
      have written := List.getLast?_eq_some_getLast (lowerAt_ne_nil before c rest)
      have same := (settled_of_mem_lowerAt (List.mem_of_getLast? written)).2
      simp [later, written, same]

/-- Lowercasing does not change whether a text begins or ends with a blank. -/
theorem isTrimmed_lowerAfter {before chars : List Char} :
    IsTrimmed (lowerAfter before chars) ↔ IsTrimmed chars := by
  rw [IsTrimmed, IsTrimmed, head?_lowerAfter, getLast?_lowerAfter]

theorem trim_eq_self_iff {text : String} : trim text = text ↔ IsTrimmed text.toList := by
  rw [← trimChars_eq_self_iff, trim, ← String.toList_inj, String.toList_ofList]

theorem trim_lower_eq_self_iff {text : String} :
    trim (lower text) = lower text ↔ trim text = text := by
  rw [trim_eq_self_iff, trim_eq_self_iff, lower, String.toList_ofList, isTrimmed_lowerAfter]

@[simp] theorem trim_trim (text : String) : trim (trim text) = trim text := by
  rw [trim_eq_self_iff, trim, String.toList_ofList]
  exact isTrimmed_trimChars _

end VendorSql.Text
