import VendorSql.Proofs.Lowercase

/-!
# Texts that are uppercase already

Uppercasing looks at no surroundings, but it may turn one letter into several. None of the letters
it yields has another uppercase form, neither a single letter nor an expansion, so a text in
uppercase stays what it is. As for lowercase, this is read off the table run by run: the images of a
run lie before or behind every other run, or fall between its steps.
-/
namespace VendorSql.Text

namespace CaseRun

/-- Whether every second code is in `other`, and the images of `run` are among the codes between. -/
def alternates (run other : CaseRun) : Bool :=
  Nat.beq other.step 2 && (Nat.beq run.step 2 || Nat.beq run.first run.last) &&
    Nat.beq ((run.image.1 + other.first) % 2) 1

/-- Between two runs that alternate, the image of a letter of the one misses the other. -/
theorem not_covers_of_alternates {run other : CaseRun} {code : Nat}
    (alternate : run.alternates other = true) (covered : run.covers code = true)
    (yields : run.yieldsChars = true) : other.covers (code + run.shift).toNat = false := by
  obtain ⟨⟨first, last⟩, step⟩ := (covers_iff run code).mp covered
  simp only [alternates, yieldsChars, image, Bool.and_eq_true, Bool.or_eq_true, Nat.beq_eq,
    decide_eq_true_eq] at alternate yields
  rw [Bool.eq_false_iff, ne_eq, covers_iff]
  rintro ⟨⟨above, below⟩, step'⟩
  obtain ⟨⟨two, two' | single⟩, odd⟩ := alternate
  -- Steps of two keep the parity, and the two runs begin with different ones.
  · rw [two'] at step
    rw [two] at step'
    omega
  -- A run of one letter has one image, of the parity that `other` has not.
  · rw [two] at step'
    omega

end CaseRun

/-! ### Letters -/

/-- The letters with an expansion, each in a run of its own. -/
def expanded : List CaseRun :=
  upperExpansions.map fun (code, _) => ⟨code, code, 1, 0⟩

/-- Whether uppercasing does not change a letter. -/
def IsUpper (c : Char) : Prop :=
  ∀ run ∈ expanded ++ upperRuns, run.covers c.toNat = false

instance (c : Char) : Decidable (IsUpper c) :=
  inferInstanceAs (Decidable (∀ run ∈ expanded ++ upperRuns, run.covers c.toNat = false))

theorem lookup_upperExpansions_eq_none_iff (code : Nat) :
    upperExpansions.lookup code = none ↔ ∀ run ∈ expanded, run.covers code = false := by
  simp only [List.lookup_eq_none_iff, expanded, List.forall_mem_map]
  refine forall₂_congr fun (letter, _) _ => ?_
  -- A run of one letter covers that letter.
  rw [Bool.eq_false_iff, ne_eq, CaseRun.covers_iff, bne_iff_ne]
  simp only [Nat.mod_one, and_true]
  omega

theorem IsUpper.upperChar_eq {c : Char} (settled : IsUpper c) : upperChar c = [c] := by
  obtain ⟨single, uncovered⟩ := List.forall_mem_append.mp settled
  rw [upperChar, (lookup_upperExpansions_eq_none_iff c.toNat).mpr single]
  rcases shifted_cases upperRuns c.toNat with ⟨run, member, covered, _⟩ | ⟨_, same⟩
  · rw [uncovered run member] at covered
    cases covered
  · simp only [same, Char.ofNat_toNat]

/-! ### What the table yields -/

theorem yieldsChars_upperRuns {run : CaseRun} (member : run ∈ upperRuns) :
    run.yieldsChars = true := by
  have table : upperRuns.all CaseRun.yieldsChars = true := by decide +kernel
  exact List.all_eq_true.mp table run member

theorem avoids_or_alternates {run other : CaseRun} (member : run ∈ upperRuns)
    (table : other ∈ expanded ++ upperRuns) :
    run.avoids other = true ∨ run.alternates other = true := by
  have apart : upperRuns.all (fun run => (expanded ++ upperRuns).all fun other =>
      run.avoids other || run.alternates other) = true := by decide +kernel
  rw [← Bool.or_eq_true]
  exact List.all_eq_true.mp (List.all_eq_true.mp apart run member) other table

/-- What a run moves a letter to is uppercase. -/
theorem isUpper_of_covers {run : CaseRun} (member : run ∈ upperRuns) {code : Nat}
    (covered : run.covers code = true) : IsUpper (Char.ofNat (code + run.shift).toNat) := by
  have yields := yieldsChars_upperRuns member
  intro other table
  rw [toNat_ofNat_of_valid (CaseRun.isValidChar_of_covers yields covered)]
  rcases avoids_or_alternates member table with avoided | alternate
  · exact CaseRun.not_covers_of_avoids avoided covered
  · exact CaseRun.not_covers_of_alternates alternate covered yields

/-- The letters of an expansion are uppercase already. -/
theorem isUpper_of_mem_expansion {entry : Nat × List Nat} (member : entry ∈ upperExpansions)
    {code : Nat} (inside : code ∈ entry.2) : IsUpper (Char.ofNat code) := by
  have table : upperExpansions.all (fun entry =>
      entry.2.all fun code => decide (IsUpper (Char.ofNat code))) = true := by decide +kernel
  exact of_decide_eq_true
    (List.all_eq_true.mp (List.all_eq_true.mp table entry member) code inside)

/-- Uppercasing a letter leaves nothing to uppercase. -/
theorem isUpper_of_mem_upperChar {c d : Char} (member : d ∈ upperChar c) : IsUpper d := by
  unfold upperChar at member
  split at member
  next codes found =>
    obtain ⟨before, after, split, _⟩ := List.lookup_eq_some_iff.mp found
    obtain ⟨code, inside, rfl⟩ := List.mem_map.mp member
    have entry : (c.toNat, codes) ∈ upperExpansions := by simp [split]
    exact isUpper_of_mem_expansion entry inside
  next single =>
    rw [List.mem_singleton] at member
    subst member
    -- A letter that a run moves has an image, which is settled; any other one stays what it is.
    rcases shifted_cases upperRuns c.toNat with ⟨run, table, covered, moved⟩ | ⟨uncovered, same⟩
    · rw [moved]
      exact isUpper_of_covers table covered
    · rw [same, Char.ofNat_toNat]
      exact List.forall_mem_append.mpr
        ⟨(lookup_upperExpansions_eq_none_iff c.toNat).mp single, uncovered⟩

/-! ### Texts -/

/-- A text in uppercase stays what it is. -/
@[simp] theorem upper_upper (text : String) : upper (upper text) = upper text := by
  have settled (chars : List Char) (upper : ∀ c ∈ chars, IsUpper c) :
      chars.flatMap upperChar = chars := by
    induction chars with
    | nil => rfl
    | cons c rest ih =>
      obtain ⟨first, later⟩ := List.forall_mem_cons.mp upper
      rw [List.flatMap_cons, first.upperChar_eq, ih later]
      rfl
  rw [upper, upper, String.toList_ofList, settled]
  intro d member
  obtain ⟨c, _, yielded⟩ := List.mem_flatMap.mp member
  exact isUpper_of_mem_upperChar yielded

/-- Each of these letters becomes two. -/
example : upper "ŉß" = "ʼNSS" := by decide +kernel

end VendorSql.Text
