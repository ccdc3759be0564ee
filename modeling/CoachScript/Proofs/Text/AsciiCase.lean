import CoachScript.Text.Lowercase
import Mathlib.Tactic.SplitIfs

/-!
# The case of ASCII letters

* `toLower_cases`: only ASCII capitals have another small letter, 32 places on.
* `alike_toLower`: a character and its small ASCII letter have one small form, and count alike for case.
* **`lowercase_eq_of_equalAsciiCase`**: texts that are equal up to the case of ASCII letters have the same
  small letters.
-/

namespace CoachScript

/-! ### Characters -/

/-- Only ASCII capitals have another small letter, 32 places on. -/
theorem toLower_cases (c : Char) : c.toLower = c ∨
    (0x41 ≤ c.toNat ∧ c.toNat ≤ 0x5A) ∧ c.toLower.toNat = c.toNat + 32 := by
  unfold Char.toLower
  split_ifs with h
  · have hbounds : 0x41 ≤ c.toNat ∧ c.toNat ≤ 0x5A := h
    refine .inr ⟨hbounds, ?_⟩
    show (c.val + ('a'.val - 'A'.val)).toNat = c.val.toNat + 32
    have hlt : c.val.toNat ≤ 0x5A := hbounds.2
    rw [UInt32.toNat_add]
    show (c.val.toNat + 32) % 2 ^ 32 = _
    omega
  · exact .inl rfl

/-- ASCII letters are cased. -/
theorem isCased_letter {c : Char}
    (h : 0x41 ≤ c.toNat ∧ c.toNat ≤ 0x5A ∨ 0x61 ≤ c.toNat ∧ c.toNat ≤ 0x7A) : isCased c := by
  unfold isCased CodeRanges.has
  rw [List.any_eq_true]
  rcases h with h | h
  · exact ⟨(0x41, 0x5A), by simp [casedRanges], by simpa using h⟩
  · exact ⟨(0x61, 0x7A), by simp [casedRanges], by simpa using h⟩

/-- No ASCII letter is in a range of those that are passed over. -/
theorem ignorable_apart : caseIgnorableRanges.all fun range =>
    (Nat.blt range.2 0x41 || Nat.blt 0x5A range.1) && (Nat.blt range.2 0x61 || Nat.blt 0x7A range.1) := by
  decide +kernel

theorem not_isCaseIgnorable_letter {c : Char}
    (h : 0x41 ≤ c.toNat ∧ c.toNat ≤ 0x5A ∨ 0x61 ≤ c.toNat ∧ c.toNat ≤ 0x7A) :
    isCaseIgnorable c = false := by
  unfold isCaseIgnorable CodeRanges.has
  rw [List.any_eq_false]
  intro range hrange
  have hapart := List.all_eq_true.mp ignorable_apart range hrange
  simp only [Bool.and_eq_true, Bool.or_eq_true, Nat.blt_eq] at hapart
  simp only [Bool.and_eq_true, decide_eq_true_eq]
  omega

/-- A character and its small ASCII letter have one small form, and count alike for case. -/
theorem alike_toLower (c : Char) : smallForm c.toLower = smallForm c ∧
    isCased c.toLower = isCased c ∧ isCaseIgnorable c.toLower = isCaseIgnorable c ∧
    (c.toLower = 'Σ' ↔ c = 'Σ') := by
  rcases toLower_cases c with hsame | ⟨hcapital, hsmall⟩
  · rw [hsame]
    exact ⟨rfl, rfl, rfl, Iff.rfl⟩
  · have hletter : 0x61 ≤ c.toLower.toNat ∧ c.toLower.toNat ≤ 0x7A := by omega
    have hsigma {d : Char} (hd : d.toNat ≤ 0x7A) : d ≠ 'Σ' := by
      rintro rfl
      exact absurd hd (by decide)
    refine ⟨?_, ?_, ?_, iff_of_false (hsigma hletter.2) (hsigma (by omega))⟩
    · have hagain : c.toLower.toLower = c.toLower := by
        rcases toLower_cases c.toLower with h | ⟨h, -⟩
        · exact h
        · omega
      unfold smallForm
      rw [if_pos (by omega), if_pos (by omega), hagain]
    · rw [isCased_letter (.inr hletter), isCased_letter (.inl hcapital)]
    · rw [not_isCaseIgnorable_letter (.inr hletter), not_isCaseIgnorable_letter (.inl hcapital)]

/-! ### Texts -/

theorem casedNext_map_toLower (text : List Char) : casedNext (text.map Char.toLower) = casedNext text := by
  induction text with
  | nil => rfl
  | cons c rest ih =>
    obtain ⟨-, hcased, hignorable, -⟩ := alike_toLower c
    unfold casedNext at ih ⊢
    rw [List.map_cons, List.dropWhile_cons, List.dropWhile_cons, hignorable]
    by_cases h : isCaseIgnorable c
    · rw [if_pos h, if_pos h]
      exact ih
    · rw [if_neg h, if_neg h]
      exact hcased

theorem lowercaseAfter_map_toLower (before text : List Char) :
    lowercaseAfter (before.map Char.toLower) (text.map Char.toLower) = lowercaseAfter before text := by
  induction text generalizing before with
  | nil => rfl
  | cons c after ih =>
    obtain ⟨hsmall, -, -, hsigma⟩ := alike_toLower c
    have hlater := ih (c :: before)
    rw [List.map_cons] at hlater ⊢
    unfold lowercaseAfter endsWord
    rw [hlater, hsmall, casedNext_map_toLower, casedNext_map_toLower]
    simp only [hsigma]

/-- **Texts that are equal up to the case of ASCII letters have the same small letters.** -/
theorem lowercase_eq_of_equalAsciiCase {s t : String} (h : equalAsciiCase s t) :
    lowercase s = lowercase t := by
  have hmap : s.toList.map Char.toLower = t.toList.map Char.toLower := by
    simpa [equalAsciiCase] using h
  unfold lowercase
  rw [← lowercaseAfter_map_toLower [] s.toList, hmap, lowercaseAfter_map_toLower]

end CoachScript
