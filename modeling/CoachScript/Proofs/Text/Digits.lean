import CoachScript.Proofs.Text.Blank
import CoachScript.Proofs.Text.Numeral

/-!
# Numbers as they are written

* `Decimal.ofDigits_digitsOf`: the digits of a natural number are read back; zeros in front of them make
  no difference (`ofDigits_padded`).
* `Decimal.numeral`: a decimal is written as a numeral, with its own sign and places.
* `Decimal.source_ofInt`: an integer is written without places.
* **`Decimal.read?_text`**: what a decimal is written as is read as that decimal. So two decimals that
  are written alike are equal (`text_injective`).
-/

namespace CoachScript

/-! ### Digits of natural numbers -/

theorem isAsciiDigit_iff {c : Char} : isAsciiDigit c ↔ 48 ≤ c.toNat ∧ c.toNat ≤ 57 := by
  unfold isAsciiDigit
  rw [Bool.and_eq_true, decide_eq_true_eq, decide_eq_true_eq]
  rfl

theorem isBlank_of_digit {c : Char} (h : isAsciiDigit c) : isBlank c = false := by
  have hdigits : ∀ n < 10, isBlank (Char.ofNat (48 + n)) = false := by decide
  obtain ⟨hlow, hhigh⟩ := isAsciiDigit_iff.mp h
  have hc := hdigits (c.toNat - 48) (by omega)
  rwa [Nat.add_sub_cancel' hlow, Char.ofNat_toNat] at hc

/-- There are no blanks in a numeral. -/
theorem Numeral.trim_text (n : Numeral) : trim n.text = n.text := by
  refine trim_eq_self fun c hc => ?_
  rcases List.mem_append.mp hc with hsign | hunsigned
  · generalize n.sign = sign at hsign
    cases sign with
    | none => cases hsign
    | plus | minus =>
      rw [List.mem_singleton.mp hsign]
      decide
  · rcases n.digit_or_point hunsigned with hdigit | rfl
    · exact isBlank_of_digit hdigit
    · decide

namespace Decimal

theorem digitsOf_ne_nil (n : Nat) : digitsOf n ≠ [] := Nat.toDigits_ne_nil

theorem isAsciiDigit_digitsOf {n : Nat} {c : Char} (h : c ∈ digitsOf n) : isAsciiDigit c := by
  have hdigit := Nat.isDigit_of_mem_toDigits (by decide) (by decide) h
  rw [Char.isDigit, Bool.and_eq_true, decide_eq_true_eq, decide_eq_true_eq] at hdigit
  exact isAsciiDigit_iff.mpr hdigit

/-- **The digits of a number are read back.** -/
theorem ofDigits_digitsOf (n : Nat) : ofDigits (digitsOf n) = n := by
  have hstep : (fun n (c : Char) => n * 10 + (c.toNat - '0'.toNat)) =
      fun n (c : Char) => 10 * n + (c.toNat - '0'.toNat) := by
    funext n c
    rw [Nat.mul_comm]
  unfold ofDigits digitsOf
  rw [hstep]
  exact Nat.ofDigitChars_toDigits (by decide) (by decide)

theorem ofDigits_padded (length : Nat) (digits : List Char) :
    ofDigits (padded length digits) = ofDigits digits := by
  unfold ofDigits padded
  rw [List.foldl_append]
  congr 1
  induction length - digits.length with
  | zero => rfl
  | succ k ih => rw [List.replicate_succ, List.foldl_cons]; exact ih

theorem length_padded (length : Nat) (digits : List Char) :
    (padded length digits).length = max length digits.length := by
  unfold padded
  rw [List.length_append, List.length_replicate]
  omega

theorem isAsciiDigit_padded {length : Nat} {digits : List Char} (h : ∀ c ∈ digits, isAsciiDigit c) :
    ∀ c ∈ padded length digits, isAsciiDigit c := by
  intro c hc
  rcases List.mem_append.mp hc with hc | hc
  · rw [List.eq_of_mem_replicate hc]
    decide
  · exact h c hc

/-! ### Decimals as numerals -/

variable (d : Decimal)

/-- The digits of a decimal, at least one of them before the point. -/
def digits : List Char := padded (d.scale + 1) (digitsOf d.unscaled.natAbs)

/-- How many of them stand before the point. -/
def wholeLength : Nat := d.digits.length - d.scale

theorem isAsciiDigit_digits {c : Char} (h : c ∈ d.digits) : isAsciiDigit c :=
  isAsciiDigit_padded (fun _ => isAsciiDigit_digitsOf) c h

theorem scale_lt_length : d.scale < d.digits.length := by
  unfold digits
  rw [length_padded]
  omega

/-- The numeral that a decimal is written as. -/
def numeral : Numeral where
  sign := if d.isNegative then .minus else .none
  whole := d.digits.take d.wholeLength
  places? := if d.scale = 0 then none else some (d.digits.drop d.wholeLength)
  digits := by
    rw [List.all_eq_true]
    intro c hc
    apply d.isAsciiDigit_digits
    split_ifs at hc with hscale
    · exact List.mem_of_mem_take ((List.append_nil _).subst hc)
    · exact (List.take_append_drop _ _).subst hc
  written := by
    have hlt := d.scale_lt_length
    refine List.append_ne_nil_of_left_ne_nil (List.ne_nil_of_length_pos ?_) _
    unfold wholeLength
    rw [List.length_take]
    omega

theorem numeral_digits : d.numeral.whole ++ d.numeral.places = d.digits := by
  unfold numeral Numeral.places
  dsimp only
  split_ifs with hscale
  · have hall : d.wholeLength = d.digits.length := by rw [wholeLength, hscale, Nat.sub_zero]
    rw [hall, List.take_length]
    exact List.append_nil _
  · exact List.take_append_drop _ _

theorem length_numeral_places : d.numeral.places.length = d.scale := by
  have hlt := d.scale_lt_length
  unfold numeral Numeral.places
  dsimp only
  split_ifs with hscale
  · exact hscale.symm
  · rw [Option.getD_some, List.length_drop]
    unfold wholeLength
    omega

theorem numeral_unsigned : d.numeral.unsigned = pointed d.scale (digitsOf d.unscaled.natAbs) := by
  unfold numeral Numeral.unsigned pointed
  dsimp only
  split_ifs with hscale
  · -- Without places no zero is put in front.
    have hpos := List.length_pos_iff.mpr (digitsOf_ne_nil d.unscaled.natAbs)
    have hnone : d.digits = digitsOf d.unscaled.natAbs := by
      unfold digits padded
      rw [hscale, Nat.sub_eq_zero_of_le (by omega)]
      rfl
    rw [wholeLength, hscale, Nat.sub_zero, List.take_length, hnone]
    exact List.append_nil _
  · rfl

/-- **A decimal is written as its numeral.** -/
theorem numeral_text : d.numeral.text = d.source := by
  have hsign : d.numeral.sign.text = if d.isNegative then ['-'] else [] := by
    unfold numeral
    dsimp only
    split_ifs <;> rfl
  unfold Numeral.text source
  rw [hsign, numeral_unsigned]

/-- The numeral means the decimal. -/
theorem numeral_value : d.numeral.value = d.toRat := by
  have hdigits : ofDigits d.digits = d.unscaled.natAbs := by
    unfold digits
    rw [ofDigits_padded, ofDigits_digitsOf]
  have hsign : (if decide (d.numeral.sign = .minus) then -(d.unscaled.natAbs : Int)
      else (d.unscaled.natAbs : Int)) = d.unscaled := by
    unfold numeral isNegative
    by_cases hnegative : d.unscaled < 0
    · simp only [hnegative, decide_true, if_true]
      omega
    · simp only [hnegative, decide_false, Bool.false_eq_true, if_false, reduceCtorEq]
      omega
  rw [← value_eq, numeral_digits, hdigits, hsign, length_numeral_places]
  rfl

/-- **What a decimal is written as is read as that decimal.** -/
theorem read?_text : read? d.text = some d := by
  refine (read?_eq_some_iff _ _).mpr ⟨d.numeral, ?_, ?_, d.numeral_value.symm⟩
  · unfold text
    rw [String.toList_ofList, ← numeral_text, d.numeral.trim_text]
  · rw [length_numeral_places]
    exact d.fits

/-- Decimals that are written alike are equal. -/
theorem text_injective : Function.Injective text := by
  intro d e h
  have hread := congrArg read? h
  rw [read?_text, read?_text] at hread
  exact Option.some.inj hread

/-! ### Integers -/

/-- An integer is written as any program writes it. -/
theorem source_ofInt (n : Int) : (ofInt n).source = (toString n).toList := by
  cases n with
  | ofNat m => exact String.toList_ofList.symm
  | negSucc m =>
    have hnegative : (ofInt (.negSucc m)).isNegative = true := decide_eq_true (Int.negSucc_lt_zero m)
    unfold source
    rw [hnegative]
    show '-' :: digitsOf (m + 1) = ("-" ++ (m + 1).repr).toList
    rw [String.toList_append]
    exact congrArg ('-' :: ·) String.toList_ofList.symm

end Decimal

end CoachScript
