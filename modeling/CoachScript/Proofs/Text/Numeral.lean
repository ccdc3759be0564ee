import CoachScript.Proofs.Decimal

/-!
# Numerals

A numeral is a sign or none, then digits with at most one point, and at least one digit. `Numeral` says
so apart from the reader, and gives the number by the places of the digits.

* `Numeral.text`, `Numeral.value`: a numeral as it is written, and its number.
* `wholeValue`, `placesValue`: the digits before the point and behind it, each worth ten times the next.
* `Decimal.readTrimmed?_numeral`, `Decimal.numeral_of_readTrimmed?`: the reader takes just the
  numerals with not too many places, and gives their numbers.
* `Writes`: the number that a text writes, blanks around it apart. **`Decimal.read?_eq_some_iff`**: it is
  the number that is read.
-/

namespace CoachScript

/-! ### Digits by place -/

/-- The number of a digit. -/
def digitValue (c : Char) : ℚ := (c.toNat - '0'.toNat : ℕ)

/-- The number of the digits before the point: the last is worth its own number, each other ten times
as much as one at the next place. -/
def wholeValue : List Char → ℚ
  | [] => 0
  | c :: more => digitValue c * 10 ^ more.length + wholeValue more

/-- The number of the digits behind the point: the first is worth a tenth. -/
def placesValue : List Char → ℚ
  | [] => 0
  | c :: more => (digitValue c + placesValue more) / 10

theorem wholeValue_append (digits more : List Char) :
    wholeValue (digits ++ more) = wholeValue digits * 10 ^ more.length + wholeValue more := by
  induction digits with
  | nil =>
    show wholeValue more = 0 * 10 ^ more.length + wholeValue more
    ring
  | cons c digits ih =>
    show digitValue c * 10 ^ (digits ++ more).length + wholeValue (digits ++ more) =
      (digitValue c * 10 ^ digits.length + wholeValue digits) * 10 ^ more.length + wholeValue more
    rw [ih, List.length_append]
    ring

/-- Moving the point to the end makes the digits behind it whole ones. -/
theorem placesValue_mul (places : List Char) :
    placesValue places * 10 ^ places.length = wholeValue places := by
  induction places with
  | nil => exact zero_mul _
  | cons c more ih =>
    show (digitValue c + placesValue more) / 10 * 10 ^ (more.length + 1) =
      digitValue c * 10 ^ more.length + wholeValue more
    rw [← ih]
    ring

/-- The reader counts the digits from left to right. -/
theorem Decimal.ofDigits_eq (digits : List Char) : (ofDigits digits : ℚ) = wholeValue digits := by
  have key : ∀ n : ℕ,
      ((digits.foldl (fun n c => n * 10 + (c.toNat - '0'.toNat)) n : ℕ) : ℚ) =
        n * 10 ^ digits.length + wholeValue digits := by
    -- What was read before a digit is worth ten times as much after it.
    induction digits with
    | nil =>
      intro n
      show (n : ℚ) = n * 10 ^ 0 + 0
      ring
    | cons c digits ih =>
      intro n
      rw [List.foldl_cons, ih]
      show ((n * 10 + (c.toNat - '0'.toNat) : ℕ) : ℚ) * 10 ^ digits.length + wholeValue digits =
        n * 10 ^ (digits.length + 1) + (digitValue c * 10 ^ digits.length + wholeValue digits)
      unfold digitValue
      push_cast
      ring
  unfold ofDigits
  rw [key 0]
  push_cast
  ring

/-! ### Numerals -/

/-- What may stand before the digits. -/
inductive Sign where
  | none
  | plus
  | minus
deriving DecidableEq

namespace Sign

/-- The sign as it is written. -/
def text : Sign → List Char
  | .none => []
  | .plus => ['+']
  | .minus => ['-']

/-- What the sign makes of a number. -/
def apply : Sign → ℚ → ℚ
  | .minus, q => -q
  | _, q => q

end Sign

/-- A sign or none, then digits with at most one point, and at least one digit. -/
structure Numeral where
  sign : Sign
  whole : List Char
  /-- The digits behind the point, if there is one. -/
  places? : Option (List Char)
  digits : (whole ++ places?.getD []).all isAsciiDigit
  written : whole ++ places?.getD [] ≠ []

namespace Numeral

variable (n : Numeral)

/-- The digits behind the point. -/
def places : List Char := n.places?.getD []

/-- The numeral without its sign. -/
def unsigned : List Char := n.whole ++ n.places?.elim [] ('.' :: ·)

/-- The numeral as it is written. -/
def text : List Char := n.sign.text ++ n.unsigned

/-- The number that the numeral means. -/
def value : ℚ := n.sign.apply (wholeValue n.whole + placesValue n.places)

theorem isAsciiDigit_of_whole {c : Char} (h : c ∈ n.whole) : isAsciiDigit c :=
  List.all_eq_true.mp n.digits c (List.mem_append_left _ h)

theorem isAsciiDigit_of_places {c : Char} (h : c ∈ n.places) : isAsciiDigit c :=
  List.all_eq_true.mp n.digits c (List.mem_append_right _ h)

theorem ne_point_of_whole {c : Char} (h : c ∈ n.whole) : c ≠ '.' := by
  rintro rfl
  cases n.isAsciiDigit_of_whole h

/-- Behind the sign there are digits and the point. -/
theorem digit_or_point {c : Char} (h : c ∈ n.unsigned) : isAsciiDigit c ∨ c = '.' := by
  rcases List.mem_append.mp h with h | h
  · exact .inl (n.isAsciiDigit_of_whole h)
  · cases hplaces : n.places? with
    | none =>
      rw [hplaces] at h
      cases h
    | some places =>
      rw [hplaces] at h
      rcases List.mem_cons.mp h with rfl | h
      · exact .inr rfl
      · refine .inl (n.isAsciiDigit_of_places ?_)
        unfold Numeral.places
        rwa [hplaces]

/-- Behind the sign there is no other. -/
theorem ne_sign_of_unsigned {c : Char} (h : c ∈ n.unsigned) : c ≠ '-' ∧ c ≠ '+' := by
  have hc := n.digit_or_point h
  constructor
  all_goals
    rintro rfl
    rcases hc with hc | hc <;> cases hc

end Numeral

/-! ### The reader -/

namespace Decimal

theorem splitSign_of_ne {text : List Char} (h : ∀ c ∈ text, c ≠ '-' ∧ c ≠ '+') :
    splitSign text = (false, text) := by
  unfold splitSign
  split
  · exact absurd rfl (h '-' List.mem_cons_self).1
  · exact absurd rfl (h '+' List.mem_cons_self).2
  · rfl

theorem splitSign_text (n : Numeral) :
    splitSign n.text = (decide (n.sign = .minus), n.unsigned) := by
  unfold Numeral.text
  cases n.sign with
  | none => exact splitSign_of_ne fun c hc => n.ne_sign_of_unsigned hc
  | plus => rfl
  | minus => rfl

theorem splitPoint_unsigned (n : Numeral) : splitPoint n.unsigned = (n.whole, n.places) := by
  have hwhole : ∀ c ∈ n.whole, (c != '.') = true := fun c hc => bne_iff_ne.mpr (n.ne_point_of_whole hc)
  unfold splitPoint Numeral.unsigned Numeral.places
  rw [List.takeWhile_append_of_pos hwhole, List.dropWhile_append_of_pos hwhole]
  cases n.places? with
  | none => exact Prod.ext (List.append_nil _) rfl
  | some places => exact Prod.ext (List.append_nil _) rfl

/-- Before the first point and behind it: together with the point, if there is one, the whole text. -/
theorem exists_splitPoint (text : List Char) :
    ∃ places? : Option (List Char), splitPoint text = ((splitPoint text).1, places?.getD []) ∧
      text = (splitPoint text).1 ++ places?.elim [] ('.' :: ·) := by
  have htext := List.takeWhile_append_dropWhile (p := (· != '.')) (l := text)
  cases hrest : text.dropWhile (· != '.') with
  | nil =>
    refine ⟨none, ?_, ?_⟩
    · unfold splitPoint
      rw [hrest]
      rfl
    · rw [hrest] at htext
      exact htext.symm
  | cons c places =>
    -- What is left begins with the point.
    obtain rfl : c = '.' := by
      have hne : text.dropWhile (· != '.') ≠ [] := by simp [hrest]
      have hhead := List.head_dropWhile_not (p := (· != '.')) hne
      simpa [hrest] using hhead
    refine ⟨some places, ?_, ?_⟩
    · unfold splitPoint
      rw [hrest]
      rfl
    · rw [hrest] at htext
      exact htext.symm

theorem exists_splitSign (text : List Char) :
    ∃ sign : Sign, splitSign text = (decide (sign = .minus), (splitSign text).2) ∧
      text = sign.text ++ (splitSign text).2 := by
  unfold splitSign
  split
  · exact ⟨.minus, rfl, rfl⟩
  · exact ⟨.plus, rfl, rfl⟩
  · exact ⟨.none, rfl, rfl⟩

/-- The number of the digits with the point moved back. -/
theorem value_eq (n : Numeral) :
    ((if decide (n.sign = .minus) then -(ofDigits (n.whole ++ n.places) : Int)
      else (ofDigits (n.whole ++ n.places) : Int) : Int) : ℚ) / 10 ^ n.places.length = n.value := by
  have hdigits : (ofDigits (n.whole ++ n.places) : ℚ) / 10 ^ n.places.length =
      wholeValue n.whole + placesValue n.places := by
    rw [ofDigits_eq, wholeValue_append, ← placesValue_mul n.places, ← add_mul,
      mul_div_cancel_right₀ _ (pow_ten_ne_zero _)]
  unfold Numeral.value
  rw [← hdigits]
  cases n.sign with
  | none => simp [Sign.apply]
  | plus => simp [Sign.apply]
  | minus => simp [Sign.apply, neg_div]

/-- **A numeral with not too many places is read, as its number.** -/
theorem readTrimmed?_numeral (n : Numeral) (h : n.places.length ≤ maxPlaces) :
    ∃ d, readTrimmed? n.text = some d ∧ d.toRat = n.value := by
  unfold readTrimmed?
  rw [splitSign_text]
  dsimp only
  rw [splitPoint_unsigned]
  dsimp only
  have hwritten : (n.whole ++ n.places).isEmpty = false := List.isEmpty_eq_false_iff.mpr n.written
  have hdigits : (n.whole ++ n.places).all isAsciiDigit = true := n.digits
  rw [hwritten, hdigits, if_neg (by decide), dif_pos h]
  refine ⟨_, rfl, ?_⟩
  rw [toRat_ofScaled]
  exact value_eq n

/-- **What is read is such a numeral.** -/
theorem numeral_of_readTrimmed? {text : List Char} {d : Decimal} (h : readTrimmed? text = some d) :
    ∃ n : Numeral, text = n.text ∧ n.places.length ≤ maxPlaces ∧ d.toRat = n.value := by
  obtain ⟨sign, hsign, htext⟩ := exists_splitSign text
  obtain ⟨places?, hpoint, hunsigned⟩ := exists_splitPoint (splitSign text).2
  unfold readTrimmed? at h
  rw [hsign] at h
  dsimp only at h
  rw [hpoint] at h
  dsimp only at h
  generalize (splitPoint (splitSign text).2).1 = whole at hunsigned h
  by_cases hbad : (whole ++ places?.getD []).isEmpty || !(whole ++ places?.getD []).all isAsciiDigit
  · rw [if_pos hbad] at h
    cases h
  · rw [if_neg hbad] at h
    by_cases hfits : (places?.getD []).length ≤ maxPlaces
    · rw [dif_pos hfits] at h
      rw [Bool.or_eq_true, not_or, Bool.not_eq_true, List.isEmpty_eq_false_iff, Bool.not_eq_true,
        Bool.not_eq_false'] at hbad
      let n : Numeral := ⟨sign, whole, places?, hbad.2, hbad.1⟩
      refine ⟨n, ?_, hfits, ?_⟩
      · rw [htext, hunsigned]
        rfl
      · rw [← Option.some.inj h, toRat_ofScaled]
        exact value_eq n
    · rw [dif_neg hfits] at h
      cases h

end Decimal

/-! ### Texts -/

/-- The text writes a number: without the blanks around it, it is a numeral with not too many places. -/
def Writes (text : String) (q : ℚ) : Prop :=
  ∃ n : Numeral, trim text.toList = n.text ∧ n.places.length ≤ Decimal.maxPlaces ∧ q = n.value

theorem writes_iff (text : String) (q : ℚ) :
    Writes text q ↔ ∃ d, Decimal.read? text = some d ∧ d.toRat = q := by
  constructor
  · rintro ⟨n, htext, hplaces, rfl⟩
    unfold Decimal.read?
    rw [htext]
    exact Decimal.readTrimmed?_numeral n hplaces
  · rintro ⟨d, hread, rfl⟩
    exact Decimal.numeral_of_readTrimmed? hread

/-- **A text is read just if it writes a number, and then as that number.** -/
theorem Decimal.read?_eq_some_iff (text : String) (d : Decimal) :
    read? text = some d ↔ Writes text d.toRat := by
  rw [writes_iff]
  constructor
  · exact fun h => ⟨d, h, rfl⟩
  · rintro ⟨e, hread, he⟩
    rwa [← toRat_injective he]

theorem Decimal.exists_read?_iff (text : String) :
    (∃ d, read? text = some d) ↔
      ∃ n : Numeral, trim text.toList = n.text ∧ n.places.length ≤ maxPlaces := by
  constructor
  · rintro ⟨d, h⟩
    obtain ⟨n, htext, hplaces, -⟩ := (read?_eq_some_iff text d).mp h
    exact ⟨n, htext, hplaces⟩
  · rintro ⟨n, htext, hplaces⟩
    obtain ⟨d, h, -⟩ := (writes_iff text n.value).mp ⟨n, htext, hplaces, rfl⟩
    exact ⟨d, h⟩

end CoachScript
