import CoachScript.Text.Lowercase
import Mathlib.Tactic.SplitIfs

/-!
# What small letters keep

* `IsSmall`: a character that is its own small form. **Small forms consist of such**, and of dots only
  where there was a dot (`small_smallForm`).
* `lowercaseAfter_of_small`: a text in small letters stays in front of what follows it.
* `small_lowercaseAfter`: a text in small letters has the dots that it had.
* `lowercase_lowercase`: small letters stay as they are.
-/

namespace CoachScript

/-- The character is its own small form. -/
def IsSmall (c : Char) : Prop := smallForm c = [c]

/-! ### The table of capitals -/

theorem smallInRun_eq_some {n code first last step small : Nat} :
    smallInRun n (first, last, step, small) = some code ↔
      (first ≤ n ∧ n ≤ last ∧ (n - first) % step = 0) ∧ small + (n - first) = code := by
  unfold smallInRun
  dsimp only
  split_ifs with h
  · rw [Option.some_inj, and_iff_right h]
  · exact ⟨nofun, fun h' => absurd h'.1 h⟩

/-- No small letter of the first run is a capital of the second: the letters lie apart, or between
the capitals. -/
def runsApart (r s : Nat × Nat × Nat × Nat) : Bool :=
  -- Written with projections: the table makes this be evaluated for each of its pairs.
  Nat.blt (r.2.2.2 + (r.2.1 - r.1)) s.1 || Nat.blt s.2.1 r.2.2.2 ||
    (Nat.beq r.1 r.2.1 || Nat.beq (r.2.2.1 % s.2.2.1) 0) &&
      !Nat.beq (r.2.2.2 % s.2.2.1) (s.1 % s.2.2.1)

theorem smallInRun_of_apart {r s : Nat × Nat × Nat × Nat} (h : runsApart r s) {n code : Nat}
    (hr : smallInRun n r = some code) : smallInRun code s = none := by
  obtain ⟨first, last, step, small⟩ := r
  obtain ⟨first', last', step', small'⟩ := s
  obtain ⟨⟨hfirst, hlast, hstep⟩, rfl⟩ := smallInRun_eq_some.mp hr
  refine Option.eq_none_iff_forall_ne_some.mpr fun code' hs => ?_
  obtain ⟨⟨hfirst', hlast', hstep'⟩, -⟩ := smallInRun_eq_some.mp hs
  unfold runsApart at h
  simp only [Bool.or_eq_true, Bool.and_eq_true, Bool.not_eq_true', Nat.blt_eq, Nat.beq_eq,
    ← Bool.not_eq_true] at h
  rcases h with (hbelow | habove) | ⟨hstride, hoffset⟩
  · omega
  · omega
  · -- Letter and capital have the same remainder, which the table rules out.
    have hletter : (small + (n - first)) % step' = small % step' := by
      have hdvd : step' ∣ n - first := by
        rcases hstride with heq | hdvd
        · rw [show n - first = 0 by omega]
          exact Nat.dvd_zero step'
        · exact Nat.dvd_trans (Nat.dvd_of_mod_eq_zero hdvd) (Nat.dvd_of_mod_eq_zero hstep)
      obtain ⟨k, hk⟩ := hdvd
      rw [hk, Nat.add_mul_mod_self_left]
    have hcapital : (small + (n - first)) % step' = first' % step' := by
      obtain ⟨k, hk⟩ := Nat.dvd_of_mod_eq_zero hstep'
      rw [show small + (n - first) = first' + step' * k by omega, Nat.add_mul_mod_self_left]
    exact hoffset (hletter.symm.trans hcapital)

theorem runsApart_table : smallLetterRuns.all fun r => smallLetterRuns.all (runsApart r) := by
  decide +kernel

/-- The small letters of a run are characters; none but `k` is an ASCII one, and none is `İ`. -/
def runPlain : Nat × Nat × Nat × Nat → Bool
  | (first, last, _, small) =>
    let top := small + (last - first)
    (Nat.blt top 0xD800 || Nat.blt 0xDFFF small && Nat.blt top 0x110000) &&
      (Nat.ble 128 small || Nat.beq small 107 && Nat.beq first last) &&
      (Nat.blt top 0x130 || Nat.blt 0x130 small)

theorem runPlain_table : smallLetterRuns.all runPlain := by decide +kernel

theorem code_of_plain {r : Nat × Nat × Nat × Nat} (h : runPlain r) {n code : Nat}
    (hr : smallInRun n r = some code) :
    code.isValidChar ∧ (128 ≤ code ∨ code = 107) ∧ code ≠ 0x130 := by
  obtain ⟨first, last, step, small⟩ := r
  obtain ⟨⟨hfirst, hlast, -⟩, rfl⟩ := smallInRun_eq_some.mp hr
  unfold runPlain at h
  simp only [Bool.or_eq_true, Bool.and_eq_true, Nat.blt_eq, Nat.ble_eq, Nat.beq_eq] at h
  unfold Nat.isValidChar
  omega

/-! ### Small forms -/

/-- A character beyond ASCII that is no capital of the table is small. -/
theorem isSmall_of_findSome? {c : Char} (hascii : 128 ≤ c.toNat) (hne : c ≠ '\u0130')
    (h : smallLetterRuns.findSome? (smallInRun c.toNat) = none) : IsSmall c := by
  unfold IsSmall smallForm
  rw [if_neg (Nat.not_lt.mpr hascii), if_neg hne, h]

/-- A small letter of the table is small, and no dot. -/
theorem isSmall_of_code {n code : Nat}
    (h : smallLetterRuns.findSome? (smallInRun n) = some code) :
    IsSmall (Char.ofNat code) ∧ Char.ofNat code ≠ '.' := by
  obtain ⟨r, hr, hcode⟩ := List.exists_of_findSome?_eq_some h
  obtain ⟨hvalid, hascii, hne⟩ := code_of_plain (List.all_eq_true.mp runPlain_table r hr) hcode
  have hnat : (Char.ofNat code).toNat = code := by
    unfold Char.ofNat
    rw [dif_pos hvalid]
    rfl
  rcases hascii with hascii | rfl
  · refine ⟨isSmall_of_findSome? (hnat.symm ▸ hascii) ?_ ?_, ?_⟩
    · intro heq
      exact hne (hnat.symm.trans (congrArg Char.toNat heq))
    · rw [hnat, List.findSome?_eq_none_iff]
      intro s hs
      have hapart := List.all_eq_true.mp (List.all_eq_true.mp runsApart_table r hr) s hs
      exact smallInRun_of_apart hapart hcode
    · intro heq
      have : code = 46 := hnat.symm.trans (congrArg Char.toNat heq)
      omega
  · exact ⟨by unfold IsSmall; decide +kernel, by decide⟩

/-- In ASCII a small letter stays, and only the dot becomes one. -/
theorem toLower_ascii : ∀ n < 128, (Char.ofNat n).toLower.toNat < 128 ∧
    (Char.ofNat n).toLower.toLower = (Char.ofNat n).toLower ∧
    ((Char.ofNat n).toLower = '.' → n = 46) := by
  decide +kernel

/-- **Small forms are small, and only the dot becomes one.** -/
theorem small_smallForm (c : Char) :
    (∀ d ∈ smallForm c, IsSmall d) ∧ (smallForm c).count '.' = [c].count '.' := by
  have hcount {d : Char} (hd : d ≠ '.') (hc : c ≠ '.') : [d].count '.' = [c].count '.' := by
    rw [List.count_singleton, List.count_singleton, beq_false_of_ne hd, beq_false_of_ne hc]
  unfold smallForm
  split_ifs with hascii hdot
  · obtain ⟨hlt, hidem, hdot⟩ := toLower_ascii c.toNat hascii
    rw [Char.ofNat_toNat] at hlt hidem hdot
    refine ⟨fun d hd => ?_, ?_⟩
    · rw [List.mem_singleton.mp hd]
      unfold IsSmall smallForm
      rw [if_pos hlt, hidem]
    · by_cases hc : c = '.'
      · rw [hc]
        rfl
      · refine hcount (fun h => hc ?_) hc
        rw [← Char.ofNat_toNat c, hdot h]
  · subst hdot
    rw [List.forall_mem_cons, List.forall_mem_singleton]
    unfold IsSmall
    decide +kernel
  · have hc : c ≠ '.' := by
      rintro rfl
      exact hascii (by decide)
    cases hfind : smallLetterRuns.findSome? (smallInRun c.toNat) with
    | none =>
      refine ⟨fun d hd => ?_, rfl⟩
      rw [List.mem_singleton.mp hd]
      exact isSmall_of_findSome? (Nat.not_lt.mp hascii) hdot hfind
    | some code =>
      obtain ⟨hsmall, hne⟩ := isSmall_of_code hfind
      refine ⟨fun d hd => ?_, hcount hne hc⟩
      rwa [List.mem_singleton.mp hd]

/-! ### Texts -/

theorem lowercaseAfter_cons (before : List Char) (c : Char) (after : List Char) :
    ∃ small, lowercaseAfter before (c :: after) = small ++ lowercaseAfter (c :: before) after ∧
      (∀ d ∈ small, IsSmall d) ∧ small.count '.' = [c].count '.' ∧ (IsSmall c → small = [c]) := by
  refine ⟨if c = 'Σ' then [if endsWord before after then 'ς' else 'σ'] else smallForm c, rfl, ?_⟩
  split_ifs with hsigma hends
  · subst hsigma
    rw [List.forall_mem_singleton]
    unfold IsSmall
    decide +kernel
  · subst hsigma
    rw [List.forall_mem_singleton]
    unfold IsSmall
    decide +kernel
  · obtain ⟨hsmall, hcount⟩ := small_smallForm c
    exact ⟨hsmall, hcount, id⟩

/-- The parts of a text have their own small letters, with the dots of the part. -/
theorem lowercaseAfter_append (before front rest : List Char) :
    ∃ small, lowercaseAfter before (front ++ rest) =
        small ++ lowercaseAfter (front.reverse ++ before) rest ∧
      (∀ d ∈ small, IsSmall d) ∧ small.count '.' = front.count '.' ∧
      ((∀ c ∈ front, IsSmall c) → small = front) := by
  induction front generalizing before with
  | nil => exact ⟨[], rfl, List.forall_mem_nil _, rfl, fun _ => rfl⟩
  | cons c front ih =>
    obtain ⟨first, hfirst, hsmall, hcount, hsame⟩ := lowercaseAfter_cons before c (front ++ rest)
    obtain ⟨more, hmore, hsmall', hcount', hsame'⟩ := ih (c :: before)
    refine ⟨first ++ more, ?_, List.forall_mem_append.mpr ⟨hsmall, hsmall'⟩, ?_, fun h => ?_⟩
    · rw [List.cons_append, hfirst, hmore, List.append_assoc, List.reverse_cons, List.append_assoc]
      rfl
    · rw [List.count_append, hcount, hcount', ← List.count_append]
      rfl
    · rw [hsame (h c List.mem_cons_self), hsame' fun d hd => h d (List.mem_cons_of_mem c hd)]
      rfl

/-- A text in small letters stays in front of what follows it. -/
theorem lowercaseAfter_of_small {front : List Char} (h : ∀ c ∈ front, IsSmall c)
    (before rest : List Char) :
    lowercaseAfter before (front ++ rest) = front ++ lowercaseAfter (front.reverse ++ before) rest := by
  obtain ⟨small, heq, -, -, hsame⟩ := lowercaseAfter_append before front rest
  rw [heq, hsame h]

theorem small_lowercaseAfter (before text : List Char) :
    (∀ d ∈ lowercaseAfter before text, IsSmall d) ∧
      (lowercaseAfter before text).count '.' = text.count '.' := by
  obtain ⟨small, heq, hsmall, hcount, -⟩ := lowercaseAfter_append before text []
  rw [List.append_nil] at heq
  rw [heq]
  unfold lowercaseAfter
  rw [List.append_nil]
  exact ⟨hsmall, hcount⟩

/-- Small letters have no more dots, and no fewer. -/
theorem count_dots_lowercase (text : String) :
    (lowercase text).toList.count '.' = text.toList.count '.' := by
  unfold lowercase
  rw [String.toList_ofList]
  exact (small_lowercaseAfter _ _).2

/-- The text is in small letters. -/
def IsSmallText (text : String) : Prop := ∀ c ∈ text.toList, IsSmall c

theorem isSmallText_lowercase (text : String) : IsSmallText (lowercase text) := by
  unfold IsSmallText lowercase
  rw [String.toList_ofList]
  exact (small_lowercaseAfter [] text.toList).1

theorem lowercase_of_small {text : String} (h : IsSmallText text) : lowercase text = text := by
  have hsame := lowercaseAfter_of_small h [] []
  rw [List.append_nil, lowercaseAfter, List.append_nil] at hsame
  unfold lowercase
  rw [hsame, String.ofList_toList]

/-- **Small letters stay as they are.** -/
theorem lowercase_lowercase (text : String) : lowercase (lowercase text) = lowercase text :=
  lowercase_of_small (isSmallText_lowercase text)

end CoachScript
