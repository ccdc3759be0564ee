import CoachScript.Proofs.Text.Lowercase

/-!
# Texts up to letter case

Whether a small sigma ends its word depends on what stands around it, so a part of a text may have other
small letters than the same part alone. Folding makes one letter of the two small sigmas.

* `foldCase`: the letters of a text, whatever their case. `SameLetters`: equal up to letter case.
* **`foldCase_lowercaseAfter`**: small letters are the same letters.
* `count_foldCase`: folding keeps the dots.
-/

namespace CoachScript

/-- The small sigma, also where it ends a word. -/
def plainSigma (c : Char) : Char := if c = 'ς' then 'σ' else c

/-- The letters of one character, whatever its case. -/
def foldChar (c : Char) : List Char := (smallForm c).map plainSigma

/-- The letters of a text, whatever their case. -/
def foldCase (text : List Char) : List Char := text.flatMap foldChar

/-- The texts are equal up to letter case. -/
def SameLetters (s t : String) : Prop := foldCase s.toList = foldCase t.toList

instance (s t : String) : Decidable (SameLetters s t) := inferInstanceAs (Decidable (_ = _))

theorem foldCase_append (s t : List Char) : foldCase (s ++ t) = foldCase s ++ foldCase t :=
  List.flatMap_append

/-- The small form of a character is of the same letters. -/
theorem foldCase_smallForm (c : Char) : foldCase (smallForm c) = foldChar c := by
  have hsmall : ∀ d ∈ smallForm c, foldChar d = [plainSigma d] := fun d hd =>
    congrArg (List.map plainSigma) ((small_smallForm c).1 d hd)
  show (smallForm c).flatMap foldChar = (smallForm c).map plainSigma
  rw [List.map_eq_flatMap, List.flatMap_def, List.flatMap_def, List.map_congr_left hsmall]

/-- **Small letters are the same letters.** -/
theorem foldCase_lowercaseAfter (before text : List Char) :
    foldCase (lowercaseAfter before text) = foldCase text := by
  induction text generalizing before with
  | nil => rfl
  | cons c rest ih =>
    unfold lowercaseAfter
    rw [foldCase_append, ih]
    show _ = foldChar c ++ foldCase rest
    congr 1
    split_ifs with hsigma hends
    · subst hsigma
      decide +kernel
    · subst hsigma
      decide +kernel
    · exact foldCase_smallForm c

theorem foldCase_lowercase (text : String) :
    foldCase (lowercase text).toList = foldCase text.toList := by
  unfold lowercase
  rw [String.toList_ofList, foldCase_lowercaseAfter]

/-- Folding keeps the dots. -/
theorem count_foldCase (text : List Char) : (foldCase text).count '.' = text.count '.' := by
  have hchar (c : Char) : (foldChar c).count '.' = [c].count '.' := by
    have hsigma : (· == '.') ∘ plainSigma = (· == '.') := by
      funext d
      unfold plainSigma
      dsimp only [Function.comp_apply]
      split_ifs with hd
      · subst hd
        rfl
      · rfl
    unfold foldChar List.count
    rw [List.countP_map, hsigma]
    exact (small_smallForm c).2
  induction text with
  | nil => rfl
  | cons c rest ih =>
    show (foldChar c ++ foldCase rest).count '.' = ([c] ++ rest).count '.'
    rw [List.count_append, List.count_append, hchar, ih]

/-- Two parts around a dot are known from the whole, by the dots of the first. -/
theorem append_dot_inj {s s' t t' : List Char} (h : s ++ '.' :: t = s' ++ '.' :: t')
    (hcount : s.count '.' = s'.count '.') : s = s' ∧ t = t' := by
  have key {s s' t t' more : List Char} (hs : s' = s ++ more) (h : '.' :: t = more ++ '.' :: t')
      (hcount : s.count '.' = s'.count '.') : s = s' ∧ t = t' := by
    cases more with
    | nil => exact ⟨(hs.trans (List.append_nil s)).symm, (List.cons.inj h).2⟩
    | cons c more =>
      -- The longer part would have this dot, too.
      rw [hs, ← (List.cons.inj h).1, List.count_append, List.count_cons_self] at hcount
      omega
  rcases List.append_eq_append_iff.mp h with ⟨more, hs, ht⟩ | ⟨more, hs, ht⟩
  · exact key hs ht hcount
  · obtain ⟨hfirst, hsecond⟩ := key hs ht hcount.symm
    exact ⟨hfirst.symm, hsecond.symm⟩

end CoachScript
