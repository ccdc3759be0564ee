import CoachScript.Text.Blank

/-!
# Blanks at the ends of a text

* `blank_induction`: what holds of the blanks by their numbers holds of every blank.
* `PlainEnds`: a text has no blanks at its ends. `PlainEnds.trim_eq`: so it is not trimmed.
-/

namespace CoachScript

/-- What holds of the blanks by their numbers holds of every blank. -/
theorem blank_induction {p : Char → Prop}
    (h : ∀ range ∈ blankRanges, ∀ k ≤ range.2 - range.1, p (Char.ofNat (range.1 + k))) {c : Char}
    (hc : isBlank c) : p c := by
  obtain ⟨range, hrange, hbounds⟩ := List.any_eq_true.mp hc
  rw [Bool.and_eq_true, decide_eq_true_eq, decide_eq_true_eq] at hbounds
  have hp := h range hrange (c.toNat - range.1) (by omega)
  rwa [Nat.add_sub_cancel' hbounds.1, Char.ofNat_toNat] at hp

/-- The text does not begin with a blank, and does not end with one. -/
structure PlainEnds (text : List Char) : Prop where
  head : ∀ c ∈ text.head?, isBlank c = false
  last : ∀ c ∈ text.getLast?, isBlank c = false

theorem PlainEnds.of_forall {text : List Char} (h : ∀ c ∈ text, isBlank c = false) : PlainEnds text where
  head c hc := h c (List.mem_of_mem_head? hc)
  last c hc := h c (List.mem_of_getLast? hc)

theorem trimStart_of_head {text : List Char} (h : ∀ c ∈ text.head?, isBlank c = false) :
    trimStart text = text := by
  cases text with
  | nil => rfl
  | cons c rest => exact List.dropWhile_cons_of_neg (by simp [h c rfl])

theorem trimEnd_of_last {text : List Char} (h : ∀ c ∈ text.getLast?, isBlank c = false) :
    trimEnd text = text := by
  have hhead : ∀ c ∈ text.reverse.head?, isBlank c = false := by
    rw [List.head?_reverse]
    exact h
  have hreverse : text.reverse.dropWhile isBlank = text.reverse := trimStart_of_head hhead
  rw [trimEnd, hreverse, List.reverse_reverse]

theorem PlainEnds.trim_eq {text : List Char} (h : PlainEnds text) : trim text = text := by
  rw [trim, trimStart_of_head h.head, trimEnd_of_last h.last]

/-- A text without blanks has none at its ends. -/
theorem trim_eq_self {text : List Char} (h : ∀ c ∈ text, isBlank c = false) : trim text = text :=
  (PlainEnds.of_forall h).trim_eq

end CoachScript
