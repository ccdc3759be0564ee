import CoachScript.State.Scores
import Mathlib.Tactic.FieldSimp
import Mathlib.Tactic.Linarith
import Mathlib.Tactic.Ring
import Mathlib.Algebra.BigOperators.Group.List.Basic

/-!
# Decimals as rational numbers

* `Decimal.toRat`: the number that a decimal is. **Equal numbers are equal decimals**
  (`toRat_injective`), since decimals are in lowest terms.
* `toRat_add`, `toRat_sum`, `compare_eq`: the operations are those of the rational numbers. So adding is
  commutative and associative.
* `Score.total_perm`: the total of a score does not depend on the order of its contributions.
-/

namespace CoachScript

namespace Decimal

/-- The number. -/
def toRat (d : Decimal) : ℚ := d.unscaled / 10 ^ d.scale

theorem pow_ten_ne_zero (n : Nat) : (10 : ℚ) ^ n ≠ 0 := pow_ne_zero n (by norm_num)

theorem pow_ten_pos (n : Nat) : (0 : ℚ) < 10 ^ n := pow_pos (by norm_num) n

theorem toRat_ofInt (n : Int) : (ofInt n).toRat = n := by
  unfold ofInt toRat
  rw [pow_zero, div_one]

theorem toRat_ofScaled (unscaled : Int) (scale : Nat) (fits : scale ≤ maxPlaces) :
    (ofScaled unscaled scale fits).toRat = unscaled / 10 ^ scale := by
  induction scale generalizing unscaled with
  | zero =>
    unfold ofScaled
    rw [toRat_ofInt, pow_zero, div_one]
  | succ scale ih =>
    unfold ofScaled
    by_cases h : unscaled % 10 = 0
    · rw [dif_pos h, ih]
      have hdiv : unscaled = 10 * (unscaled / 10) := by omega
      have hrat : (unscaled : ℚ) = 10 * ((unscaled / 10 : Int) : ℚ) := by exact_mod_cast hdiv
      have hten := pow_ten_ne_zero scale
      rw [hrat, pow_succ]
      field_simp
    · rw [dif_neg h]
      rfl

/-- The numerator over a larger scale. -/
theorem unscaledAt_eq (d : Decimal) {scale : Nat} (h : d.scale ≤ scale) :
    (d.unscaledAt scale : ℚ) = d.toRat * 10 ^ scale := by
  unfold unscaledAt toRat
  have hpow : ((Int.pow 10 (scale - d.scale) : Int) : ℚ) = 10 ^ (scale - d.scale) := by
    show (((10 : Int) ^ (scale - d.scale) : Int) : ℚ) = _
    push_cast
    rfl
  have hsplit : (10 : ℚ) ^ scale = 10 ^ (scale - d.scale) * 10 ^ d.scale := by
    rw [← pow_add]
    congr 1
    omega
  have hten := pow_ten_ne_zero d.scale
  rw [Int.cast_mul, hpow, hsplit]
  field_simp

theorem toRat_add (d e : Decimal) : (d.add e).toRat = d.toRat + e.toRat := by
  have hd := d.unscaledAt_eq (left_le_commonScale d e)
  have he := e.unscaledAt_eq (right_le_commonScale d e)
  have hten := pow_ten_ne_zero (commonScale d e)
  unfold add
  rw [toRat_ofScaled, Int.cast_add, hd, he]
  field_simp

theorem toRat_zero : zero.toRat = 0 := by
  unfold zero
  rw [toRat_ofInt, Int.cast_zero]

theorem toRat_foldl_add (ds : List Decimal) (d : Decimal) :
    (ds.foldl add d).toRat = d.toRat + (ds.map toRat).sum := by
  induction ds generalizing d with
  | nil => rw [List.foldl_nil, List.map_nil, List.sum_nil, add_zero]
  | cons e ds ih => rw [List.foldl_cons, ih, toRat_add, List.map_cons, List.sum_cons, add_assoc]

theorem toRat_sum (ds : List Decimal) : (sum ds).toRat = (ds.map toRat).sum := by
  unfold sum
  rw [toRat_foldl_add, toRat_zero, zero_add]

/-- **Equal numbers are equal decimals.** -/
theorem toRat_injective : Function.Injective toRat := by
  have key : ∀ d e : Decimal, d.toRat = e.toRat → d.scale ≤ e.scale → d = e := by
    intro d e h hle
    have hnum : (e.unscaled : ℚ) = d.unscaledAt e.scale := by
      rw [d.unscaledAt_eq hle, h]
      unfold toRat
      rw [div_mul_cancel₀ _ (pow_ten_ne_zero e.scale)]
    have hint : e.unscaled = d.unscaled * 10 ^ (e.scale - d.scale) := by exact_mod_cast hnum
    have hscale : d.scale = e.scale := by
      by_contra hne
      obtain ⟨k, hk⟩ := Nat.exists_eq_add_of_lt (lt_of_le_of_ne hle hne)
      have hten : e.unscaled = 10 * (d.unscaled * 10 ^ k) := by
        rw [hint, show e.scale - d.scale = k + 1 by omega, pow_succ]
        ring
      rcases e.lowest with h0 | hmod
      · omega
      · omega
    rw [hscale, Nat.sub_self, pow_zero, mul_one] at hint
    obtain ⟨u, s, hd, hs⟩ := d
    obtain ⟨v, t, he, ht⟩ := e
    obtain rfl : v = u := hint
    obtain rfl : s = t := hscale
    rfl
  intro d e h
  rcases Nat.le_total d.scale e.scale with hle | hle
  · exact key d e h hle
  · exact (key e d h.symm hle).symm

/-- **The order of decimals is the order of their numbers.** -/
theorem compare_eq (d e : Decimal) : d.compare e = Ord.compare d.toRat e.toRat := by
  have hd := d.unscaledAt_eq (left_le_commonScale d e)
  have he := e.unscaledAt_eq (right_le_commonScale d e)
  have hten := pow_ten_pos (commonScale d e)
  -- Over the common scale the numerators stand as the numbers do.
  have hlt (x y : ℤ) (q r : ℚ) (hx : (x : ℚ) = q * 10 ^ commonScale d e)
      (hy : (y : ℚ) = r * 10 ^ commonScale d e) : x < y ↔ q < r := by
    rw [← @Int.cast_lt ℚ, hx, hy, mul_lt_mul_iff_of_pos_right hten]
  unfold compare
  rcases lt_trichotomy d.toRat e.toRat with h | h | h
  · rw [compare_lt_iff_lt.mpr h, compare_lt_iff_lt]
    exact (hlt _ _ _ _ hd he).mpr h
  · rw [compare_eq_iff_eq.mpr h, compare_eq_iff_eq]
    have hcast : (d.unscaledAt (commonScale d e) : ℚ) = e.unscaledAt (commonScale d e) := by
      rw [hd, he, h]
    exact_mod_cast hcast
  · rw [compare_gt_iff_gt.mpr h, compare_gt_iff_gt]
    exact (hlt _ _ _ _ he hd).mpr h

theorem compare_eq_eq_iff (d e : Decimal) : d.compare e = .eq ↔ d = e := by
  rw [compare_eq, compare_eq_iff_eq]
  exact toRat_injective.eq_iff

theorem lt_iff (d e : Decimal) : d.lt e ↔ d.toRat < e.toRat := by
  unfold lt
  rw [beq_iff_eq, compare_eq, compare_lt_iff_lt]

instance : Std.Commutative add where
  comm d e := toRat_injective (by rw [toRat_add, toRat_add, add_comm])

instance : Std.Associative add where
  assoc d e f := toRat_injective (by rw [toRat_add, toRat_add, toRat_add, toRat_add, add_assoc])

theorem toRat_min (d e : Decimal) : (d.min e).toRat = Min.min d.toRat e.toRat := by
  unfold min
  by_cases h : e.lt d
  · rw [if_pos h, min_eq_right (le_of_lt ((lt_iff e d).mp h))]
  · rw [if_neg h, min_eq_left (not_lt.mp fun hlt => h ((lt_iff e d).mpr hlt))]

theorem min_eq_or (d e : Decimal) : d.min e = d ∨ d.min e = e := by
  unfold min
  by_cases h : e.lt d
  · rw [if_pos h]
    exact .inr rfl
  · rw [if_neg h]
    exact .inl rfl

theorem sum_perm {ds es : List Decimal} (h : ds.Perm es) : sum ds = sum es := by
  apply toRat_injective
  rw [toRat_sum, toRat_sum]
  exact (h.map toRat).sum_eq

/-- The smallest of several numbers is one of them, and none is smaller. -/
theorem foldl_min (d : Decimal) (ds : List Decimal) :
    ds.foldl min d ∈ d :: ds ∧ ∀ e ∈ d :: ds, (ds.foldl min d).toRat ≤ e.toRat := by
  induction ds generalizing d with
  | nil =>
    refine ⟨List.mem_cons_self, fun e he => ?_⟩
    rw [List.mem_singleton] at he
    rw [he]
    exact le_refl _
  | cons e ds ih =>
    obtain ⟨hmem, hle⟩ := ih (d.min e)
    have hmin := hle (d.min e) List.mem_cons_self
    rw [toRat_min, le_min_iff] at hmin
    rw [List.foldl_cons]
    refine ⟨?_, fun x hx => ?_⟩
    · rcases List.mem_cons.mp hmem with h | h
      · rcases min_eq_or d e with hd | he
        · rw [h, hd]
          exact List.mem_cons_self
        · rw [h, he]
          exact List.mem_cons_of_mem _ List.mem_cons_self
      · exact List.mem_cons_of_mem _ (List.mem_cons_of_mem _ h)
    · rcases List.mem_cons.mp hx with h | h
      · rw [h]
        exact hmin.1
      · rcases List.mem_cons.mp h with h | h
        · rw [h]
          exact hmin.2
        · exact hle x (List.mem_cons_of_mem _ h)

end Decimal

/-! ### Scores -/

namespace Score

/-- The limit is the smallest cap. -/
theorem limit?_eq_some_iff (s : Score) (m : Decimal) :
    s.limit? = some m ↔ m ∈ s.entries.filterMap (·.2.cap?) ∧
      ∀ c ∈ s.entries.filterMap (·.2.cap?), m.toRat ≤ c.toRat := by
  unfold limit?
  cases s.entries.filterMap (·.2.cap?) with
  | nil => exact ⟨nofun, fun h => absurd h.1 List.not_mem_nil⟩
  | cons cap caps =>
    obtain ⟨hmem, hle⟩ := Decimal.foldl_min cap caps
    refine ⟨fun h => ?_, fun h => ?_⟩
    · cases h
      exact ⟨hmem, hle⟩
    · have heq : (caps.foldl Decimal.min cap).toRat = m.toRat := le_antisymm (hle m h.1) (h.2 _ hmem)
      exact congrArg some (Decimal.toRat_injective heq)

theorem limit?_perm {s t : Score} (h : s.entries.Perm t.entries) : s.limit? = t.limit? := by
  have hcaps := h.filterMap (·.2.cap?)
  ext m
  rw [limit?_eq_some_iff, limit?_eq_some_iff]
  simp only [hcaps.mem_iff]

/-- **The total does not depend on the order of the contributions.** -/
theorem total_perm {s t : Score} (h : s.entries.Perm t.entries) : s.total = t.total := by
  have hsum : s.sum = t.sum := Decimal.sum_perm (h.filterMap (·.2.value?))
  unfold total
  rw [limit?_perm h, hsum]

end Score

end CoachScript
