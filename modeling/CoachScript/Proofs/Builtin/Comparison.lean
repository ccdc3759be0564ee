import CoachScript.Proofs.Eval.Calls
import CoachScript.Proofs.Text.Numeral

/-!
# Comparisons of numbers

* `NumberTest.Holds`: what a comparison asks of two numbers. `NumberTest.passes_iff`: the order of
  the numbers passes the test just then.
* `Value.Writes`: the number that the text of a value writes.
* `Builtin.compare_iff`, `evaluate_compare`: a comparison is true just if both values write numbers and
  these numbers stand so.
* **`Decimal.exact`**: decimals are the rational numbers that texts write, in one form each, with their
  order and their sum, and the comparisons of a script follow that order.
-/

namespace CoachScript

/-- What a comparison asks of two numbers. -/
def NumberTest.Holds : NumberTest → ℚ → ℚ → Prop
  | .greater, q, r => r < q
  | .greaterOrEqual, q, r => r ≤ q
  | .less, q, r => q < r
  | .lessOrEqual, q, r => q ≤ r
  | .equal, q, r => q = r

theorem NumberTest.passes_iff (test : NumberTest) (q r : ℚ) :
    test.passes (Ord.compare q r) ↔ test.Holds q r := by
  cases test with
  | greater => exact beq_iff_eq.trans compare_gt_iff_gt
  | greaterOrEqual => exact bne_iff_ne.trans compare_ge_iff_ge
  | less => exact beq_iff_eq.trans compare_lt_iff_lt
  | lessOrEqual => exact bne_iff_ne.trans compare_le_iff_le
  | equal => exact beq_iff_eq.trans compare_eq_iff_eq

/-- The text of a value writes a number. -/
def Value.Writes (v : Value) (q : ℚ) : Prop := ∃ text, v.text? = some text ∧ CoachScript.Writes text q

theorem Value.writes_iff (v : Value) (q : ℚ) :
    v.Writes q ↔ ∃ d, Decimal.ofValue? v = some d ∧ d.toRat = q := by
  unfold Value.Writes Decimal.ofValue?
  cases v.text? with
  | none =>
    constructor
    · rintro ⟨_, h, -⟩
      cases h
    · rintro ⟨_, h, -⟩
      cases h
  | some text =>
    rw [Option.bind_some, ← CoachScript.writes_iff]
    exact ⟨fun ⟨_, htext, h⟩ => Option.some.inj htext ▸ h, fun h => ⟨text, rfl, h⟩⟩

/-- A value writes one number at most. -/
theorem Value.Writes.unique {v : Value} {q r : ℚ} (hq : v.Writes q) (hr : v.Writes r) : q = r := by
  obtain ⟨d, hd, rfl⟩ := (v.writes_iff q).mp hq
  obtain ⟨e, he, rfl⟩ := (v.writes_iff r).mp hr
  rw [Option.some.inj (hd.symm.trans he)]

/-- **A comparison is true just if both values write numbers that stand so.** -/
theorem Builtin.compare_iff (test : NumberTest) (v v' : Value) :
    ∃ b, Builtin.compare test [v, v'] = .bool b ∧
      (b = true ↔ ∃ q r, v.Writes q ∧ v'.Writes r ∧ test.Holds q r) := by
  have hleft : Call.value [v, v'] 0 = v := rfl
  have hright : Call.value [v, v'] 1 = v' := rfl
  unfold Builtin.compare
  rw [hleft, hright]
  simp only [Value.writes_iff]
  cases Decimal.ofValue? v with
  | none => exact ⟨false, rfl, nofun, fun ⟨_, _, ⟨_, h, _⟩, _⟩ => nomatch h⟩
  | some d =>
    cases Decimal.ofValue? v' with
    | none => exact ⟨false, rfl, nofun, fun ⟨_, _, _, ⟨_, h, _⟩, _⟩ => nomatch h⟩
    | some e =>
      refine ⟨_, rfl, ?_⟩
      rw [Decimal.compare_eq, test.passes_iff]
      constructor
      · exact fun h => ⟨_, _, ⟨d, rfl, rfl⟩, ⟨e, rfl, rfl⟩, h⟩
      · rintro ⟨_, _, ⟨_, hd, rfl⟩, ⟨_, he, rfl⟩, h⟩
        rwa [Option.some.inj hd, Option.some.inj he]

/-- A comparison of two literals follows the order of their numbers. It is false if one writes none. -/
theorem evaluate_compare {scene : Scene} {name : String} {test : NumberTest}
    (hname : scene.commands.find? name = some (.compare test)) (path : Path) (v v' : Value) (w : World) :
    ∃ b, evaluate scene (.call path name [.value v, .value v']) w = (.ok (.bool b), w) ∧
      (∀ q r, v.Writes q → v'.Writes r → (b = true ↔ test.Holds q r)) ∧
      ((¬∃ q, v.Writes q) ∨ (¬∃ r, v'.Writes r) → b = false) := by
  obtain ⟨b, hb, hiff⟩ := Builtin.compare_iff test v v'
  have hrun : evaluate scene (.call path name ([v, v'].map .value)) w =
      (.ok (Builtin.compare test [v, v']), w) := evaluate_values hname rfl nofun path w
  refine ⟨b, ?_, fun q r hq hr => ?_, fun hnone => ?_⟩
  · rw [← hb]
    exact hrun
  · rw [hiff]
    constructor
    · rintro ⟨q', r', hq', hr', hholds⟩
      rwa [hq.unique hq', hr.unique hr']
    · exact fun hholds => ⟨q, r, hq, hr, hholds⟩
  · rw [Bool.eq_false_iff, ne_eq, hiff]
    rintro ⟨q, r, hq, hr, -⟩
    exact hnone.elim (fun h => h ⟨q, hq⟩) fun h => h ⟨r, hr⟩

/-- **Decimals are the rational numbers that texts write**: a text is read just if it is a numeral, as
its number; a decimal is in lowest terms, so equal numbers are equal structures, and these are what the
order calls equal; the order and the sum are those of the rational numbers, and no scale exceeds the
common one. **So the comparisons of a script follow the order of the numbers, and are false if one side
writes none.** -/
theorem Decimal.exact :
    (∀ text d, read? text = some d ↔ Writes text d.toRat) ∧
    (∀ text, (∃ d, read? text = some d) ↔
      ∃ n : Numeral, trim text.toList = n.text ∧ n.places.length ≤ maxPlaces) ∧
    (∀ d : Decimal, d.scale = 0 ∨ d.unscaled % 10 ≠ 0) ∧
    (∀ d e : Decimal, d = e ↔ d.toRat = e.toRat) ∧
    (∀ d e : Decimal, d.compare e = .eq ↔ d = e) ∧
    (∀ d e : Decimal, d.compare e = Ord.compare d.toRat e.toRat) ∧
    (∀ n : Int, (ofInt n).toRat = n) ∧
    (∀ d e : Decimal, (d.add e).toRat = d.toRat + e.toRat) ∧
    (∀ ds : List Decimal, (sum ds).toRat = (ds.map toRat).sum) ∧
    (∀ d e : Decimal, d.add e = e.add d) ∧
    (∀ d e f : Decimal, (d.add e).add f = d.add (e.add f)) ∧
    (∀ d e : Decimal,
      d.scale ≤ commonScale d e ∧ e.scale ≤ commonScale d e ∧ commonScale d e ≤ maxPlaces) ∧
    ∀ (scene : Scene) (path : Path) (name : String) (test : NumberTest),
      scene.commands.find? name = some (.compare test) → ∀ (v v' : Value) (w : World),
        ∃ b, evaluate scene (.call path name [.value v, .value v']) w = (.ok (.bool b), w) ∧
          (∀ q r, v.Writes q → v'.Writes r → (b = true ↔ test.Holds q r)) ∧
          ((¬∃ q, v.Writes q) ∨ (¬∃ r, v'.Writes r) → b = false) := by
  exact ⟨read?_eq_some_iff, exists_read?_iff, lowest, fun d e => toRat_injective.eq_iff.symm,
    compare_eq_eq_iff, compare_eq, toRat_ofInt, toRat_add, toRat_sum, Std.Commutative.comm,
    Std.Associative.assoc,
    fun d e => ⟨left_le_commonScale d e, right_le_commonScale d e, commonScale_le d e⟩,
    fun scene path name test hname v v' w => evaluate_compare hname path v v' w⟩

/-- A number as such and one as a text, signed, with blanks around it and with a zero at its end; and a
text that writes none. -/
theorem Decimal.exact_greaterThan :
    let scene : Scene := ⟨0, .ofId "a", "q1", .builtin⟩
    let w : World := ⟨((∅ : Contexts).obtain "a").2, ∅, #[]⟩
    let ten : Value := .integer "10"
    let less : Value := .string " +9.90 "
    let word : Value := .string "1.2.3"
    let greaterThan (v v' : Value) : Expr := .call (.levels 0) "greaterThan" [.value v, .value v']
    scene.commands.find? "greaterThan" = some (.compare .greater) ∧
      ten.Writes 10 ∧ less.Writes (99 / 10) ∧ (¬∃ q, word.Writes q) ∧
      evaluate scene (greaterThan ten less) w = (.ok (.bool true), w) ∧
      evaluate scene (greaterThan ten word) w = (.ok (.bool false), w) := by
  intro scene w ten less word greaterThan
  obtain ⟨-, -, -, -, -, -, -, -, -, -, -, -, hcompare⟩ := Decimal.exact
  have hname : scene.commands.find? "greaterThan" = some (.compare .greater) := by decide +kernel
  have hten : ten.Writes 10 :=
    (ten.writes_iff 10).mpr ⟨ofInt 10, by decide +kernel, by norm_num [toRat, ofInt]⟩
  have hless : less.Writes (99 / 10) :=
    (less.writes_iff _).mpr ⟨⟨99, 1, by decide, by decide⟩, by decide +kernel, by norm_num [toRat]⟩
  have hword : ¬∃ q, word.Writes q := by
    rintro ⟨q, hq⟩
    obtain ⟨d, hd, -⟩ := (word.writes_iff q).mp hq
    have hnone : Decimal.ofValue? word = none := by decide +kernel
    rw [hnone] at hd
    cases hd
  refine ⟨hname, hten, hless, hword, ?_, ?_⟩
  · obtain ⟨b, hb, hiff, -⟩ := hcompare scene (.levels 0) "greaterThan" .greater hname ten less w
    have htrue : b = true := (hiff 10 (99 / 10) hten hless).mpr (by norm_num [NumberTest.Holds])
    rw [← htrue]
    exact hb
  · obtain ⟨b, hb, -, hnot⟩ := hcompare scene (.levels 0) "greaterThan" .greater hname ten word w
    rw [← hnot (.inr hword)]
    exact hb

end CoachScript
