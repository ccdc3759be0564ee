import CoachScript.Eval.World
import CoachScript.Proofs.Grammar.Rendering
import CoachScript.Proofs.Text.Digits

/-!
# Numbers in scripts

* `tokens?_number`: the text of a number alone is scanned as one token.
* `Decimal.spelled_toValue`: a decimal as a value has a text that a script can hold as it is.
* `ExprSpot`, `LineSpot`: a place for a value in an expression and in a line. A line can be written with
  a value in the place just if it can with `NULL`, and the value can (`LineSpot.spelled_fill`).
* **`Decimal.survives_script`**: decimals survive being written into a script and read again.
-/

namespace CoachScript

/-! ### Alone -/

/-- The text of a number, scanned alone, is one token. -/
theorem tokens?_number {text : String} {t : Token}
    (h : Lexeme.first? (text.toList ++ []) = some ⟨t, text.toList, []⟩) :
    tokens? text = .ok [⟨t, .start, (Position.start.advance text.toList).offset⟩] := by
  rw [List.append_nil] at h
  have hend : scan (Position.start.advance text.toList) [] =
      ⟨[], Position.start.advance text.toList, []⟩ := scan_of_none rfl
  unfold tokens? Scan.result
  rw [scan_of_some h, hend]

namespace Decimal

variable (d : Decimal)

theorem sign_numeral : d.numeral.sign.text = [] ∨ d.numeral.sign.text = ['-'] := by
  unfold numeral
  dsimp only
  split_ifs
  · exact .inr rfl
  · exact .inl rfl

theorem isDigits_whole : isDigits d.numeral.whole := by
  refine isDigits_iff.mpr ⟨?_, fun c hc => d.numeral.isAsciiDigit_of_whole hc⟩
  have hlt := d.scale_lt_length
  refine List.ne_nil_of_length_pos ?_
  unfold numeral wholeLength
  rw [List.length_take]
  omega

theorem isIntegerText_text (h : d.isIntegral) : isIntegerText d.text := by
  have hplaces : d.numeral.places? = none := if_pos (beq_iff_eq.mp h)
  have hsource : d.source = d.numeral.sign.text ++ d.numeral.whole := by
    rw [← numeral_text, Numeral.text, Numeral.unsigned, hplaces]
    exact congrArg _ (List.append_nil _)
  unfold text
  rw [hsource]
  exact Lexeme.isIntegerText_ofList d.sign_numeral d.isDigits_whole

theorem isFloatText_text (h : d.isIntegral = false) : isFloatText d.text := by
  have hscale : d.scale ≠ 0 := beq_eq_false_iff_ne.mp h
  obtain ⟨places, hplaces⟩ : ∃ places, d.numeral.places? = some places := ⟨_, if_neg hscale⟩
  have hsource : d.source = d.numeral.sign.text ++ d.numeral.whole ++ '.' :: places := by
    rw [← numeral_text, Numeral.text, Numeral.unsigned, hplaces, List.append_assoc]
    rfl
  have hdigits : isDigits places := by
    have hsame : d.numeral.places = places := by
      unfold Numeral.places
      rw [hplaces]
      rfl
    refine isDigits_iff.mpr ⟨?_, fun c hc => ?_⟩
    · rintro rfl
      have hlength := d.length_numeral_places
      rw [hsame] at hlength
      exact hscale hlength.symm
    · rw [← hsame] at hc
      exact d.numeral.isAsciiDigit_of_places hc
  unfold text
  rw [hsource]
  exact Lexeme.isFloatText_ofList d.sign_numeral d.isDigits_whole hdigits

/-- A decimal as a value has a text that a script can hold as it is. -/
theorem spelled_toValue : d.toValue.spelled := by
  unfold toValue
  cases h : d.isIntegral with
  | true => exact d.isIntegerText_text h
  | false => exact d.isFloatText_text h

/-- **The text of a decimal is one token**: an integer if the decimal has no places, else a float. -/
theorem tokens?_text : tokens? d.text =
    .ok [⟨if d.isIntegral then .integer d.text else .float d.text, .start,
      (Position.start.advance d.text.toList).offset⟩] := by
  refine tokens?_number ?_
  cases h : d.isIntegral with
  | true => exact Lexeme.first?_integer (d.isIntegerText_text h) nofun
  | false => exact Lexeme.first?_float (d.isFloatText_text h) nofun

theorem text?_toValue : d.toValue.text? = some d.text := by
  unfold toValue
  split_ifs <;> rfl

theorem ofValue?_toValue : ofValue? d.toValue = some d := by
  unfold ofValue?
  rw [text?_toValue, Option.bind_some, read?_text]

/-- A command that is given a decimal as a number takes it as that decimal. -/
theorem number_toValue {call : Call} {args : List Value} {index : Nat} (parameter : String)
    (h : Call.value args index = d.toValue) : call.number args index parameter = .ok d := by
  have hkind : d.toValue.kind ∈ Call.numberKinds := by
    unfold toValue
    split_ifs <;> simp [Value.kind, Call.numberKinds]
  have htext : d.toValue.textOrEmpty = d.text := by
    unfold Value.textOrEmpty
    rw [text?_toValue]
    rfl
  have hvalue : call.ofKind args index parameter Call.numberKinds = .ok d.toValue := by
    unfold Call.ofKind
    rw [h]
    exact if_pos hkind
  unfold Call.number
  rw [hvalue]
  dsimp only [Bind.bind, Except.bind]
  rw [htext, read?_text]
  rfl

end Decimal

/-! ### In a script -/

/-- A place for a value in an expression. -/
inductive ExprSpot where
  | here
  | argument (path : Path) (name : String) (before : List Expr) (spot : ExprSpot) (after : List Expr)

/-- The expression with a value in its place. -/
def ExprSpot.fill (v : Value) : ExprSpot → Expr
  | .here => .value v
  | .argument path name before spot after => .call path name (before ++ spot.fill v :: after)

/-- A place for a value in a line. -/
inductive LineSpot where
  | condition (spot : ExprSpot) (name : String) (statements : List Expr)
  | statement (test : Expr) (name : String) (before : List Expr) (spot : ExprSpot)
    (after : List Expr)

/-- The line with a value in its place. -/
def LineSpot.fill (v : Value) : LineSpot → Line
  | .condition spot name statements => ⟨spot.fill v, name, statements⟩
  | .statement test name before spot after => ⟨test, name, before ++ spot.fill v :: after⟩

theorem ExprSpot.spelled_fill {v : Value} (hv : v.spelled) {spot : ExprSpot}
    (h : (spot.fill .null).spelled) : (spot.fill v).spelled := by
  induction spot with
  | here => exact hv
  | argument path name before spot after ih =>
    obtain ⟨hname, hargs⟩ := (Bool.and_eq_true _ _).mp h
    rw [Expr.spelledAll_iff, List.forall_mem_append, List.forall_mem_cons] at hargs
    obtain ⟨hbefore, hspot, hafter⟩ := hargs
    refine (Bool.and_eq_true _ _).mpr ⟨hname, ?_⟩
    rw [Expr.spelledAll_iff, List.forall_mem_append, List.forall_mem_cons]
    exact ⟨hbefore, ih hspot, hafter⟩

/-- A value that can be written can stand wherever `NULL` can. -/
theorem LineSpot.spelled_fill {v : Value} (hv : v.spelled) {spot : LineSpot}
    (h : (spot.fill .null).spelled) : (spot.fill v).spelled := by
  cases spot with
  | condition spot name statements =>
    simp only [fill, Line.spelled, Bool.and_eq_true] at h ⊢
    exact ⟨⟨ExprSpot.spelled_fill hv h.1.1, h.1.2⟩, h.2⟩
  | statement test name before spot after =>
    simp only [fill, Line.spelled, Bool.and_eq_true] at h ⊢
    rw [Expr.spelledAll_iff, List.forall_mem_append, List.forall_mem_cons] at h ⊢
    exact ⟨h.1, h.2.1, ExprSpot.spelled_fill hv h.2.2.1, h.2.2.2⟩

/-- **Decimals survive the trip through a script**: the text of a decimal is read as that decimal, so
no two have one text; it is scanned as one token, an integer just if the decimal has no places. So a
decimal as a value, wherever it stands in lines that can be written, is read back from the rendered
lines as the same value, and that value means the decimal, also to a command. -/
theorem Decimal.survives_script (d : Decimal) :
    read? d.text = some d ∧
    (∀ e : Decimal, d.text = e.text ↔ d = e) ∧
    tokens? d.text = .ok [⟨if d.isIntegral then .integer d.text else .float d.text, .start,
      (Position.start.advance d.text.toList).offset⟩] ∧
    (∀ (before after : Listing) (spot : LineSpot),
      (∀ l ∈ before ++ spot.fill .null :: after, l.spelled) →
      readListing (String.join ((before ++ spot.fill d.toValue :: after).map Line.render)) =
        .ok (before ++ spot.fill d.toValue :: after)) ∧
    ofValue? d.toValue = some d ∧
    ∀ (call : Call) (args : List Value) (index : Nat) (parameter : String),
      Call.value args index = d.toValue → call.number args index parameter = .ok d := by
  refine ⟨d.read?_text, fun e => text_injective.eq_iff, d.tokens?_text, fun before after spot h => ?_,
    d.ofValue?_toValue, fun call args index parameter => d.number_toValue parameter⟩
  rw [List.forall_mem_append, List.forall_mem_cons] at h
  obtain ⟨hbefore, hspot, hafter⟩ := h
  refine readListing_join_render _ ?_
  rw [List.forall_mem_append, List.forall_mem_cons]
  exact ⟨hbefore, LineSpot.spelled_fill d.spelled_toValue hspot, hafter⟩

/-- A number below one, with a zero behind the point, in front of another argument. -/
theorem Decimal.survives_script_addScore :
    let d : Decimal := ⟨-5, 2, by decide, by decide⟩
    let spot : LineSpot := .statement (.value (.bool true)) "a" []
      (.argument .root "addScore" [.value (.string "s")] .here []) []
    let call : Call := ⟨"addScore", ⟨0, .ofId "a", "q1", .builtin⟩, 0⟩
    let args : List Value := [.string "s", d.toValue]
    d.text = "-0.05" ∧ (spot.fill .null).spelled ∧
      readListing (spot.fill d.toValue).render = .ok [spot.fill d.toValue] ∧
      Call.value args 1 = d.toValue ∧ call.number args 1 "value" = .ok d := by
  intro d spot call args
  have hspelled : (spot.fill .null).spelled := by decide +kernel
  obtain ⟨-, -, -, hread, -, hnumber⟩ := d.survives_script
  have hlisting := hread [] [] spot (by simpa using hspelled)
  refine ⟨by decide +kernel, hspelled, ?_, rfl, hnumber call args 1 "value" rfl⟩
  simpa using hlisting

end CoachScript
