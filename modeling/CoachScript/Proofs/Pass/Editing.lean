import CoachScript.Script.Value
import CoachScript.Proofs.Text.ElementList
import Mathlib.Data.Prod.Lex
import Mathlib.Logic.Function.Iterate

/-!
# Edits of a text, again and again

An `Edit` is what `append` and `arrayAdd` make of the value that a source keeps under a name. Each
goes on from the value before it, so doing edits once more may change the value once more.

* `Edit.repeatable`: appending nothing, and adding an element only where it is not there.
* `Edit.rank`: a measure of values that **no edit lowers, and that all but the repeatable raise**.
* `applyAll_iterate_iff`: **a sequence of edits has the same result however often it is done if and
  only if all of them are repeatable**.
-/

namespace CoachScript

/-- What a call makes of the value that its source keeps under a name. -/
inductive Edit where
  | append (text : String)
  | add (element : String) (unique : Bool)
deriving DecidableEq, Repr

namespace Edit

/-- The elements of the array that a value is. -/
def elementsOf (v : Option Value) : List String :=
  match v.bind Value.text? with
  | some text => ElementList.decode text
  | none => []

/-- The text of a value, empty where there is none. -/
def textOf (v : Option Value) : String := (v.getD .null).textOrEmpty

/-- The value behind an edit. -/
def apply : Edit → Option Value → Option Value
  | .append more, v => some (.string (textOf v ++ more))
  | .add element unique, v =>
    if unique && (elementsOf v).contains element then v
    else some (.string (ElementList.encode (elementsOf v ++ [element])))

/-- The edit puts something into the value that can be there: elements are not empty. -/
def valid : Edit → Bool
  | .append _ => true
  | .add element _ => !element.isEmpty

/-- The edit has nothing to do where it was done before. -/
def repeatable : Edit → Bool
  | .append more => more.isEmpty
  | .add _ unique => unique

/-- A value by its number of elements, and then by its length. -/
def rank (v : Option Value) : ℕ ×ₗ ℕ :=
  toLex ((elementsOf v).length, (textOf v).length)

theorem elementsOf_string (text : String) :
    elementsOf (some (.string text)) = ElementList.decode text := rfl

theorem elementsOf_eq (v : Option Value) :
    elementsOf v = ElementList.decode (textOf v) := by
  cases v with
  | none => rfl
  | some v => cases v <;> rfl

/-- An element that is added is there, behind those that were. -/
theorem elementsOf_add (v : Option Value) {element : String} (h : element ≠ "") :
    elementsOf (some (.string (ElementList.encode (elementsOf v ++ [element]))))
      = elementsOf v ++ [element] := by
  rw [elementsOf_string]
  apply ElementList.decode_encode
  intro hempty
  have hlast := congrArg List.getLast? hempty
  rw [List.getLast?_concat] at hlast
  exact h (Option.some.inj hlast)

theorem apply_add_known {v : Option Value} {element : String} (h : element ∈ elementsOf v) :
    apply (.add element true) v = v := if_pos (by simpa using h)

theorem apply_add_new {v : Option Value} {element : String} {unique : Bool}
    (h : (unique && (elementsOf v).contains element) = false) :
    apply (.add element unique) v
      = some (.string (ElementList.encode (elementsOf v ++ [element]))) :=
  if_neg (by rw [h]; exact Bool.false_ne_true)

/-! ### Edits that change the value every time -/

theorem rank_append (v : Option Value) (more : String) :
    rank v ≤ rank (apply (.append more) v) ∧
      (more ≠ "" → rank v < rank (apply (.append more) v)) := by
  have helements : (elementsOf v).length ≤ (elementsOf (apply (.append more) v)).length := by
    rw [elementsOf_eq v]
    exact ElementList.length_decode_append _ more
  have hlength : (textOf (apply (.append more) v)).length = (textOf v).length + more.length :=
    String.length_append (textOf v) more
  unfold rank
  rw [Prod.Lex.toLex_le_toLex, Prod.Lex.toLex_lt_toLex]
  constructor
  · omega
  · intro hmore
    have hpos : more.length ≠ 0 := by rwa [ne_eq, String.length_eq_zero_iff]
    omega

theorem rank_add (v : Option Value) {element : String} (h : element ≠ "") (unique : Bool) :
    rank v ≤ rank (apply (.add element unique) v) ∧
      (unique = false → rank v < rank (apply (.add element unique) v)) := by
  cases hknown : unique && (elementsOf v).contains element with
  | true =>
    obtain ⟨rfl, hmem⟩ := (Bool.and_eq_true _ _).mp hknown
    rw [apply_add_known (by simpa using hmem)]
    exact ⟨le_rfl, nofun⟩
  | false =>
    have hlt : rank v < rank (apply (.add element unique) v) := by
      unfold rank
      rw [apply_add_new hknown, Prod.Lex.toLex_lt_toLex, elementsOf_add v h, List.length_append]
      exact .inl (Nat.lt_succ_self _)
    exact ⟨hlt.le, fun _ => hlt⟩

/-- No edit lowers the rank. -/
theorem rank_le_apply {e : Edit} (h : e.valid) (v : Option Value) : rank v ≤ rank (e.apply v) := by
  cases e with
  | append more => exact (rank_append v more).1
  | add element unique => exact (rank_add v (by simpa [valid] using h) unique).1

/-- An edit that is not repeatable raises it. -/
theorem rank_lt_apply {e : Edit} (h : e.valid) (hrepeatable : e.repeatable = false)
    (v : Option Value) : rank v < rank (e.apply v) := by
  cases e with
  | append more => exact (rank_append v more).2 (by simpa [repeatable] using hrepeatable)
  | add element unique => exact (rank_add v (by simpa [valid] using h) unique).2 hrepeatable

/-! ### Edits that change it once -/

theorem apply_append_nil_iff (v : Option Value) :
    apply (.append "") v = v ↔ ∃ text, v = some (.string text) := by
  constructor
  · intro h
    exact ⟨_, h.symm⟩
  · rintro ⟨text, rfl⟩
    show some (Value.string (text ++ "")) = _
    rw [String.append_empty]

theorem apply_add_iff (v : Option Value) {element : String} (h : element ≠ "") :
    apply (.add element true) v = v ↔ element ∈ elementsOf v := by
  constructor
  · intro hv
    by_contra hmem
    have hnew : apply (.add element true) v = some _ := apply_add_new (by simpa using hmem)
    rw [hv] at hnew
    have hlength := congrArg (fun v => (elementsOf v).length) hnew
    simp only [elementsOf_add v h, List.length_append, List.length_singleton] at hlength
    omega
  · exact apply_add_known

theorem string_apply (e : Edit) (text : String) :
    ∃ text', e.apply (some (.string text)) = some (.string text') := by
  cases e with
  | append more => exact ⟨_, rfl⟩
  | add element unique =>
    cases hknown : unique && (elementsOf (some (.string text))).contains element with
    | true => exact ⟨text, if_pos hknown⟩
    | false => exact ⟨_, apply_add_new hknown⟩

theorem subset_elementsOf_apply {e : Edit} (h : e.valid) (hrepeatable : e.repeatable)
    (v : Option Value) : elementsOf v ⊆ elementsOf (e.apply v) := by
  intro known hmem
  cases e with
  | append more =>
    obtain rfl : more = "" := by simpa [repeatable] using hrepeatable
    show known ∈ ElementList.decode (textOf v ++ "")
    rwa [String.append_empty, ← elementsOf_eq]
  | add element unique =>
    cases hknown : unique && (elementsOf v).contains element with
    | true => rwa [apply, if_pos hknown]
    | false =>
      rw [apply_add_new hknown, elementsOf_add v (by simpa [valid] using h)]
      exact List.mem_append_left _ hmem

/-- What a repeatable edit left is left by it again. -/
theorem apply_apply {e : Edit} (h : e.valid) (hrepeatable : e.repeatable) (v : Option Value) :
    e.apply (e.apply v) = e.apply v := by
  cases e with
  | append more =>
    obtain rfl : more = "" := by simpa [repeatable] using hrepeatable
    exact (apply_append_nil_iff _).mpr ⟨_, rfl⟩
  | add element unique =>
    obtain rfl : unique = true := hrepeatable
    have hne : element ≠ "" := by simpa [valid] using h
    by_cases hmem : element ∈ elementsOf v
    · rw [apply_add_known hmem, apply_add_known hmem]
    · have hnew : apply (.add element true) v = some _ := apply_add_new (by simpa using hmem)
      rw [hnew, apply_add_iff _ hne, elementsOf_add v hne]
      exact List.mem_append_right _ (List.mem_singleton_self element)

/-- What an edit leaves alone, it leaves alone behind a repeatable one. -/
theorem apply_keeps {e e' : Edit} (h : e.valid) (hrepeatable : e.repeatable)
    (h' : e'.valid) (hrepeatable' : e'.repeatable) {v : Option Value} (hv : e.apply v = v) :
    e.apply (e'.apply v) = e'.apply v := by
  cases e with
  | append more =>
    obtain rfl : more = "" := by simpa [repeatable] using hrepeatable
    obtain ⟨text, rfl⟩ := (apply_append_nil_iff v).mp hv
    exact (apply_append_nil_iff _).mpr (e'.string_apply text)
  | add element unique =>
    obtain rfl : unique = true := hrepeatable
    have hne : element ≠ "" := by simpa [valid] using h
    rw [apply_add_iff _ hne] at hv ⊢
    exact subset_elementsOf_apply h' hrepeatable' v hv

end Edit

/-! ### Edits of variables -/

/-- The values that a source keeps, by name, behind an edit of one of them. -/
def applyTo (e : String × Edit) (values : String → Option Value) : String → Option Value :=
  fun name => if e.1 = name then e.2.apply (values name) else values name

theorem applyTo_self (e : String × Edit) (values : String → Option Value) :
    applyTo e values e.1 = e.2.apply (values e.1) := if_pos rfl

theorem applyTo_of_ne {e : String × Edit} {name : String} (h : e.1 ≠ name)
    (values : String → Option Value) : applyTo e values name = values name := if_neg h

/-- The edit has nothing to do. -/
theorem applyTo_eq_self_iff {e : String × Edit} {values : String → Option Value} :
    applyTo e values = values ↔ e.2.apply (values e.1) = values e.1 := by
  constructor
  · intro h
    rw [← applyTo_self, h]
  · intro h
    funext name
    by_cases hname : e.1 = name
    · subst hname
      rw [applyTo_self, h]
    · rw [applyTo_of_ne hname]

/-- The values that a source keeps behind edits, one after another. -/
def applyAll : List (String × Edit) → (String → Option Value) → String → Option Value
  | [], values => values
  | e :: more, values => applyAll more (applyTo e values)

theorem applyAll_append (edits more : List (String × Edit)) (values : String → Option Value) :
    applyAll (edits ++ more) values = applyAll more (applyAll edits values) := by
  induction edits generalizing values with
  | nil => rfl
  | cons e edits ih => exact ih (applyTo e values)

theorem rank_applyTo {e : String × Edit} (h : e.2.valid) (values : String → Option Value)
    (name : String) : Edit.rank (values name) ≤ Edit.rank (applyTo e values name) := by
  by_cases hname : e.1 = name
  · subst hname
    rw [applyTo_self]
    exact Edit.rank_le_apply h _
  · rw [applyTo_of_ne hname]

section Sequences

variable {edits : List (String × Edit)} (hvalid : ∀ e ∈ edits, e.2.valid)
include hvalid

theorem rank_applyAll (values : String → Option Value) (name : String) :
    Edit.rank (values name) ≤ Edit.rank (applyAll edits values name) := by
  induction edits generalizing values with
  | nil => exact le_rfl
  | cons e edits ih =>
    have hfirst := rank_applyTo (hvalid e List.mem_cons_self) values name
    have hrest := ih (fun e' he' => hvalid e' (List.mem_cons_of_mem _ he')) (applyTo e values)
    exact hfirst.trans hrest

theorem rank_applyAll_lt {e : String × Edit} (he : e ∈ edits) (hrepeatable : e.2.repeatable = false)
    (values : String → Option Value) :
    Edit.rank (values e.1) < Edit.rank (applyAll edits values e.1) := by
  obtain ⟨before, after, rfl⟩ := List.append_of_mem he
  have hbefore := rank_applyAll (fun e' he' => hvalid e' (List.mem_append_left _ he')) values e.1
  have hedit := Edit.rank_lt_apply (hvalid e he) hrepeatable (applyAll before values e.1)
  have hafter := rank_applyAll
    (fun e' he' => hvalid e' (List.mem_append_right _ (List.mem_cons_of_mem _ he')))
    (applyTo e (applyAll before values)) e.1
  rw [applyTo_self] at hafter
  rw [applyAll_append]
  exact (hbefore.trans_lt hedit).trans_le hafter

theorem applyTo_keeps {e : String × Edit} (he : e.2.valid) (hrepeatable : e.2.repeatable)
    (hall : ∀ e ∈ edits, e.2.repeatable) {values : String → Option Value}
    (hvalues : applyTo e values = values) :
    applyTo e (applyAll edits values) = applyAll edits values := by
  induction edits generalizing values with
  | nil => exact hvalues
  | cons e' edits ih =>
    refine ih (fun d hd => hvalid d (List.mem_cons_of_mem _ hd))
      (fun d hd => hall d (List.mem_cons_of_mem _ hd)) ?_
    rw [applyTo_eq_self_iff] at hvalues ⊢
    by_cases hname : e'.1 = e.1
    · rw [← hname] at hvalues ⊢
      rw [applyTo_self]
      exact Edit.apply_keeps he hrepeatable (hvalid e' List.mem_cons_self)
        (hall e' List.mem_cons_self) hvalues
    · rw [applyTo_of_ne hname, hvalues]

/-- Behind repeatable edits none of them has anything to do. -/
theorem applyTo_applyAll (hall : ∀ e ∈ edits, e.2.repeatable) {e : String × Edit} (he : e ∈ edits)
    (values : String → Option Value) :
    applyTo e (applyAll edits values) = applyAll edits values := by
  obtain ⟨before, after, rfl⟩ := List.append_of_mem he
  rw [applyAll_append]
  have hafter : ∀ d ∈ after, d ∈ before ++ e :: after :=
    fun d hd => List.mem_append_right _ (List.mem_cons_of_mem _ hd)
  apply applyTo_keeps (fun d hd => hvalid d (hafter d hd)) (hvalid e he) (hall e he)
    (fun d hd => hall d (hafter d hd))
  rw [applyTo_eq_self_iff, applyTo_self]
  exact Edit.apply_apply (hvalid e he) (hall e he) _

end Sequences

theorem applyAll_eq_self {edits : List (String × Edit)} {values : String → Option Value}
    (h : ∀ e ∈ edits, applyTo e values = values) : applyAll edits values = values := by
  induction edits with
  | nil => rfl
  | cons e edits ih =>
    rw [applyAll, h e List.mem_cons_self]
    exact ih (fun d hd => h d (List.mem_cons_of_mem _ hd))

/-- A sequence of edits has the same result however often it is done if and only if all of them are
repeatable. -/
theorem applyAll_iterate_iff {edits : List (String × Edit)} (hvalid : ∀ e ∈ edits, e.2.valid)
    (values : String → Option Value) :
    (∀ n, 1 ≤ n → (applyAll edits)^[n] values = applyAll edits values) ↔
      ∀ e ∈ edits, e.2.repeatable := by
  constructor
  · intro hsame e he
    by_contra hrepeatable
    have htwice : applyAll edits (applyAll edits values) = applyAll edits values :=
      hsame 2 (by decide)
    have hlt := rank_applyAll_lt hvalid he (Bool.eq_false_of_not_eq_true hrepeatable)
      (applyAll edits values)
    rw [htwice] at hlt
    exact lt_irrefl _ hlt
  · intro hall n hn
    have hfixed : applyAll edits (applyAll edits values) = applyAll edits values :=
      applyAll_eq_self (fun e he => applyTo_applyAll hvalid hall he values)
    induction n, hn using Nat.le_induction with
    | base => rfl
    | succ n _ ih => rw [Function.iterate_succ_apply', ih, hfixed]

end CoachScript
