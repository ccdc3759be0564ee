import CoachScript.Proofs.Eval.Calls

/-!
# What evaluation keeps

From single commands to whole passes, for scripts that keep to calls of a given form.

* `Expr.every`, `Line.every`: every call in an expression or a line is of the form.
* `Ensures`: what holds of a value, unless there is a fault instead.
* `Action.after_check`, `after_look`: a step that faults there leaves the world as it was.
* `Keeps`: every command that such a call runs keeps a property of the world.
* **`invariant_runLines`**: then a pass of such lines keeps it.
-/

namespace CoachScript

/-! ### Calls of a given form -/

section Every

variable (p : Path → String → List Expr → Bool)

mutual

/-- Every call in an expression is of the given form. -/
def Expr.every : Expr → Bool
  | .value _ => true
  | .call path name args => p path name args && everyAll args

/-- Every call in the expressions is of the given form. -/
def Expr.everyAll : List Expr → Bool
  | [] => true
  | e :: es => e.every && everyAll es

end

/-- Every call in a line is of the given form. -/
def Line.every (line : Line) : Bool := line.condition.every p && Expr.everyAll p line.statements

mutual

theorem Expr.every_true : ∀ e : Expr, e.every fun _ _ _ => true
  | .value _ => rfl
  | .call _ _ args => Expr.everyAll_true args

theorem Expr.everyAll_true : ∀ es : List Expr, Expr.everyAll (fun _ _ _ => true) es
  | [] => rfl
  | e :: es => (Bool.and_eq_true _ _).mpr ⟨Expr.every_true e, Expr.everyAll_true es⟩

end

theorem Line.every_true (line : Line) : line.every fun _ _ _ => true :=
  (Bool.and_eq_true _ _).mpr ⟨line.condition.every_true, Expr.everyAll_true _⟩

end Every

/-! ### Outcomes that may be faults -/

/-- The outcome is a fault, or its value is as asked. -/
def Ensures {ε α : Type} (P : α → Prop) (x : Except ε α) : Prop := ∀ a, x = .ok a → P a

namespace Ensures

variable {ε α β : Type} {P : β → Prop}

theorem ok {b : β} (h : P b) : Ensures P (.ok b : Except ε β) := by
  intro b' hb
  cases hb
  exact h

theorem error (e : ε) : Ensures P (.error e) := nofun

theorem bind {x : Except ε α} {f : α → Except ε β} (h : ∀ a, x = .ok a → Ensures P (f a)) :
    Ensures P (x >>= f) := by
  cases x with
  | error e => exact error e
  | ok a => exact h a rfl

theorem ite {c : Prop} [Decidable c] {x y : Except ε β} (hx : c → Ensures P x)
    (hy : ¬ c → Ensures P y) : Ensures P (if c then x else y) := by
  by_cases hc : c
  · rw [if_pos hc]
    exact hx hc
  · rw [if_neg hc]
    exact hy hc

end Ensures

/-! ### Steps that only check or look -/

namespace Action

variable {α β : Type} {P : World → Prop} {f : α → Action β} {w : World}

/-- What holds of a world, and behind a check that passes, holds behind the check. -/
theorem after_check {r : Except Fault α} (hw : P w) (h : ∀ a, r = .ok a → P (f a w).2) :
    P (bind (check r) f w).2 := by
  cases r with
  | error e => exact hw
  | ok a => exact h a rfl

theorem after_look {g : World → Except Fault α} (hw : P w) (h : ∀ a, g w = .ok a → P (f a w).2) :
    P (bind (look g) f w).2 := by
  unfold bind look
  cases hg : g w with
  | error e => exact hw
  | ok a => exact h a hg

theorem after_map {x : Action α} {g : α → β} (h : P (x w).2) : P (bind x (fun a => pure (g a)) w).2 := by
  rwa [world_map]

theorem after_ite {c : Prop} [Decidable c] {x y : Action α} (hx : c → P (x w).2)
    (hy : ¬ c → P (y w).2) : P ((if c then x else y) w).2 := by
  by_cases hc : c
  · rw [if_pos hc]
    exact hx hc
  · rw [if_neg hc]
    exact hy hc

end Action

/-! ### Invariants -/

section Invariant

variable {scene : Scene} {p : Path → String → List Expr → Bool} {Q : Dispatch → Prop}
  {P : World → Prop}

/-- Calls of the form `p` that satisfy `Q` keep `P`. -/
def Keeps (scene : Scene) (p : Path → String → List Expr → Bool) (Q : Dispatch → Prop)
    (P : World → Prop) : Prop :=
  ∀ path name args command vs w, p path name args → scene.commands.find? name = some command →
    command ≠ .choose → command.arity.accepts args.length → vs.length = args.length →
    Q (scene.dispatch path name command vs w) → P w →
    P ((scene.dispatch path name command vs w).run w).2

theorem length_evaluateAll (scene : Scene) (es : List Expr) :
    ∀ {w w' : World} {vs : List Value}, evaluateAll scene es w = (.ok vs, w') →
      vs.length = es.length := by
  induction es with
  | nil =>
    intro w w' vs h
    cases h
    rfl
  | cons e es ih =>
    intro w w' vs h
    unfold evaluateAll at h
    obtain ⟨v, w₁, -, h⟩ := Action.bind_eq_ok h
    obtain ⟨us, w₂, hes, h⟩ := Action.bind_eq_ok h
    cases h
    rw [List.length_cons, List.length_cons, ih hes]

/-- A step that keeps `P`, and one after it that does. -/
theorem invariant_bind {α β : Type} {x : Action α} {f : α → Action β} {l : List Dispatch}
    {next : α → World → List Dispatch} {w : World} (h : ∀ d ∈ l ++ callsAfter x next w, Q d)
    (hx : (∀ d ∈ l, Q d) → P (x w).2)
    (hf : ∀ a w', x w = (.ok a, w') → (∀ d ∈ next a w', Q d) → P w' → P (f a w').2) :
    P (Action.bind x f w).2 := by
  have hw := hx fun d hd => h d (List.mem_append_left _ hd)
  rcases hxw : x w with ⟨e | a, w'⟩
  · rw [Action.bind_of_error hxw]
    rwa [hxw] at hw
  · rw [Action.bind_of_ok hxw]
    rw [hxw] at hw
    refine hf a w' hxw (fun d hd => h d (List.mem_append_right _ ?_)) hw
    unfold callsAfter
    rwa [hxw]

mutual

theorem invariant_evaluate (keeps : Keeps scene p Q P) :
    ∀ e w, e.every p → (∀ d ∈ calls scene e w, Q d) → P w → P (evaluate scene e w).2
  | .value _, _, _, _, hw => hw
  | .call path name args, w, he, hQ, hw => by
    obtain ⟨hp, hargs⟩ := (Bool.and_eq_true _ _).mp he
    unfold evaluate
    unfold calls at hQ
    cases hfind : scene.commands.find? name with
    | none => exact hw
    | some command =>
      simp only [hfind] at hQ
      dsimp only
      split_ifs at hQ ⊢ with harity hchoose
      · exact invariant_evaluateChoice keeps args w hargs hQ hw
      · refine invariant_bind hQ (fun hQ => invariant_evaluateAll keeps args w hargs hQ hw)
          fun vs w' hvs hQ hw' => ?_
        exact keeps path name args command vs w' hp hfind hchoose harity
          (length_evaluateAll scene args hvs) (hQ _ List.mem_cons_self) hw'
      · exact hw

theorem invariant_evaluateAll (keeps : Keeps scene p Q P) :
    ∀ es w, Expr.everyAll p es → (∀ d ∈ allCalls scene es w, Q d) → P w →
      P (evaluateAll scene es w).2
  | [], _, _, _, hw => hw
  | e :: es, w, he, hQ, hw => by
    obtain ⟨he, hes⟩ := (Bool.and_eq_true _ _).mp he
    unfold evaluateAll
    unfold allCalls at hQ
    refine invariant_bind hQ (fun hQ => invariant_evaluate keeps e w he hQ hw) fun v w' _ hQ hw' => ?_
    rw [world_map]
    exact invariant_evaluateAll keeps es w' hes hQ hw'

theorem invariant_evaluateChoice (keeps : Keeps scene p Q P) :
    ∀ es w, Expr.everyAll p es → (∀ d ∈ choiceCalls scene es w, Q d) → P w →
      P (evaluateChoice scene es w).2
  | [], _, _, _, hw => hw
  | condition :: branches, w, he, hQ, hw => by
    obtain ⟨he, hes⟩ := (Bool.and_eq_true _ _).mp he
    unfold evaluateChoice
    unfold choiceCalls at hQ
    refine invariant_bind hQ (fun hQ => invariant_evaluate keeps condition w he hQ hw)
      fun v w' _ hQ hw' => ?_
    exact invariant_bind (l := []) hQ (fun _ => hw') fun holds w'' _ hQ hw'' =>
      invariant_evaluateAt keeps _ branches w'' hes hQ hw''

theorem invariant_evaluateAt (keeps : Keeps scene p Q P) :
    ∀ n es w, Expr.everyAll p es → (∀ d ∈ callsAt scene n es w, Q d) → P w →
      P (evaluateAt scene n es w).2
  | n, [], _, _, _, hw => by cases n <;> exact hw
  | 0, e :: _, w, he, hQ, hw => invariant_evaluate keeps e w ((Bool.and_eq_true _ _).mp he).1 hQ hw
  | n + 1, _ :: es, w, he, hQ, hw =>
    invariant_evaluateAt keeps n es w ((Bool.and_eq_true _ _).mp he).2 hQ hw

end

theorem invariant_evaluateTruth (keeps : Keeps scene p Q P) (e : Expr) (w : World)
    (he : e.every p) (hQ : ∀ d ∈ calls scene e w, Q d) (hw : P w) :
    P (evaluateTruth scene e w).2 := by
  have h := invariant_evaluate keeps e w he hQ hw
  unfold evaluateTruth Action.bind
  rcases hev : evaluate scene e w with ⟨f | v, w'⟩ <;> rwa [hev] at h

theorem invariant_runLine (keeps : Keeps scene p Q P) (fired : Fired) (line : Line) (w : World)
    (hline : line.every p) (hQ : ∀ d ∈ lineCalls scene fired line w, Q d) (hw : P w) :
    P (runLine scene fired line w).2 := by
  obtain ⟨hcondition, hstatements⟩ := (Bool.and_eq_true _ _).mp hline
  have h := invariant_evaluateTruth keeps line.condition w hcondition
    (fun d hd => hQ d (List.mem_append_left _ hd)) hw
  unfold lineCalls callsAfter at hQ
  unfold runLine
  rcases hc : evaluateTruth scene line.condition w with ⟨e | holds, w₁⟩
  · rwa [hc] at h
  · simp only [hc] at h hQ ⊢
    split_ifs at hQ ⊢ with hfire
    · have h₂ := invariant_evaluateAll keeps line.statements w₁ hstatements
        (fun d hd => hQ d (List.mem_append_right _ hd)) h
      rcases hs : evaluateAll scene line.statements w₁ with ⟨e | vs, w₂⟩ <;> rwa [hs] at h₂
    · exact h

theorem invariant_runFrom (keeps : Keeps scene p Q P) (lines : Listing) :
    ∀ index fired w, (∀ line ∈ lines, line.every p) →
      (∀ d ∈ callsFrom scene fired lines w, Q d) → P w → P (runFrom scene index fired lines w).2.2 := by
  induction lines with
  | nil => exact fun _ _ _ _ _ hw => hw
  | cons line more ih =>
    intro index fired w hlines hQ hw
    have h := invariant_runLine keeps fired line w (hlines line List.mem_cons_self)
      (fun d hd => hQ d (List.mem_append_left _ hd)) hw
    exact ih (index + 1) _ _ (fun l hl => hlines l (List.mem_cons_of_mem line hl))
      (fun d hd => hQ d (List.mem_append_right _ hd)) h

/-- **What every command of a pass keeps, the pass keeps**, if the names that it leaves keep it. -/
theorem invariant_runLines (keeps : Keeps scene p Q P)
    (hleave : ∀ fired w, P w → P (w.leave scene.active fired)) (lines : Listing) (w : World)
    (hlines : ∀ line ∈ lines, line.every p) (hQ : ∀ d ∈ passCalls scene lines w, Q d) (hw : P w) :
    P (runLines scene lines w).2 :=
  hleave _ _ (invariant_runFrom keeps lines 0 ∅ w hlines hQ hw)

end Invariant

end CoachScript
