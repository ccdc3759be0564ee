import CoachScript.Proofs.Eval.Invariant

/-!
# Evaluations that see the same

Two evaluations of one script, in two scenes and from two worlds, run in step as long as their
commands do.

* `Action.Related R`: from worlds that `R` relates, two steps have one value, and leave related
  worlds. A step that is related to itself respects `R`.
* `Action.respects_check`, `respects_look`, `respects_view`, `respects_modify`: the steps that commands
  are put together from, and `related_bind` for two of them in turn.
* `Matching S`: two outcomes that are faults alike, or values that `S` relates.
* **`runLines_related`**: where every command is related, so are the passes, and the two reports
  are equal.
-/

namespace CoachScript

/-- From related worlds, two steps have one value, and leave related worlds. -/
def Action.Related {α : Type} (R : World → World → Prop) (x x' : Action α) : Prop :=
  ∀ w w', R w w' → (x w).1 = (x' w').1 ∧ R (x w).2 (x' w').2

/-- A step has one value on related worlds, and leaves related worlds. -/
abbrev Action.Respects {α : Type} (R : World → World → Prop) (x : Action α) : Prop := Related R x x

/-- Two outcomes that are faults alike, or values that `S` relates. -/
inductive Matching {ε α β : Type} (S : α → β → Prop) : Except ε α → Except ε β → Prop
  | ok {a : α} {b : β} (h : S a b) : Matching S (.ok a) (.ok b)
  | error (e : ε) : Matching S (.error e) (.error e)

variable {R : World → World → Prop}

namespace Action

variable {α β : Type}

theorem respects_pure (a : α) : Respects R (.pure a) := fun _ _ h => ⟨rfl, h⟩

theorem respects_fail (e : Fault) : Respects R (α := α) (.fail e) := fun _ _ h => ⟨rfl, h⟩

theorem related_bind {x x' : Action α} {f f' : α → Action β} (hx : Related R x x')
    (hf : ∀ a, Related R (f a) (f' a)) : Related R (.bind x f) (.bind x' f') := by
  intro w w' h
  obtain ⟨hvalue, hworld⟩ := hx w w' h
  unfold Action.bind
  rcases hxw : x w with ⟨r, w₁⟩
  rcases hxw' : x' w' with ⟨r', w₁'⟩
  rw [hxw, hxw'] at hvalue hworld
  obtain rfl : r = r' := hvalue
  cases r with
  | error e => exact ⟨rfl, hworld⟩
  | ok a => exact hf a w₁ w₁' hworld

theorem respects_check (r : Except Fault α) : Respects R (.check r) := fun _ _ h => ⟨rfl, h⟩

theorem respects_look {f : World → Except Fault α} (hf : ∀ w w', R w w' → f w = f w') :
    Respects R (.look f) := fun w w' h => ⟨hf w w' h, h⟩

theorem respects_view {f : World → α} (hf : ∀ w w', R w w' → f w = f w') : Respects R (.view f) :=
  fun w w' h => ⟨congrArg Except.ok (hf w w' h), h⟩

theorem respects_modify {f : World → World} (hf : ∀ w w', R w w' → R (f w) (f w')) :
    Respects R (.modify f) := fun w w' h => ⟨rfl, hf w w' h⟩

theorem related_ite {c : Prop} [Decidable c] {x x' y y' : Action α} (h : Related R x y)
    (h' : Related R x' y') : Related R (if c then x else x') (if c then y else y') := by
  by_cases hc : c
  · rw [if_pos hc, if_pos hc]
    exact h
  · rw [if_neg hc, if_neg hc]
    exact h'

end Action

open CoachScript.Action

section Evaluate

variable {scene scene' : Scene} {p : Path → String → List Expr → Bool}

/-- Two scenes of one question, whose commands of calls of the form `p` are related. -/
structure InStep (scene scene' : Scene) (p : Path → String → List Expr → Bool)
    (R : World → World → Prop) : Prop where
  question : scene.question = scene'.question
  commands : scene.commands = scene'.commands
  run : ∀ path name args command, p path name args → scene.commands.find? name = some command →
    command ≠ .choose → ∀ vs, Related R
      (fun w => command.run ⟨name, scene, w.contexts.resolve scene.active path⟩ vs w)
      (fun w => command.run ⟨name, scene', w.contexts.resolve scene'.active path⟩ vs w)

mutual

theorem evaluate_related (h : InStep scene scene' p R) :
    ∀ e, e.every p → Related R (evaluate scene e) (evaluate scene' e)
  | .value v, _ => respects_pure v
  | .call path name args, he => by
    obtain ⟨hp, hargs⟩ := (Bool.and_eq_true _ _).mp he
    unfold evaluate
    rw [← h.commands]
    cases hfind : scene.commands.find? name with
    | none => exact respects_fail _
    | some command =>
      dsimp only
      split_ifs with harity hchoose
      · exact evaluateChoice_related h args hargs
      · exact related_bind (evaluateAll_related h args hargs)
          (h.run path name args command hp hfind hchoose)
      · exact respects_fail _

theorem evaluateAll_related (h : InStep scene scene' p R) :
    ∀ es, Expr.everyAll p es → Related R (evaluateAll scene es) (evaluateAll scene' es)
  | [], _ => respects_pure []
  | e :: es, he => by
    obtain ⟨he, hes⟩ := (Bool.and_eq_true _ _).mp he
    unfold evaluateAll
    refine related_bind (evaluate_related h e he) fun v => ?_
    exact related_bind (evaluateAll_related h es hes) fun vs => respects_pure _

theorem evaluateChoice_related (h : InStep scene scene' p R) :
    ∀ es, Expr.everyAll p es → Related R (evaluateChoice scene es) (evaluateChoice scene' es)
  | [], _ => respects_pure _
  | condition :: branches, he => by
    obtain ⟨he, hes⟩ := (Bool.and_eq_true _ _).mp he
    unfold evaluateChoice
    refine related_bind (evaluate_related h condition he) fun v => ?_
    refine related_bind (respects_look fun _ _ _ => rfl) fun holds => ?_
    exact evaluateAt_related h _ branches hes

theorem evaluateAt_related (h : InStep scene scene' p R) :
    ∀ n es, Expr.everyAll p es → Related R (evaluateAt scene n es) (evaluateAt scene' n es)
  | n, [], _ => by cases n <;> exact respects_pure _
  | 0, e :: _, he => evaluate_related h e ((Bool.and_eq_true _ _).mp he).1
  | n + 1, _ :: es, he => evaluateAt_related h n es ((Bool.and_eq_true _ _).mp he).2

end

theorem evaluateTruth_related (h : InStep scene scene' p R) (e : Expr) (he : e.every p) :
    Related R (evaluateTruth scene e) (evaluateTruth scene' e) :=
  related_bind (evaluate_related h e he) fun _ => respects_look fun _ _ _ => rfl

/-- Related worlds see the same become of a line. -/
theorem runLine_related (h : InStep scene scene' p R) (fired : Fired) (line : Line)
    (hline : line.every p) {w w' : World} (hw : R w w') :
    (runLine scene fired line w).1 = (runLine scene' fired line w').1 ∧
      R (runLine scene fired line w).2 (runLine scene' fired line w').2 := by
  obtain ⟨hcondition, hstatements⟩ := (Bool.and_eq_true _ _).mp hline
  obtain ⟨hvalue, hworld⟩ := evaluateTruth_related h line.condition hcondition w w' hw
  unfold runLine
  rcases hc : evaluateTruth scene line.condition w with ⟨r, w₁⟩
  rcases hc' : evaluateTruth scene' line.condition w' with ⟨r', w₁'⟩
  rw [hc, hc'] at hvalue hworld
  obtain rfl : r = r' := hvalue
  cases r with
  | error e => exact ⟨rfl, hworld⟩
  | ok holds =>
    dsimp only
    split_ifs with hfire
    · obtain ⟨hvalue₂, hworld₂⟩ := evaluateAll_related h line.statements hstatements w₁ w₁' hworld
      rcases hs : evaluateAll scene line.statements w₁ with ⟨s, w₂⟩
      rcases hs' : evaluateAll scene' line.statements w₁' with ⟨s', w₂'⟩
      rw [hs, hs'] at hvalue₂ hworld₂
      obtain rfl : s = s' := hvalue₂
      cases s with
      | error e => exact ⟨rfl, hworld₂⟩
      | ok vs => exact ⟨rfl, hworld₂⟩
    · exact ⟨rfl, hworld⟩

theorem lineReport_eq (h : InStep scene scene' p R) (index : Nat) (line : Line)
    (outcome : LineOutcome) :
    lineReport scene index line outcome = lineReport scene' index line outcome := by
  unfold lineReport
  rw [h.question]

theorem runFrom_related (h : InStep scene scene' p R) (lines : Listing) :
    ∀ index fired, (∀ line ∈ lines, line.every p) → ∀ {w w' : World}, R w w' →
      (runFrom scene index fired lines w).1 = (runFrom scene' index fired lines w').1 ∧
        (runFrom scene index fired lines w).2.1 = (runFrom scene' index fired lines w').2.1 ∧
        R (runFrom scene index fired lines w).2.2 (runFrom scene' index fired lines w').2.2 := by
  induction lines with
  | nil => exact fun _ _ _ _ _ hw => ⟨rfl, rfl, hw⟩
  | cons line more ih =>
    intro index fired hlines w w' hw
    obtain ⟨houtcome, hworld⟩ :=
      runLine_related h fired line (hlines line List.mem_cons_self) hw
    unfold runFrom
    dsimp only
    rw [houtcome, lineReport_eq h]
    obtain ⟨hreport, hfinal⟩ := ih (index + 1) _
      (fun l hl => hlines l (List.mem_cons_of_mem line hl)) hworld
    exact ⟨congrArg _ hreport, hfinal⟩

/-- **Passes whose commands see the same see the same.** -/
theorem runLines_related (h : InStep scene scene' p R)
    (hleave : ∀ fired w w', R w w' → R (w.leave scene.active fired) (w'.leave scene'.active fired))
    (lines : Listing) (hlines : ∀ line ∈ lines, line.every p) {w w' : World} (hw : R w w') :
    (runLines scene lines w).1 = (runLines scene' lines w').1 ∧
      R (runLines scene lines w).2 (runLines scene' lines w').2 := by
  obtain ⟨hreport, hfired, hworld⟩ := runFrom_related h lines 0 ∅ hlines hw
  refine ⟨hreport, ?_⟩
  unfold runLines
  dsimp only
  rw [hfired]
  exact hleave _ _ _ hworld

end Evaluate

end CoachScript
