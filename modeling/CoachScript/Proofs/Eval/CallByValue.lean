import CoachScript.Proofs.Eval.Agreement

/-!
# Call by value

* `Expr.depth`: how deep calls are nested in an expression.
* **`reenter_agrees`**: as long as no variable holds a call, that depth is enough for an evaluation
  that can be entered again, and it does what `evaluate` does.
-/

namespace CoachScript

/-! ### Nested calls -/

mutual

/-- How deep calls are nested. -/
def Expr.depth : Expr → Nat
  | .value _ => 0
  | .call _ _ args => Expr.depthAll args + 1

/-- How deep calls are nested in any of the expressions. -/
def Expr.depthAll : List Expr → Nat
  | [] => 0
  | e :: es => max e.depth (Expr.depthAll es)

end

theorem Expr.depth_le_of_mem {e : Expr} {es : List Expr} (h : e ∈ es) :
    e.depth ≤ Expr.depthAll es := by
  induction es with
  | nil => cases h
  | cons e' es ih =>
    unfold Expr.depthAll
    cases h with
    | head => exact Nat.le_max_left _ _
    | tail _ h => exact Nat.le_trans (ih h) (Nat.le_max_right _ _)

/-! ### Arguments -/

section Arguments

variable {scene : Scene} {ask : Expr → OpenAction Expr}

/-- An argument is evaluated if it is a call, and a literal is its own value. -/
theorem agrees_argument {e : Expr} (h : Agrees Expr.value (ask e) (evaluate scene e)) :
    Agrees Expr.value (if e.isCall then ask e else .pure e) (evaluate scene e) := by
  cases e with
  | value v => exact agrees_pure v
  | call path name args => exact h

theorem resolveArgs_zero (es : List Expr) : resolveArgs ask 0 es = .pure es := by
  induction es with
  | nil => rfl
  | cons e es ih =>
    unfold resolveArgs
    rw [ih, if_neg (fun h => Nat.lt_irrefl 0 h.1)]
    rfl

/-- Arguments of which all are evaluated first. -/
theorem agrees_resolveArgs {eager : Nat} {es : List Expr} (heager : es.length ≤ eager)
    (h : ∀ e ∈ es, Agrees Expr.value (ask e) (evaluate scene e)) :
    Agrees (List.map Expr.value) (resolveArgs ask eager es) (evaluateAll scene es) := by
  induction es generalizing eager with
  | nil => exact agrees_pure []
  | cons e es ih =>
    rw [List.length_cons] at heager
    have hpos : 0 < eager := Nat.lt_of_lt_of_le (Nat.succ_pos _) heager
    unfold resolveArgs evaluateAll
    simp only [hpos, true_and]
    refine agrees_bind (agrees_argument (h e List.mem_cons_self)) fun _ v _ _ => ?_
    have hmore := ih (Nat.le_sub_of_add_le heager) fun e' he' => h e' (List.mem_cons_of_mem _ he')
    exact agrees_bind hmore fun _ vs _ _ => agrees_pure (f := List.map Expr.value) (v :: vs)

/-! ### The choice of a branch -/

theorem execute_choose_error (call : Call) {v : Value} {f : Fault} (branches : List Expr)
    (h : truth (String.ofList v.source) v = .error f) :
    Command.choose.execute ask call (.value v :: branches) = .fail f := by
  cases v with
  | bool b => cases h
  | _ =>
    cases h
    rfl

theorem execute_choose_ok (call : Call) {v : Value} {holds : Bool} (branches : List Expr)
    (h : truth (String.ofList v.source) v = .ok holds) :
    Command.choose.execute ask call (.value v :: branches) =
      match branches[if holds then 0 else 1]? with
      | some branch => ask branch
      | none => .pure (.value .null) := by
  cases v with
  | bool b =>
    cases h
    cases holds <;> rfl
  | _ => cases h

/-- `if` decides on the value of its condition. -/
theorem agrees_choose (name : String) (path : Path) {condition : Expr} {branches : List Expr}
    (h : ∀ e ∈ condition :: branches, Agrees Expr.value (ask e) (evaluate scene e)) :
    Agrees Expr.value
      (.bind (resolveArgs ask 1 (condition :: branches)) fun resolved o =>
        Command.choose.execute ask ⟨name, scene, o.base.contexts.resolve scene.active path⟩
          resolved o)
      (evaluateChoice scene (condition :: branches)) := by
  -- The branches are handed on as they are.
  have hresolve : resolveArgs ask 1 (condition :: branches) =
      .bind (if condition.isCall then ask condition else .pure condition) fun r =>
        .pure (r :: branches) := by
    unfold resolveArgs
    simp only [Nat.zero_lt_one, true_and, Nat.sub_self, resolveArgs_zero]
    rfl
  unfold evaluateChoice
  rw [hresolve, OpenAction.bind_assoc]
  refine agrees_bind (agrees_argument (h condition List.mem_cons_self)) fun _ v _ _ => ?_
  intro o ho
  show ∃ o', Command.choose.execute ask _ (.value v :: branches) o = _ ∧ _
  unfold Action.bind Action.look
  cases htruth : truth (String.ofList v.source) v with
  | error f =>
    rw [execute_choose_error _ branches htruth]
    exact agrees_fail f o ho
  | ok holds =>
    rw [execute_choose_ok _ branches htruth]
    dsimp only
    cases hbranch : branches[if holds then 0 else 1]? with
    | none =>
      rw [evaluateAt_of_none scene hbranch]
      exact agrees_pure Value.null o ho
    | some branch =>
      rw [evaluateAt_of_some scene hbranch]
      exact h branch (List.mem_cons_of_mem _ (List.mem_of_getElem? hbranch)) o ho

end Arguments

/-! ### Expressions -/

/-- **Where no variable holds a call, an evaluation that can be entered again ends as deep as calls
are nested in the expression, and does what `evaluate` does.** -/
theorem reenter_agrees (scene : Scene) (depth : Nat) (e : Expr) (h : e.depth ≤ depth) :
    Agrees Expr.value (reenter scene depth e) (evaluate scene e) := by
  -- By induction on the depth: in arguments calls are nested less deep.
  induction depth generalizing e with
  | zero =>
    cases e with
    | value v => exact agrees_pure v
    | call path name args => cases h
  | succ depth ih =>
    cases e with
    | value v => exact agrees_pure v
    | call path name args =>
      have hargs : ∀ e ∈ args, Agrees Expr.value (reenter scene depth e) (evaluate scene e) :=
        fun e he => ih e (Nat.le_trans (Expr.depth_le_of_mem he) (Nat.le_of_succ_le_succ h))
      unfold reenter evaluate
      cases scene.commands.find? name with
      | none => exact agrees_fail _
      | some command =>
        dsimp only
        split_ifs with hcount hchoose
        · subst hchoose
          cases args with
          | nil => cases hcount
          | cons condition branches =>
            have hone : min (Command.choose.eagerArguments?.getD (condition :: branches).length)
                (condition :: branches).length = 1 :=
              Nat.min_eq_left (Nat.succ_le_succ (Nat.zero_le _))
            rw [hone]
            exact agrees_choose name path hargs
        · have hall : args.length ≤
              min (command.eagerArguments?.getD args.length) args.length := by
            cases command with
            | choose => exact absurd rfl hchoose
            | _ => exact Nat.le_min.mpr ⟨Nat.le_refl _, Nat.le_refl _⟩
          refine agrees_bind (agrees_resolveArgs hall hargs) fun w vs w' hvs => ?_
          have htakes : command.Takes vs := by
            unfold Command.Takes
            rw [length_evaluateAll scene args hvs]
            exact hcount
          exact fun o ho => execute_agrees _ ⟨name, scene, _⟩ hchoose htakes o ho
        · exact agrees_fail _

/-- **As long as no variable holds a call, evaluation is call by value.** It ends, with a literal or a
fault; its outcome, the world after it and the log are what the rules derive, and no variable holds
a call afterwards. -/
theorem reenter_callFree (scene : Scene) (e : Expr) (o : OpenWorld) (ho : o.CallFree) :
    ∃ (r : Except Fault Value) (o' : OpenWorld),
      (∀ depth, e.depth ≤ depth → reenter scene depth e o = some (r.map Expr.value, o')) ∧
      o'.CallFree ∧
      ∀ r' w', Evaluates scene e o.closed r' w' ↔ r' = r ∧ w' = o'.closed := by
  obtain ⟨o', hreenter, hclosed, ho'⟩ := reenter_agrees scene e.depth e (Nat.le_refl _) o ho
  refine ⟨(evaluate scene e o.closed).1, o', fun depth hdepth => ?_, ho', fun r' w' => ?_⟩
  · exact reenter_mono scene hdepth e o _ hreenter
  · rw [evaluates_iff, hclosed, Prod.ext_iff, eq_comm (a := r'), eq_comm (a := w')]

/-- A branch writes a variable that the condition looked up. -/
theorem reenter_callFree_choose :
    let scene : Scene := ⟨0, .ofId "a", "q1", .builtin⟩
    let e : Expr := .call (.levels 0) "if" [
      .call (.levels 0) "equals" [.call (.levels 0) "get" [.value (.string "x")], .value .null],
      .call (.levels 0) "set" [.value (.string "x"),
        .call (.levels 0) "concat" [.value (.string "u"), .value (.ofInt 1)]],
      .call (.levels 0) "log" [.value (.string "v")]]
    let w : World := ⟨((∅ : Contexts).obtain "a").2, ∅, #[]⟩
    w.opened.CallFree ∧ ∃ o', (∀ depth, 3 ≤ depth →
        reenter scene depth e w.opened = some (.ok (.value (.string "u1")), o')) ∧
      o'.CallFree ∧ Evaluates scene e w (.ok (.string "u1")) o'.closed ∧
      (o'.closed.get 0).memory.get? "x" none = some (.string "u1") := by
  intro scene e w
  have hfree : w.opened.CallFree := w.callFree_opened
  obtain ⟨r, o', hreenter, ho', hiff⟩ := reenter_callFree scene e w.opened hfree
  rw [w.closed_opened] at hiff
  have heval : evaluate scene e w = (.ok (.string "u1"), (evaluate scene e w).2) :=
    Prod.ext rfl rfl
  obtain ⟨rfl, hworld⟩ := (hiff _ _).mp ((evaluates_iff ..).mpr heval)
  refine ⟨hfree, o', hreenter, ho', (hiff _ _).mpr ⟨rfl, rfl⟩, ?_⟩
  rw [← hworld]
  decide +kernel

end CoachScript
