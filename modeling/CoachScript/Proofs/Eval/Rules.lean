import CoachScript.Proofs.Eval.Calls

/-!
# The rules of evaluation

`Evaluates` says by rules what comes of an expression. A call that no command answers, or with a
wrong number of arguments, faults before an argument is touched; arguments are evaluated from left
to right, each once, in the evaluating scene; the first fault ends the expression; `if` evaluates
its condition, and then the branch that it chooses and no other.

* `Evaluates`, `EvaluatesAll`, `Chooses`: the rules for an expression, for arguments and for `if`.
* **`evaluates_iff`**: `evaluate` gives an outcome exactly where the rules derive it, so they derive
  one outcome for every expression in every world.
-/

namespace CoachScript

/-- A command answers calls of the name with so many arguments. -/
def Scene.Answers (scene : Scene) (name : String) (count : Nat) (command : Command) : Prop :=
  scene.commands.find? name = some command ∧ command.arity.accepts count

mutual

/-- What comes of an expression: its value or a fault, and the world after it. -/
inductive Evaluates (scene : Scene) : Expr → World → Except Fault Value → World → Prop
  | literal {v : Value} {w : World} : Evaluates scene (.value v) w (.ok v) w
  | unknown {path : Path} {name : String} {args : List Expr} {w : World}
    (h : scene.commands.find? name = none) :
    Evaluates scene (.call path name args) w (.error (.unknownCommand name)) w
  | miscounted {path : Path} {name : String} {args : List Expr} {w : World} {command : Command}
    (h : scene.commands.find? name = some command)
    (hcount : command.arity.accepts args.length = false) :
    Evaluates scene (.call path name args) w
      (.error (.arity name command.arity.text args.length)) w
  /-- An argument faults. -/
  | faulted {path : Path} {name : String} {args : List Expr} {w w' : World} {command : Command}
    {e : Fault} (h : scene.Answers name args.length command) (hchoose : command ≠ .choose)
    (hargs : EvaluatesAll scene args w (.error e) w') :
    Evaluates scene (.call path name args) w (.error e) w'
  /-- The command runs where the path leads once the arguments have been evaluated. -/
  | ran {path : Path} {name : String} {args : List Expr} {w w' : World} {command : Command}
    {vs : List Value} (h : scene.Answers name args.length command) (hchoose : command ≠ .choose)
    (hargs : EvaluatesAll scene args w (.ok vs) w') :
    Evaluates scene (.call path name args) w
      (command.run ⟨name, scene, w'.contexts.resolve scene.active path⟩ vs w').1
      (command.run ⟨name, scene, w'.contexts.resolve scene.active path⟩ vs w').2
  | chose {path : Path} {name : String} {args : List Expr} {w w' : World} {r : Except Fault Value}
    (h : scene.Answers name args.length .choose) (hargs : Chooses scene args w r w') :
    Evaluates scene (.call path name args) w r w'

/-- What comes of expressions in turn. -/
inductive EvaluatesAll (scene : Scene) :
    List Expr → World → Except Fault (List Value) → World → Prop
  | nil {w : World} : EvaluatesAll scene [] w (.ok []) w
  | first {e : Expr} {es : List Expr} {w w' : World} {f : Fault}
    (h : Evaluates scene e w (.error f) w') : EvaluatesAll scene (e :: es) w (.error f) w'
  | later {e : Expr} {es : List Expr} {w w' w'' : World} {v : Value} {f : Fault}
    (h : Evaluates scene e w (.ok v) w') (hmore : EvaluatesAll scene es w' (.error f) w'') :
    EvaluatesAll scene (e :: es) w (.error f) w''
  | cons {e : Expr} {es : List Expr} {w w' w'' : World} {v : Value} {vs : List Value}
    (h : Evaluates scene e w (.ok v) w') (hmore : EvaluatesAll scene es w' (.ok vs) w'') :
    EvaluatesAll scene (e :: es) w (.ok (v :: vs)) w''

/-- What comes of a condition and branches. Without a branch for the case it is `NULL`. -/
inductive Chooses (scene : Scene) : List Expr → World → Except Fault Value → World → Prop
  | faulted {condition : Expr} {branches : List Expr} {w w' : World} {f : Fault}
    (h : Evaluates scene condition w (.error f) w') :
    Chooses scene (condition :: branches) w (.error f) w'
  | undecided {condition : Expr} {branches : List Expr} {w w' : World} {v : Value} {f : Fault}
    (h : Evaluates scene condition w (.ok v) w')
    (htruth : truth (String.ofList v.source) v = .error f) :
    Chooses scene (condition :: branches) w (.error f) w'
  | branch {condition : Expr} {branches : List Expr} {w w' w'' : World} {v : Value} {holds : Bool}
    {e : Expr} {r : Except Fault Value} (h : Evaluates scene condition w (.ok v) w')
    (htruth : truth (String.ofList v.source) v = .ok holds)
    (hbranch : branches[if holds then 0 else 1]? = some e) (he : Evaluates scene e w' r w'') :
    Chooses scene (condition :: branches) w r w''
  | absent {condition : Expr} {branches : List Expr} {w w' : World} {v : Value} {holds : Bool}
    (h : Evaluates scene condition w (.ok v) w')
    (htruth : truth (String.ofList v.source) v = .ok holds)
    (hbranch : branches[if holds then 0 else 1]? = none) :
    Chooses scene (condition :: branches) w (.ok .null) w'

end

/-! ### The evaluator keeps to the rules -/

theorem evaluateAt_of_some (scene : Scene) {n : Nat} {es : List Expr} {e : Expr}
    (h : es[n]? = some e) (w : World) : evaluateAt scene n es w = evaluate scene e w := by
  induction es generalizing n with
  | nil => cases h
  | cons e' es ih =>
    cases n with
    | zero =>
      cases h
      rfl
    | succ n => exact ih h

theorem evaluateAt_of_none (scene : Scene) {n : Nat} {es : List Expr} (h : es[n]? = none)
    (w : World) : evaluateAt scene n es w = (.ok .null, w) := by
  induction es generalizing n with
  | nil => cases n <;> rfl
  | cons e' es ih =>
    cases n with
    | zero => cases h
    | succ n => exact ih h

mutual

theorem evaluates_of_eq (scene : Scene) : ∀ e w {r w'}, evaluate scene e w = (r, w') →
    Evaluates scene e w r w'
  | .value v, w, r, w', h => by
    cases h
    exact .literal
  | .call path name args, w, r, w', h => by
    unfold evaluate at h
    cases hfind : scene.commands.find? name with
    | none =>
      rw [hfind] at h
      cases h
      exact .unknown hfind
    | some command =>
      rw [hfind] at h
      dsimp only at h
      split_ifs at h with hcount hchoose
      · subst hchoose
        have hargs : args ≠ [] := by
          rintro rfl
          cases hcount
        exact .chose ⟨hfind, hcount⟩ (chooses_of_eq scene args hargs w h)
      · rcases hvs : evaluateAll scene args w with ⟨f | vs, w''⟩
        · rw [Action.bind_of_error hvs] at h
          cases h
          exact .faulted ⟨hfind, hcount⟩ hchoose (evaluatesAll_of_eq scene args w hvs)
        · rw [Action.bind_of_ok hvs] at h
          obtain ⟨rfl, rfl⟩ := Prod.mk.inj h
          exact .ran ⟨hfind, hcount⟩ hchoose (evaluatesAll_of_eq scene args w hvs)
      · cases h
        exact .miscounted hfind (by simpa using hcount)

theorem evaluatesAll_of_eq (scene : Scene) : ∀ es w {r w'}, evaluateAll scene es w = (r, w') →
    EvaluatesAll scene es w r w'
  | [], w, r, w', h => by
    cases h
    exact .nil
  | e :: es, w, r, w', h => by
    unfold evaluateAll at h
    rcases hv : evaluate scene e w with ⟨f | v, w₁⟩
    · rw [Action.bind_of_error hv] at h
      cases h
      exact .first (evaluates_of_eq scene e w hv)
    · rw [Action.bind_of_ok hv] at h
      rcases hvs : evaluateAll scene es w₁ with ⟨f | vs, w₂⟩
      · rw [Action.bind_of_error hvs] at h
        cases h
        exact .later (evaluates_of_eq scene e w hv) (evaluatesAll_of_eq scene es w₁ hvs)
      · rw [Action.bind_of_ok hvs] at h
        cases h
        exact .cons (evaluates_of_eq scene e w hv) (evaluatesAll_of_eq scene es w₁ hvs)

theorem chooses_of_eq (scene : Scene) : ∀ es, es ≠ [] → ∀ w {r w'},
    evaluateChoice scene es w = (r, w') → Chooses scene es w r w'
  | [], hne, _, _, _, _ => absurd rfl hne
  | condition :: branches, _, w, r, w', h => by
    unfold evaluateChoice at h
    rcases hv : evaluate scene condition w with ⟨f | v, w₁⟩
    · rw [Action.bind_of_error hv] at h
      cases h
      exact .faulted (evaluates_of_eq scene condition w hv)
    · have hcondition := evaluates_of_eq scene condition w hv
      rw [Action.bind_of_ok hv] at h
      unfold Action.bind Action.look at h
      cases htruth : truth (String.ofList v.source) v with
      | error f =>
        rw [htruth] at h
        cases h
        exact .undecided hcondition htruth
      | ok holds =>
        rw [htruth] at h
        have hat := evaluatesAt_of_eq scene (if holds then 0 else 1) branches w₁ h
        cases hbranch : branches[if holds then 0 else 1]? with
        | none =>
          obtain ⟨rfl, rfl⟩ := Prod.mk.inj ((evaluateAt_of_none scene hbranch w₁).symm.trans h)
          exact .absent hcondition htruth hbranch
        | some e => exact .branch hcondition htruth hbranch (hat e hbranch)

theorem evaluatesAt_of_eq (scene : Scene) : ∀ n es w {r w'}, evaluateAt scene n es w = (r, w') →
    ∀ e, es[n]? = some e → Evaluates scene e w r w'
  | _, [], _, _, _, _, _, he => nomatch he
  | 0, e :: _, w, _, _, h, _, he => Option.some.inj he ▸ evaluates_of_eq scene e w h
  | n + 1, _ :: es, w, _, _, h, e, he => evaluatesAt_of_eq scene n es w h e he

end

mutual

theorem Evaluates.eq {scene : Scene} {e : Expr} {w w' : World} {r : Except Fault Value} :
    Evaluates scene e w r w' → evaluate scene e w = (r, w')
  | .literal => rfl
  | .unknown h => by
    unfold evaluate
    rw [h]
    rfl
  | .miscounted h hcount => by
    unfold evaluate
    rw [h]
    dsimp only
    rw [hcount]
    rfl
  | .faulted ⟨hfind, hcount⟩ hchoose hargs => by
    unfold evaluate
    rw [hfind]
    dsimp only
    rw [if_pos hcount, if_neg hchoose]
    exact Action.bind_of_error hargs.eq
  | .ran ⟨hfind, hcount⟩ hchoose hargs => by
    unfold evaluate
    rw [hfind]
    dsimp only
    rw [if_pos hcount, if_neg hchoose, Action.bind_of_ok hargs.eq]
  | .chose ⟨hfind, hcount⟩ hargs => by
    unfold evaluate
    rw [hfind]
    dsimp only
    rw [if_pos hcount, if_pos rfl]
    exact hargs.eq

theorem EvaluatesAll.eq {scene : Scene} {es : List Expr} {w w' : World}
    {r : Except Fault (List Value)} :
    EvaluatesAll scene es w r w' → evaluateAll scene es w = (r, w')
  | .nil => rfl
  | .first h => by
    unfold evaluateAll
    exact Action.bind_of_error h.eq
  | .later h hmore => by
    unfold evaluateAll
    rw [Action.bind_of_ok h.eq, Action.bind_of_error hmore.eq]
  | .cons h hmore => by
    unfold evaluateAll
    rw [Action.bind_of_ok h.eq, Action.bind_of_ok hmore.eq]
    rfl

theorem Chooses.eq {scene : Scene} {es : List Expr} {w w' : World} {r : Except Fault Value} :
    Chooses scene es w r w' → evaluateChoice scene es w = (r, w')
  | .faulted h => by
    unfold evaluateChoice
    exact Action.bind_of_error h.eq
  | .undecided h htruth => by
    unfold evaluateChoice
    rw [Action.bind_of_ok h.eq]
    unfold Action.bind Action.look
    rw [htruth]
  | .branch h htruth hbranch he => by
    unfold evaluateChoice
    rw [Action.bind_of_ok h.eq]
    unfold Action.bind Action.look
    rw [htruth]
    exact (evaluateAt_of_some scene hbranch _).trans he.eq
  | .absent h htruth hbranch => by
    unfold evaluateChoice
    rw [Action.bind_of_ok h.eq]
    unfold Action.bind Action.look
    rw [htruth]
    exact evaluateAt_of_none scene hbranch _

end

/-- **The evaluator gives an outcome exactly where the rules derive it**: they derive one outcome for
every expression in every world. -/
theorem evaluates_iff (scene : Scene) (e : Expr) (w w' : World) (r : Except Fault Value) :
    Evaluates scene e w r w' ↔ evaluate scene e w = (r, w') :=
  ⟨Evaluates.eq, evaluates_of_eq scene e w⟩

end CoachScript
