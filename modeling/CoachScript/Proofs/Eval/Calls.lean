import CoachScript.Eval.Pass
import Mathlib.Tactic.SplitIfs

/-!
# The calls of an evaluation

Everything that an evaluation does to the world is done by the commands that it runs.
`calls scene e w` lists them in order, each with its evaluated arguments and the context it acts on.

* `Dispatch`: one command that was run.
* `calls`, `lineCalls`, `passCalls`: the commands run by an expression, a line and a pass.
* **`world_evaluate`, `world_runLines`**: the world after an evaluation or a pass is what these
  commands, one after another, make of the world before it.
-/

namespace CoachScript

/-! ### Steps in turn -/

namespace Action

variable {α β : Type} {x : Action α} {f : α → Action β} {w w' : World}

theorem bind_of_ok {a : α} (h : x w = (.ok a, w')) : Action.bind x f w = f a w' := by
  unfold Action.bind
  rw [h]

theorem bind_of_error {e : Fault} (h : x w = (.error e, w')) :
    Action.bind x f w = (.error e, w') := by
  unfold Action.bind
  rw [h]

/-- A check that passes gives way to the step behind it. -/
theorem check_bind_ok (a : α) (f : α → Action β) : (check (.ok a) >>= f) = f a := rfl

theorem look_bind_of_ok {g : World → Except Fault α} {a : α} (h : g w = .ok a) :
    (look g >>= f) w = f a w := bind_of_ok (congrArg (·, w) h)

theorem view_bind (g : World → α) : (view g >>= f) w = f (g w) w := rfl

theorem bind_eq_ok {b : β} (h : Action.bind x f w = (.ok b, w')) :
    ∃ a w₁, x w = (.ok a, w₁) ∧ f a w₁ = (.ok b, w') := by
  rcases hx : x w with ⟨e | a, w₁⟩
  · rw [bind_of_error hx] at h
    cases h
  · rw [bind_of_ok hx] at h
    exact ⟨a, w₁, rfl, h⟩

end Action

/-! ### Commands that were run -/

/-- A command that was run: with evaluated arguments, on a given context. -/
structure Dispatch where
  command : Command
  call : Call
  args : List Value

namespace Dispatch

/-- What the command does. -/
def run (d : Dispatch) : Action Value := d.command.run d.call d.args

/-- What commands, one after another, make of a world. -/
def replay (ds : List Dispatch) (w : World) : World := ds.foldl (fun w d => (d.run w).2) w

theorem replay_append (ds es : List Dispatch) (w : World) :
    replay (ds ++ es) w = replay es (replay ds w) := List.foldl_append

end Dispatch

open Dispatch

/-- The command that a call runs in a world, once its arguments have values. -/
def Scene.dispatch (scene : Scene) (path : Path) (name : String) (command : Command)
    (vs : List Value) (w : World) : Dispatch :=
  ⟨command, ⟨name, scene, w.contexts.resolve scene.active path⟩, vs⟩

/-! ### Expressions -/

/-- What follows a step, unless it faults. -/
def callsAfter {α : Type} (x : Action α) (next : α → World → List Dispatch) (w : World) :
    List Dispatch :=
  match x w with
  | (.ok a, w) => next a w
  | (.error _, _) => []

mutual

/-- The commands that the evaluation of an expression runs. -/
def calls (scene : Scene) : Expr → World → List Dispatch
  | .value _, _ => []
  | .call path name args, w =>
    match scene.commands.find? name with
    | none => []
    | some command =>
      if command.arity.accepts args.length then
        if command = .choose then choiceCalls scene args w
        else
          allCalls scene args w ++ callsAfter (evaluateAll scene args) (fun vs w =>
            [scene.dispatch path name command vs w]) w
      else []

/-- The commands that the evaluation of expressions in turn runs. -/
def allCalls (scene : Scene) : List Expr → World → List Dispatch
  | [], _ => []
  | e :: es, w => calls scene e w ++ callsAfter (evaluate scene e) (fun _ => allCalls scene es) w

/-- The commands that a choice runs: those of its condition and of one branch. -/
def choiceCalls (scene : Scene) : List Expr → World → List Dispatch
  | [], _ => []
  | condition :: branches, w =>
    calls scene condition w ++ callsAfter (evaluate scene condition) (fun v =>
      callsAfter (.look fun _ => truth (String.ofList v.source) v) fun holds =>
        callsAt scene (if holds then 0 else 1) branches) w

/-- The commands run by the expression at a place. -/
def callsAt (scene : Scene) : Nat → List Expr → World → List Dispatch
  | _, [], _ => []
  | 0, e :: _, w => calls scene e w
  | n + 1, _ :: es, w => callsAt scene n es w

end

/-- A step that is what its commands make of the world, and one after it that is, too. -/
theorem world_bind {α β : Type} {x : Action α} {f : α → Action β} {l : List Dispatch}
    {next : α → World → List Dispatch} {w : World} (hx : (x w).2 = replay l w)
    (hf : ∀ a w, (f a w).2 = replay (next a w) w) :
    (Action.bind x f w).2 = replay (l ++ callsAfter x next w) w := by
  rw [replay_append, ← hx]
  unfold Action.bind callsAfter
  rcases x w with ⟨e | a, w'⟩
  · rfl
  · exact hf a w'

theorem world_map {α β : Type} (x : Action α) (f : α → β) (w : World) :
    (Action.bind x (fun a => .pure (f a)) w).2 = (x w).2 := by
  unfold Action.bind
  rcases x w with ⟨e | a, w'⟩ <;> rfl

theorem evaluateAll_values (scene : Scene) (vs : List Value) (w : World) :
    evaluateAll scene (vs.map .value) w = (.ok vs, w) := by
  induction vs with
  | nil => rfl
  | cons v vs ih =>
    have hfirst : evaluate scene (.value v) w = (.ok v, w) := rfl
    rw [List.map_cons]
    unfold evaluateAll
    rw [Action.bind_of_ok hfirst, Action.bind_of_ok ih]
    rfl

/-- A call with literal arguments is what its command does with them. -/
theorem evaluate_values {scene : Scene} {name : String} {command : Command} {vs : List Value}
    (hname : scene.commands.find? name = some command) (haccepts : command.arity.accepts vs.length)
    (hchoose : command ≠ .choose) (path : Path) (w : World) :
    evaluate scene (.call path name (vs.map .value)) w =
      command.run ⟨name, scene, w.contexts.resolve scene.active path⟩ vs w := by
  unfold evaluate
  rw [hname]
  dsimp only
  rw [List.length_map, if_pos haccepts, if_neg hchoose, Action.bind_of_ok (evaluateAll_values scene vs w)]

mutual

/-- **The world after an evaluation is what its commands make of the world before it.** -/
theorem world_evaluate (scene : Scene) :
    ∀ e w, (evaluate scene e w).2 = replay (calls scene e w) w
  | .value _, _ => rfl
  | .call path name args, w => by
    unfold evaluate calls
    cases scene.commands.find? name with
    | none => rfl
    | some command =>
      dsimp only
      split_ifs with harity hchoose
      · exact world_evaluateChoice scene args w
      · exact world_bind (world_evaluateAll scene args w) fun vs w => rfl
      · rfl

theorem world_evaluateAll (scene : Scene) :
    ∀ es w, (evaluateAll scene es w).2 = replay (allCalls scene es w) w
  | [], _ => rfl
  | e :: es, w => by
    unfold evaluateAll allCalls
    refine world_bind (world_evaluate scene e w) fun v w => ?_
    rw [world_map]
    exact world_evaluateAll scene es w

theorem world_evaluateChoice (scene : Scene) :
    ∀ es w, (evaluateChoice scene es w).2 = replay (choiceCalls scene es w) w
  | [], _ => rfl
  | condition :: branches, w => by
    unfold evaluateChoice choiceCalls
    refine world_bind (world_evaluate scene condition w) fun v w => ?_
    exact world_bind (l := []) rfl fun holds w => world_evaluateAt scene _ branches w

theorem world_evaluateAt (scene : Scene) :
    ∀ n es w, (evaluateAt scene n es w).2 = replay (callsAt scene n es w) w
  | n, [], _ => by cases n <;> rfl
  | 0, e :: _, w => world_evaluate scene e w
  | n + 1, _ :: es, w => world_evaluateAt scene n es w

end

theorem world_evaluateTruth (scene : Scene) (e : Expr) (w : World) :
    (evaluateTruth scene e w).2 = replay (calls scene e w) w := by
  rw [← world_evaluate]
  unfold evaluateTruth Action.bind
  rcases evaluate scene e w with ⟨f | v, w'⟩ <;> rfl

/-! ### Lines and passes -/

/-- The commands that a line runs, given the names that have started. -/
def lineCalls (scene : Scene) (fired : Fired) (line : Line) (w : World) : List Dispatch :=
  calls scene line.condition w ++ callsAfter (evaluateTruth scene line.condition) (fun holds w =>
    if holds && fired.allows line.name then allCalls scene line.statements w else []) w

/-- The commands that the lines run, given the names that have started. -/
def callsFrom (scene : Scene) (fired : Fired) : Listing → World → List Dispatch
  | [], _ => []
  | line :: more, w =>
    lineCalls scene fired line w ++
      callsFrom scene (if (runLine scene fired line w).1.started then fired.fire line.name else fired)
        more (runLine scene fired line w).2

/-- The commands that a pass runs. -/
def passCalls (scene : Scene) (lines : Listing) (w : World) : List Dispatch :=
  callsFrom scene ∅ lines w

theorem world_runLine (scene : Scene) (fired : Fired) (line : Line) (w : World) :
    (runLine scene fired line w).2 = replay (lineCalls scene fired line w) w := by
  unfold runLine lineCalls callsAfter
  rw [replay_append, ← world_evaluateTruth]
  rcases evaluateTruth scene line.condition w with ⟨e | holds, w'⟩
  · rfl
  · dsimp only
    split_ifs with h
    · rw [← world_evaluateAll]
      rcases evaluateAll scene line.statements w' with ⟨e | vs, w''⟩ <;> rfl
    · rfl

theorem world_runFrom (scene : Scene) (lines : Listing) :
    ∀ index fired w,
      (runFrom scene index fired lines w).2.2 = replay (callsFrom scene fired lines w) w := by
  induction lines with
  | nil => exact fun _ _ _ => rfl
  | cons line more ih =>
    intro index fired w
    unfold runFrom callsFrom
    rw [replay_append, ← world_runLine, ← ih (index + 1)]

/-- The names that have started when a pass ends. -/
def passFired (scene : Scene) (lines : Listing) (w : World) : Fired := (runFrom scene 0 ∅ lines w).2.1

/-- **The world after a pass is what its commands make of the world before it**, with the names that have
started left in its context. -/
theorem world_runLines (scene : Scene) (lines : Listing) (w : World) :
    (runLines scene lines w).2 =
      (replay (passCalls scene lines w) w).leave scene.active (passFired scene lines w) := by
  unfold passCalls
  rw [← world_runFrom scene lines 0]
  rfl

end CoachScript
