import CoachScript.Proofs.Eval.Calls
import CoachScript.Proofs.State.View

/-!
# Commands with the worlds that they run in

* `Moment`: a command with the world that it runs in. `Dispatch.moments` are those of commands, one
  after another.
* **`inScene_calls`, `inScene_passCalls`**: the commands of an evaluation or a pass are of its scene, and
  act in its context or above that.
-/

namespace CoachScript

open Dispatch

/-- A command with the world that it runs in. -/
structure Moment where
  world : World
  dispatch : Dispatch

namespace Moment

/-- The world after the command. -/
def after (m : Moment) : World := (m.dispatch.run m.world).2

/-- The command is one of the scene, and acts in its context or above that. -/
def InScene (m : Moment) (scene : Scene) : Prop :=
  m.dispatch.call.scene = scene ∧ (m.dispatch.call.target = scene.active ∨
    m.dispatch.call.target ∈ m.world.contexts.ancestors scene.active)

end Moment

/-- The commands, one after another, each with the world that it runs in. -/
def Dispatch.moments : List Dispatch → World → List Moment
  | [], _ => []
  | d :: ds, w => ⟨w, d⟩ :: moments ds (d.run w).2

theorem Dispatch.moments_append (ds es : List Dispatch) (w : World) :
    moments (ds ++ es) w = moments ds w ++ moments es (replay ds w) := by
  induction ds generalizing w with
  | nil => rfl
  | cons d ds ih => exact congrArg (_ :: ·) (ih _)

/-- Every command has its moment. -/
theorem Dispatch.exists_moment {ds : List Dispatch} {d : Dispatch} (h : d ∈ ds) (w : World) :
    ∃ m ∈ moments ds w, m.dispatch = d := by
  induction ds generalizing w with
  | nil => cases h
  | cons first more ih =>
    rcases List.mem_cons.mp h with rfl | h
    · exact ⟨_, List.mem_cons_self, rfl⟩
    · obtain ⟨m, hm, hd⟩ := ih h (first.run w).2
      exact ⟨m, List.mem_cons_of_mem _ hm, hd⟩

/-! ### Where commands act -/

/-- What holds of the commands of a step and of one after it. -/
theorem forall_moments_bind {α : Type} {P : Moment → Prop} {x : Action α} {l : List Dispatch}
    {next : α → World → List Dispatch} {w : World} (hx : (x w).2 = replay l w)
    (hl : ∀ m ∈ moments l w, P m) (hnext : ∀ a w, ∀ m ∈ moments (next a w) w, P m) :
    ∀ m ∈ moments (l ++ callsAfter x next w) w, P m := by
  rw [moments_append, List.forall_mem_append, ← hx]
  refine ⟨hl, ?_⟩
  unfold callsAfter
  rcases x w with ⟨e | a, w'⟩
  · exact List.forall_mem_nil _
  · exact hnext a w'

section Scenes

variable (scene : Scene)

mutual

theorem inScene_calls : ∀ e w, ∀ m ∈ moments (calls scene e w) w, m.InScene scene
  | .value _, _ => List.forall_mem_nil _
  | .call path name args, w => by
    unfold calls
    cases scene.commands.find? name with
    | none => exact List.forall_mem_nil _
    | some command =>
      dsimp only
      split_ifs with harity hchoose
      · exact inScene_choiceCalls args w
      · refine forall_moments_bind (world_evaluateAll scene args w) (inScene_allCalls args w)
          fun vs w => List.forall_mem_singleton.mpr ⟨rfl, ?_⟩
        exact w.contexts.resolve_mem scene.active path
      · exact List.forall_mem_nil _

theorem inScene_allCalls : ∀ es w, ∀ m ∈ moments (allCalls scene es w) w, m.InScene scene
  | [], _ => List.forall_mem_nil _
  | e :: es, w => by
    unfold allCalls
    exact forall_moments_bind (world_evaluate scene e w) (inScene_calls e w)
      fun _ => inScene_allCalls es

theorem inScene_choiceCalls : ∀ es w, ∀ m ∈ moments (choiceCalls scene es w) w, m.InScene scene
  | [], _ => List.forall_mem_nil _
  | condition :: branches, w => by
    unfold choiceCalls
    refine forall_moments_bind (world_evaluate scene condition w) (inScene_calls condition w)
      fun v w => ?_
    exact forall_moments_bind (l := []) rfl (List.forall_mem_nil _)
      fun holds => inScene_callsAt _ branches

theorem inScene_callsAt : ∀ n es w, ∀ m ∈ moments (callsAt scene n es w) w, m.InScene scene
  | n, [], _ => by cases n <;> exact List.forall_mem_nil _
  | 0, e :: _, w => inScene_calls e w
  | n + 1, _ :: es, w => inScene_callsAt n es w

end

theorem inScene_lineCalls (fired : Fired) (line : Line) (w : World) :
    ∀ m ∈ moments (lineCalls scene fired line w) w, m.InScene scene := by
  unfold lineCalls
  refine forall_moments_bind (world_evaluateTruth scene line.condition w)
    (inScene_calls scene line.condition w) fun holds w => ?_
  split_ifs
  · exact inScene_allCalls scene line.statements w
  · exact List.forall_mem_nil _

/-- **The commands of a pass act in its context or above that.** -/
theorem inScene_passCalls (lines : Listing) (w : World) :
    ∀ m ∈ moments (passCalls scene lines w) w, m.InScene scene := by
  unfold passCalls
  generalize (∅ : Fired) = fired
  induction lines generalizing fired w with
  | nil => exact List.forall_mem_nil _
  | cons line more ih =>
    unfold callsFrom
    rw [moments_append, ← world_runLine]
    exact List.forall_mem_append.mpr ⟨inScene_lineCalls scene fired line w, ih _ _⟩

end Scenes

end CoachScript
