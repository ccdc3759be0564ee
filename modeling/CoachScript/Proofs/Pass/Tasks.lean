import CoachScript.Proofs.Eval.Moments
import CoachScript.Proofs.Pass.Reverting
import CoachScript.Proofs.State.Subtree

/-!
# Runs, task by task

* `Task`: one thing that a platform has done. `Task.moments` are the commands of a sequence of tasks.
* **`Task.seated`**: commands act in contexts that exist, if scripts are run in such.
* **`Moment.Decides.tasks_iff`**: what each command leaves true under a condition on it, is true
  after every command if and only if every command meets the condition.
-/

namespace CoachScript

open Dispatch

/-- The command acts in a context that exists, or above such a one. -/
def Moment.Seated (m : Moment) : Prop :=
  m.InScene m.dispatch.call.scene ∧ m.dispatch.call.scene.active < m.world.contexts.made.size

/-- Contexts that exist stay. -/
theorem Dispatch.size_le_of_mem_moments (ds : List Dispatch) (w : World) :
    ∀ m ∈ moments ds w, w.contexts.made.size ≤ m.world.contexts.made.size := by
  induction ds generalizing w with
  | nil => exact List.forall_mem_nil _
  | cons d ds ih =>
    have hfirst : w.contexts.made.size ≤ (d.run w).2.contexts.made.size :=
      (Command.effect d.call d.args w d.command).retains_name.size
    exact List.forall_mem_cons.mpr ⟨Nat.le_refl _, fun m hm => Nat.le_trans hfirst (ih _ m hm)⟩

/-! ### Tasks -/

/-- One thing that a platform has done: a coach's context obtained, or a script run there. -/
inductive Task where
  | obtain (coachId : String)
  | evaluate (scene : Scene) (e : Expr)
  | run (scene : Scene) (lines : Listing)
  | rerun (scene : Scene) (keep : String) (lines : Listing)

namespace Task

/-- What a task makes of a world. -/
def perform : Task → World → World
  | .obtain coachId, w => { w with contexts := (w.contexts.obtain coachId).2 }
  | .evaluate scene e, w => (CoachScript.evaluate scene e w).2
  | .run scene lines, w => (runLines scene lines w).2
  | .rerun scene keep lines, w => (runQuestion scene keep lines w).2

/-- The world in which the commands of a task begin. -/
def start : Task → World → World
  | .obtain coachId, w => { w with contexts := (w.contexts.obtain coachId).2 }
  | .evaluate _ _, w | .run _ _, w => w
  | .rerun scene keep _, w => w.revert scene keep

/-- The commands of a task that begins in a world. -/
def calls : Task → World → List Dispatch
  | .obtain _, _ => []
  | .evaluate scene e, w => CoachScript.calls scene e w
  | .run scene lines, w | .rerun scene _ lines, w => passCalls scene lines w

/-- The commands of tasks, one after another, each with the world that it runs in. -/
def moments : List Task → World → List Moment
  | [], _ => []
  | task :: more, w =>
    Dispatch.moments (task.calls (task.start w)) (task.start w) ++ moments more (task.perform w)

/-- Every task of a sequence is of the given kind where it is done. -/
def Along (kind : World → Task → Prop) : World → List Task → Prop
  | _, [] => True
  | w, task :: more => kind w task ∧ Along kind (task.perform w) more

instance decidableAlong (kind : World → Task → Prop) [∀ w task, Decidable (kind w task)] :
    ∀ w tasks, Decidable (Along kind w tasks)
  | _, [] => instDecidableTrue
  | w, task :: more =>
    have := decidableAlong kind (task.perform w) more
    instDecidableAnd

theorem along_of_forall {kind : World → Task → Prop} (h : ∀ w task, kind w task) (tasks : List Task)
    {w : World} : Along kind w tasks := by
  induction tasks generalizing w with
  | nil => exact trivial
  | cons task more ih => exact ⟨h w task, ih⟩

/-- Scripts are run in contexts that exist, and the ids of coaches have no dot. -/
def Sound (w : World) : Task → Prop
  | .obtain coachId => DotFree coachId
  | .evaluate scene _ | .run scene _ | .rerun scene _ _ => scene.active < w.contexts.made.size

instance (w : World) : ∀ task : Task, Decidable (task.Sound w)
  | .obtain coachId => inferInstanceAs (Decidable (DotFree coachId))
  | .evaluate _ _ | .run _ _ | .rerun _ _ _ => inferInstanceAs (Decidable (_ < _))

/-- After its commands, a task does no more than leave with a context the names of lines that started. -/
theorem perform_of_replay {P : World → Prop} (hleave : ∀ w id fired, P w → P (w.leave id fired))
    (task : Task) {w : World} (h : P (replay (task.calls (task.start w)) (task.start w))) :
    P (task.perform w) := by
  cases task with
  | obtain coachId => exact h
  | evaluate scene e =>
    show P (CoachScript.evaluate scene e w).2
    rw [world_evaluate]
    exact h
  | run scene lines =>
    show P (runLines scene lines w).2
    rw [world_runLines]
    exact hleave _ _ _ h
  | rerun scene keep lines =>
    show P (runLines scene lines (w.revert scene keep)).2
    rw [world_runLines]
    exact hleave _ _ _ h

/-- Commands of a scene whose context exists before the first of them. -/
theorem seated_of_inScene {scene : Scene} {ds : List Dispatch} {w : World}
    (hactive : scene.active < w.contexts.made.size)
    (h : ∀ m ∈ Dispatch.moments ds w, m.InScene scene) : ∀ m ∈ Dispatch.moments ds w, m.Seated := by
  intro m hm
  obtain ⟨rfl, htarget⟩ := h m hm
  exact ⟨⟨rfl, htarget⟩, Nat.lt_of_lt_of_le hactive (size_le_of_mem_moments ds w m hm)⟩

/-- **Where scripts are run in contexts that exist, all commands act in such contexts.** -/
theorem seated {w : World} {tasks : List Task} (h : Along Sound w tasks) :
    ∀ m ∈ moments tasks w, m.Seated := by
  induction tasks generalizing w with
  | nil => exact List.forall_mem_nil _
  | cons task more ih =>
    refine List.forall_mem_append.mpr ⟨?_, ih h.2⟩
    have hsound := h.1
    cases task with
    | obtain coachId => exact List.forall_mem_nil _
    | evaluate scene e => exact seated_of_inScene hsound (inScene_calls scene e w)
    | run scene lines => exact seated_of_inScene hsound (inScene_passCalls scene lines w)
    | rerun scene keep lines =>
      have hactive : scene.active < (w.revert scene keep).contexts.made.size := by
        rw [World.size_revert]
        exact hsound
      exact seated_of_inScene hactive (inScene_passCalls scene lines (w.revert scene keep))

end Task

/-! ### What every command leaves true -/

/-- Commands of a kind keep the invariant. What was good under it stays so from a command on if and
only if the command meets a condition. Tasks of a kind begin without harm to either, and passes end
so. -/
structure Moment.Decides (task : World → Task → Prop) (kind : Moment → Prop)
    (inv good : World → Prop) (meets : Moment → Prop) : Prop where
  start : ∀ w t, task w t → inv w → inv (t.start w) ∧ (good w → good (t.start w))
  step : ∀ m, kind m → inv m.world → inv m.after ∧ (good m.world → (good m.after ↔ meets m))
  leave : ∀ w id fired, inv w → inv (w.leave id fired) ∧ (good w → good (w.leave id fired))

namespace Moment.Decides

variable {task : World → Task → Prop} {kind : Moment → Prop} {inv good : World → Prop}
  {meets : Moment → Prop} (h : Moment.Decides task kind inv good meets)
include h

section Commands

variable {w : World} {ds : List Dispatch} (hkind : ∀ m ∈ moments ds w, kind m) (hinv : inv w)
include hkind hinv

theorem replay : inv (replay ds w) := by
  induction ds generalizing w with
  | nil => exact hinv
  | cons d ds ih =>
    obtain ⟨hfirst, hmore⟩ := List.forall_mem_cons.mp hkind
    exact ih hmore (h.step ⟨w, d⟩ hfirst hinv).1

theorem of_mem_moments : ∀ m ∈ moments ds w, inv m.after := by
  induction ds generalizing w with
  | nil => exact List.forall_mem_nil _
  | cons d ds ih =>
    obtain ⟨hfirst, hmore⟩ := List.forall_mem_cons.mp hkind
    have hafter := (h.step ⟨w, d⟩ hfirst hinv).1
    exact List.forall_mem_cons.mpr ⟨hafter, ih hmore hafter⟩

variable (hgood : good w)
include hgood

theorem moments_iff : (∀ m ∈ moments ds w, good m.after) ↔ ∀ m ∈ moments ds w, meets m := by
  induction ds generalizing w with
  | nil => exact iff_of_true (List.forall_mem_nil _) (List.forall_mem_nil _)
  | cons d ds ih =>
    obtain ⟨hfirst, hmore⟩ := List.forall_mem_cons.mp hkind
    obtain ⟨hafter, hstep⟩ := h.step ⟨w, d⟩ hfirst hinv
    unfold moments
    rw [List.forall_mem_cons, List.forall_mem_cons]
    exact (and_congr_left' (hstep hgood)).trans
      (and_congr_right fun hmeets => ih hmore hafter ((hstep hgood).mpr hmeets))

theorem good_replay (hmeets : ∀ m ∈ moments ds w, meets m) : good (Dispatch.replay ds w) := by
  induction ds generalizing w with
  | nil => exact hgood
  | cons d ds ih =>
    obtain ⟨hfirst, hmore⟩ := List.forall_mem_cons.mp hkind
    obtain ⟨hnow, hlater⟩ := List.forall_mem_cons.mp hmeets
    obtain ⟨hafter, hstep⟩ := h.step ⟨w, d⟩ hfirst hinv
    exact ih hmore hafter ((hstep hgood).mpr hnow) hlater

end Commands

section Tasks

variable {w : World} {tasks : List Task} (halong : Task.Along task w tasks)
  (hkind : ∀ m ∈ Task.moments tasks w, kind m) (hinv : inv w)
include halong hkind hinv

theorem of_mem_tasks : ∀ m ∈ Task.moments tasks w, inv m.after := by
  induction tasks generalizing w with
  | nil => exact List.forall_mem_nil _
  | cons t more ih =>
    obtain ⟨hfirst, hmore⟩ := List.forall_mem_append.mp hkind
    have hstart := (h.start w t halong.1 hinv).1
    refine List.forall_mem_append.mpr ⟨h.of_mem_moments hfirst hstart, ih halong.2 hmore ?_⟩
    exact t.perform_of_replay (fun v id fired hv => (h.leave v id fired hv).1) (h.replay hfirst hstart)

/-- **After every command all is good, if and only if every command meets the condition.** -/
theorem tasks_iff (hgood : good w) :
    (∀ m ∈ Task.moments tasks w, good m.after) ↔ ∀ m ∈ Task.moments tasks w, meets m := by
  induction tasks generalizing w with
  | nil => exact iff_of_true (List.forall_mem_nil _) (List.forall_mem_nil _)
  | cons t more ih =>
    obtain ⟨hfirst, hmore⟩ := List.forall_mem_append.mp hkind
    obtain ⟨hstart, hbefore⟩ := h.start w t halong.1 hinv
    unfold Task.moments
    rw [List.forall_mem_append, List.forall_mem_append,
      h.moments_iff hfirst hstart (hbefore hgood)]
    refine and_congr_right fun hmeets => ?_
    have hperform : inv (t.perform w) ∧ good (t.perform w) :=
      t.perform_of_replay (P := fun v => inv v ∧ good v)
        (fun v id fired hv => (h.leave v id fired hv.1).imp_right fun hleave => hleave hv.2)
        ⟨h.replay hfirst hstart, h.good_replay hfirst hstart (hbefore hgood) hmeets⟩
    exact ih halong.2 hmore hperform.1 hperform.2

end Tasks

end Moment.Decides

end CoachScript
