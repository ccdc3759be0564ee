import CoachScript.Proofs.Engine.Grown
import CoachScript.Proofs.Pass.Listed
import CoachScript.Proofs.State.Enlisted

/-!
# How the trees of engines are built

* `Call.Effect.built`, `World.built_runLines`: commands that act on contexts that exist build on.
* `World.built_or_links`: a script in no context builds on as long as it makes no link.
* **`Engine.Grown.built`**: the tree of a grown engine was built.
* **`Task.built_moments`**: so is the tree before every command of whatever is done with the engine, and
  the command acts on a context that exists.
-/

namespace CoachScript

namespace Contexts.Built

variable {cs ds : Contexts} (h : cs.Built)
include h

theorem updateShelf (f : Recommendations → Recommendations) (s : Shelf) :
    (cs.updateShelf f s).Built := by
  cases s with
  | own id => exact h.write id (fun _ => rfl) fun _ => rfl
  | bucket id tag => exact h.write id (fun _ => rfl) fun _ => rfl

theorem obtain (coachId : String) : (cs.obtain coachId).2.Built :=
  h.change (.obtain coachId) trivial

theorem createInstance {parent child : ContextId} {coachId instanceId argument : String} {new : Bool}
    (hparent : parent < cs.made.size)
    (hds : cs.createInstance parent coachId instanceId argument = .ok (child, new, ds)) :
    ds.Built := by
  have hrun := h.change (.create parent coachId instanceId argument) hparent
  unfold TreeChange.run at hrun
  dsimp only at hrun
  rwa [hds] at hrun

theorem removeInstance (parent : ContextId) (coachId instanceId : String) :
    (cs.removeInstance parent coachId instanceId).2.Built :=
  h.change (.remove parent coachId instanceId) trivial

theorem link {child parent : ContextId} (hchild : child < cs.made.size)
    (hparent : parent < cs.made.size) (hds : cs.link child parent = .ok ds) : ds.Built := by
  rw [← TreeChange.run_link_of_ok hds]
  exact h.change (.link child parent) ⟨hchild, hparent⟩

end Contexts.Built

/-! ### Scripts -/

/-- **Commands that act on contexts that exist build on.** -/
theorem Call.Effect.built {call : Call} {w w' : World} (heffect : call.Effect w w')
    (h : w.contexts.Built) (htarget : call.target < w.contexts.made.size) : w'.contexts.Built := by
  cases heffect with
  | nothing | logged => exact h
  | contributed | written | badged | showed => exact h.write _ (fun _ => rfl) fun _ => rfl
  | reshelved f => exact h.updateShelf f _
  | created hchild => exact h.createInstance htarget hchild
  | refused hchild => exact (h.createInstance htarget hchild).removeInstance _ _ _
  | removed => exact h.removeInstance _ _ _

namespace World

variable {w : World} (h : w.contexts.Built)
include h

theorem built_revert (scene : Scene) (keep : String) : (w.revert scene keep).contexts.Built :=
  revert_keeps (P := fun v => v.contexts.Built)
    (fun _ id _ _ _ hv => hv.write id (fun _ => rfl) fun _ => rfl) scene keep h

theorem built_leave (id : ContextId) (fired : Fired) : (w.leave id fired).contexts.Built :=
  h.write id (fun _ => rfl) fun _ => rfl

variable {scene : Scene} (hactive : scene.active < w.contexts.made.size)
include hactive

theorem built_runLines (lines : Listing) : (runLines scene lines w).2.contexts.Built := by
  refine (runLines_keeps (P := fun v => v.contexts.Built ∧ w.contexts.made.size ≤ v.contexts.made.size)
    scene (fun call v v' _ htarget heffect hv => ?_) (fun fired v hv => ?_) lines ⟨h, Nat.le_refl _⟩).1
  · have hmade : call.target < v.contexts.made.size := by
      rcases htarget with heq | hmem
      · exact heq ▸ Nat.lt_of_lt_of_le hactive hv.2
      · exact (hv.1.enlisted.grounded _ _ hmem).2
    exact ⟨heffect.built hv.1 hmade, Nat.le_trans hv.2 heffect.retains_name.size⟩
  · exact ⟨built_leave hv.1 _ fired, (v.contexts.size_modify _ _).symm ▸ hv.2⟩

theorem built_runQuestion (keep : String) (lines : Listing) :
    (runQuestion scene keep lines w).2.contexts.Built :=
  built_runLines (built_revert h scene keep) (size_revert.symm ▸ hactive) lines

end World

/-! ### Scripts that make no link -/

theorem Lineage.length_lt_of_link {l l' : Lineage} {child parent : ContextId}
    (h : l.link? child parent = some l') : l.chains.length < l'.chains.length := by
  unfold link? at h
  split_ifs at h
  cases h
  exact Nat.lt_of_lt_of_eq (Nat.lt_succ_self _) (congrArg (· + 1) (List.length_map _)).symm

/-- The number of links between contexts. -/
def Contexts.links (cs : Contexts) : Nat := cs.lineage.chains.length

theorem Contexts.links_createInstance {cs ds : Contexts} {parent child : ContextId}
    {coachId instanceId argument : String}
    (h : cs.createInstance parent coachId instanceId argument = .ok (child, true, ds)) :
    cs.links < ds.links := by
  obtain ⟨-, -, lineage, hlineage, rfl⟩ := createInstance_new h
  exact Lineage.length_lt_of_link hlineage

/-- A command in any context builds on, or makes a link. -/
theorem Call.Effect.built_or_links {call : Call} {w w' : World} (heffect : call.Effect w w') :
    (w.contexts.Built → w'.contexts.Built) ∧ w'.contexts.links = w.contexts.links ∨
      w.contexts.links < w'.contexts.links := by
  cases heffect with
  | nothing | logged => exact .inl ⟨id, rfl⟩
  | contributed | written | badged | showed =>
    exact .inl ⟨fun h => h.write _ (fun _ => rfl) fun _ => rfl, rfl⟩
  | reshelved f =>
    refine .inl ⟨fun h => h.updateShelf f _, ?_⟩
    show (w.contexts.updateShelf f _).links = w.contexts.links
    cases w.contexts.shelf call.scene.active <;> rfl
  | created hchild => exact .inr (Contexts.links_createInstance hchild)
  | refused hchild =>
    have hlinks := Contexts.links_createInstance hchild
    exact .inr hlinks
  | removed => exact .inl ⟨fun h => h.removeInstance _ _ _, rfl⟩

/-- A pass in any context builds on, or makes a link. -/
theorem World.built_or_links {w : World} (h : w.contexts.Built) (scene : Scene) (lines : Listing) :
    (runLines scene lines w).2.contexts.Built ∨
      w.contexts.links < (runLines scene lines w).2.contexts.links := by
  refine (runLines_keeps (P := fun v => (v.contexts.Built ∨ w.contexts.links < v.contexts.links) ∧
    w.contexts.links ≤ v.contexts.links) scene (fun _ v v' _ _ heffect hv => ?_)
    (fun fired v hv => ⟨hv.1.imp_left fun hbuilt => built_leave hbuilt _ fired, hv.2⟩) lines
    ⟨.inl h, Nat.le_refl _⟩).1
  rcases heffect.built_or_links with ⟨hbuilt, hlinks⟩ | hlinks
  · rw [hlinks]
    exact ⟨hv.1.imp_left hbuilt, hv.2⟩
  · have hlt := Nat.lt_of_le_of_lt hv.2 hlinks
    exact ⟨.inr hlt, Nat.le_of_lt hlt⟩

/-! ### Engines -/

namespace Engine

variable {engine engine' : Engine}

/-- Evaluations build on. -/
theorem kept_built : Kept fun w => w.contexts.Built :=
  ⟨fun coachId h => h.obtain coachId, fun keep lines h hactive =>
    World.built_runQuestion h hactive keep lines⟩

/-- A step that makes no link builds on, also where it runs a script in no context. -/
theorem Rooted.built_step (hrooted : engine.Rooted) (h : engine.world.contexts.Built)
    (hstep : engine.Step engine')
    (hlineage : engine'.world.contexts.lineage = engine.world.contexts.lineage) :
    engine'.world.contexts.Built := by
  have hlinks : ¬ engine.world.contexts.links < engine'.world.contexts.links := by
    unfold Contexts.links
    rw [hlineage]
    exact Nat.lt_irrefl _
  cases hstep with
  | host | forget => exact h
  | question coachId question => exact kept_built.evaluateQuestion hrooted h coachId question
  | coach coachId => exact kept_built.evaluateCoach hrooted h coachId
  | subcoach key question => exact kept_built.evaluateInstance hrooted h key question
  | run scene text =>
    -- The context of the scene need not exist; an instance created below it would be linked.
    refine Or.resolve_right ?_ hlinks
    exact runText_of (P := fun v => v.contexts.Built ∨
      engine.world.contexts.links < v.contexts.links) hrooted.sound.cache scene text (.inl h)
      (World.built_or_links h scene)
  | rerun scene text =>
    refine Or.resolve_right ?_ hlinks
    refine rerunText_of (P := fun v => v.contexts.Built ∨
      engine.world.contexts.links < v.contexts.links) hrooted.sound.cache scene text (.inl h)
      fun keep lines => ?_
    have hsame : (engine.world.revert scene keep).contexts.links = engine.world.contexts.links :=
      congrArg (·.chains.length) World.lineage_revert
    rw [← hsame]
    exact World.built_or_links (World.built_revert h scene keep) scene lines
  | obtain coachId => exact h.obtain coachId
  | @create parent child coachId instanceId argument new contexts hcreate =>
    cases new with
    | false => rwa [Contexts.createInstance_known hcreate]
    | true => exact absurd (Contexts.links_createInstance hcreate) hlinks
  | remove parent coachId instanceId => exact h.removeInstance parent coachId instanceId
  | link hlink =>
    obtain ⟨lineage, hlonger, rfl⟩ := Contexts.link_eq hlink
    exact absurd (Lineage.length_lt_of_link hlonger) hlinks
  | clear id => exact h.write id (fun _ => rfl) fun _ => rfl
  | reset key => exact h.change (.reset key) trivial
  | resetAll => exact h.change .resetAll trivial

/-- **The tree of a grown engine was built.** -/
theorem Grown.built (h : engine.Grown) : engine.world.contexts.Built := by
  induction h with
  | start config commands host => exact .start
  | @step engine engine' hgrown hstep ih =>
    have hrooted := hgrown.rooted
    cases hstep with
    | aside hstep hlineage _ => exact hrooted.built_step ih hstep hlineage
    | question coachId question => exact kept_built.evaluateQuestion hrooted ih coachId question
    | coach coachId => exact kept_built.evaluateCoach hrooted ih coachId
    | subcoach key question => exact kept_built.evaluateInstance hrooted ih key question
    | run hactive text =>
      exact runText_of (P := fun v => v.contexts.Built) hrooted.sound.cache _ text ih
        (World.built_runLines ih hactive)
    | rerun hactive text =>
      exact rerunText_of (P := fun v => v.contexts.Built) hrooted.sound.cache _ text ih
        (World.built_runQuestion ih hactive)
    | create hparent hcreate => exact ih.createInstance hparent hcreate
    | link hchild hparent hlink => exact ih.link hchild hparent hlink

end Engine

/-! ### Commands -/

/-- A task begins with a tree that was built. -/
theorem Task.built_start {w : World} (h : w.contexts.Built) (task : Task) :
    (task.start w).contexts.Built := by
  cases task with
  | obtain coachId => exact h.obtain coachId
  | evaluate | run => exact h
  | rerun scene keep lines => exact World.built_revert h scene keep

/-- **Before every command of whatever is done with a tree that was built, it was built**, and the
command acts on a context that exists. -/
theorem Task.built_moments {w : World} (h : w.contexts.Built) {tasks : List Task}
    (hsound : Along Sound w tasks) : ∀ m ∈ moments tasks w,
      m.world.contexts.Built ∧ m.dispatch.call.target < m.world.contexts.made.size := by
  let meets (m : Moment) : Prop :=
    m.world.contexts.Built ∧ m.dispatch.call.target < m.world.contexts.made.size
  have hdecides : Moment.Decides (fun _ _ => True) Moment.Seated (fun v => v.contexts.Built)
      (fun _ => True) meets := by
    refine ⟨fun _ task _ hbuilt => ⟨task.built_start hbuilt, id⟩, fun m hseated hbuilt => ?_,
      fun w id fired hbuilt => ⟨World.built_leave hbuilt id fired, fun _ => trivial⟩⟩
    have htarget := hseated.target_lt hbuilt.enlisted.grounded
    have heffect := Command.effect m.dispatch.call m.dispatch.args m.world m.dispatch.command
    exact ⟨heffect.built hbuilt htarget, fun _ => iff_of_true trivial ⟨hbuilt, htarget⟩⟩
  exact (hdecides.tasks_iff (along_of_forall (fun _ _ => trivial) tasks) (seated hsound) h
    trivial).mp fun _ _ => trivial

end CoachScript
