import CoachScript.Proofs.Builtin.Respecting
import CoachScript.Proofs.State.View

/-!
# Commands beside the variables

Most commands neither read nor write variables: they do the same in a world whose contexts hold
other ones.

* `World.holding w memory`: the world with the variables `memory` in its contexts.
* `World.Beside`: two worlds that differ in their variables at most. `Command.overlooks`: the commands that
  leave variables aside; `Command.run_beside`: step by step they respect it.
* **`Command.run_holding`**: they have one value, whatever the variables, and leave them as they are;
  a context made meanwhile holds none.
-/

namespace CoachScript

open CoachScript.Action CoachScript.Builtin

/-! ### Other variables -/

/-- A change of a context that leaves its variables aside. -/
def Context.Overlooks (f : Context → Context) : Prop :=
  ∀ c memory, f { c with memory } = { f c with memory }

namespace Contexts

variable (cs : Contexts) (memory : ContextId → Variables Value)

/-- The contexts with other variables. -/
def holding : Contexts :=
  { cs with made := cs.made.mapIdx fun id c => { c with memory := memory id } }

theorem get_holding (id : ContextId) :
    (cs.holding memory).get id =
      if id < cs.made.size then { cs.get id with memory := memory id } else cs.get id := by
  unfold holding get
  rw [Array.getElem?_mapIdx]
  by_cases h : id < cs.made.size
  · simp [h]
  · simp [h]

/-- But for its variables, a context is as it was. -/
theorem get_holding_eq (id : ContextId) :
    (cs.holding memory).get id =
      { cs.get id with memory := ((cs.holding memory).get id).memory } := by
  rw [get_holding]
  split_ifs <;> rfl

variable {memory}

theorem holding_congr {memory' : ContextId → Variables Value}
    (h : ∀ id, id < cs.made.size → memory id = memory' id) :
    cs.holding memory = cs.holding memory' := by
  unfold holding
  congr 1
  refine Array.ext (by simp) fun id hid hid' => ?_
  rw [Array.getElem_mapIdx, Array.getElem_mapIdx, h id (by simpa using hid)]

variable (memory)

@[simp] theorem name_holding (id : ContextId) :
    ((cs.holding memory).get id).name = (cs.get id).name := by rw [get_holding_eq]

@[simp] theorem tag_holding (id : ContextId) :
    ((cs.holding memory).get id).tag = (cs.get id).tag := by rw [get_holding_eq]

@[simp] theorem coachId_holding (id : ContextId) :
    ((cs.holding memory).get id).coachId = (cs.get id).coachId := by rw [get_holding_eq]

@[simp] theorem argument_holding (id : ContextId) :
    ((cs.holding memory).get id).argument = (cs.get id).argument := by rw [get_holding_eq]

@[simp] theorem scores_holding (id : ContextId) :
    ((cs.holding memory).get id).scores = (cs.get id).scores := by rw [get_holding_eq]

@[simp] theorem badges_holding (id : ContextId) :
    ((cs.holding memory).get id).badges = (cs.get id).badges := by rw [get_holding_eq]

@[simp] theorem hidden_holding (id : ContextId) :
    ((cs.holding memory).get id).hidden = (cs.get id).hidden := by rw [get_holding_eq]

@[simp] theorem handle?_holding (id : ContextId) (coachId instanceId : String) :
    ((cs.holding memory).get id).handle? coachId instanceId =
      (cs.get id).handle? coachId instanceId := by
  rw [get_holding_eq]
  rfl

theorem modify_holding (id : ContextId) {f : Context → Context} (hf : Context.Overlooks f) :
    (cs.holding memory).modify id f = (cs.modify id f).holding memory := by
  unfold modify holding
  congr 1
  refine Array.ext (by simp) fun other hother hother' => ?_
  simp only [Array.getElem_modify, Array.getElem_mapIdx]
  split_ifs
  · rw [hf]
  · rfl

/-! ### Recommendations -/

@[simp] theorem shelf_holding (id : ContextId) : (cs.holding memory).shelf id = cs.shelf id := by
  unfold shelf
  rw [tag_holding, name_holding]
  rfl

@[simp] theorem onShelf_holding (s : Shelf) : (cs.holding memory).onShelf s = cs.onShelf s := by
  cases s with
  | own id =>
    show ((cs.holding memory).get id).recommendations = _
    rw [get_holding_eq]
    rfl
  | bucket id tag =>
    show ((cs.holding memory).get id).bucket tag = _
    rw [get_holding_eq]
    rfl

@[simp] theorem updateShelf_holding (f : Recommendations → Recommendations) (s : Shelf) :
    (cs.holding memory).updateShelf f s = (cs.updateShelf f s).holding memory := by
  cases s with
  | own id => exact modify_holding cs memory id fun _ _ => rfl
  | bucket id tag => exact modify_holding cs memory id fun _ _ => rfl

/-! ### Instances -/

/-- A new context holds nothing; there must be nothing at its place. -/
theorem add_holding (hfresh : memory cs.made.size = ∅) (key : String) {c : Context}
    (hc : c.memory = ∅) :
    (cs.holding memory).add key c =
      ((cs.add key c).1, (cs.add key c).2.holding memory) := by
  unfold add holding
  rw [Array.size_mapIdx]
  have hmade : (cs.made.mapIdx fun id c => { c with memory := memory id }).push c =
      (cs.made.push c).mapIdx fun id c => { c with memory := memory id } := by
    rw [Array.mapIdx_push, hfresh, ← hc]
  rw [hmade]

theorem link_holding (child parent : ContextId) :
    (cs.holding memory).link child parent =
      (cs.link child parent).map (·.holding memory) := by
  unfold link parent? ancestors
  simp only [name_holding]
  have hlineage : (cs.holding memory).lineage = cs.lineage := rfl
  rw [hlineage]
  split_ifs
  · rfl
  · rfl
  · rfl
  · cases cs.lineage.link? child parent <;> rfl

theorem createInstance_holding (hfresh : memory cs.made.size = ∅) (parent : ContextId)
    (coachId instanceId argument : String) :
    (cs.holding memory).createInstance parent coachId instanceId argument =
      (cs.createInstance parent coachId instanceId argument).map
        fun (id, new, contexts) => (id, new, contexts.holding memory) := by
  unfold createInstance
  have hstored : (cs.holding memory).stored = cs.stored := rfl
  rw [name_holding, hstored]
  dsimp only
  split
  · rfl
  · rw [add_holding cs memory hfresh _ rfl]
    dsimp only
    rw [link_holding]
    cases (cs.add _ _).2.link (cs.add _ _).1 parent with
    | error e => rfl
    | ok linked =>
      exact congrArg (fun contexts => Except.ok (_, true, contexts))
        (modify_holding linked memory parent fun _ _ => rfl)

@[simp] theorem removeInstance_holding (parent : ContextId) (coachId instanceId : String) :
    (cs.holding memory).removeInstance parent coachId instanceId =
      ((cs.removeInstance parent coachId instanceId).1,
        (cs.removeInstance parent coachId instanceId).2.holding memory) := by
  unfold removeInstance
  rw [handle?_holding, name_holding, modify_holding]
  · rfl
  · exact fun _ _ => rfl

end Contexts

namespace World

variable (w : World) (memory : ContextId → Variables Value)

/-- The world with other variables. -/
def holding : World := { w with contexts := w.contexts.holding memory }

/-- Where no context was made, nothing is held. -/
def Fits : Prop := ∀ id, w.contexts.made.size ≤ id → memory id = ∅

@[simp] theorem host_holding : (w.holding memory).host = w.host := rfl

@[simp] theorem log_holding : (w.holding memory).log = w.log := rfl

@[simp] theorem contexts_holding : (w.holding memory).contexts = w.contexts.holding memory := rfl

theorem modify_holding (id : ContextId) {f : Context → Context} (hf : Context.Overlooks f) :
    (w.holding memory).modify id f = (w.modify id f).holding memory :=
  congrArg (fun contexts => { w with contexts }) (w.contexts.modify_holding memory id hf)

end World

/-! ### Reading and changing -/

section Call

variable (call : Call) (args : List Value) (w : World) (memory : ContextId → Variables Value)

@[simp] theorem Call.source_holding : call.source (w.holding memory) = call.source w := by
  unfold Call.source World.get
  rw [World.contexts_holding, Contexts.name_holding]

namespace Builtin

@[simp] theorem sourceKey_holding (index : Nat) :
    sourceKey call args index (w.holding memory) = sourceKey call args index w := by
  unfold sourceKey
  rw [Call.source_holding]

@[simp] theorem writeKey_holding : writeKey call args (w.holding memory) = writeKey call args w := by
  unfold writeKey
  rw [sourceKey_holding, Call.source_holding]

@[simp] theorem targetCoach_holding :
    targetCoach call (w.holding memory) = targetCoach call w := by
  unfold targetCoach Call.context World.get
  rw [World.contexts_holding, Contexts.coachId_holding, World.host_holding]

@[simp] theorem shownAnswer_holding (question : String) :
    shownAnswer call question (w.holding memory) = shownAnswer call question w := by
  unfold shownAnswer Call.context World.get
  dsimp only
  rw [World.contexts_holding, Contexts.hidden_holding, Contexts.name_holding, World.host_holding]

@[simp] theorem shelved_holding : shelved call (w.holding memory) = shelved call w := by
  unfold shelved
  rw [World.contexts_holding, Contexts.shelf_holding, Contexts.onShelf_holding]

@[simp] theorem setBadges_holding (badges : Badges) :
    setBadges call badges (w.holding memory) = (setBadges call badges w).holding memory :=
  w.modify_holding memory call.target fun _ _ => rfl

@[simp] theorem withHidden_holding (hidden : Hidden) :
    withHidden call hidden (w.holding memory) = (withHidden call hidden w).holding memory :=
  w.modify_holding memory call.target fun _ _ => rfl

@[simp] theorem reshelve_holding (f : Recommendations → Recommendations) :
    reshelve call f (w.holding memory) = (reshelve call f w).holding memory := by
  unfold reshelve
  rw [World.contexts_holding, Contexts.shelf_holding, Contexts.updateShelf_holding]
  rfl

end Builtin

/-! ### The commands -/

/-- The commands that leave variables aside. -/
def Command.overlooks : Command → Bool
  | .set | .get | .append | .arrayAdd | .arrayRemove | .arrayLength | .arrayContains | .arrayGet
  | .arrayClear | .getSubcoachVariable => false
  | _ => true

variable {w memory}

/-- The second world is the first with other variables. -/
def World.Beside (memory : ContextId → Variables Value) (w w' : World) : Prop := w' = w.holding memory

namespace Action

theorem run_holding_of_respects {α : Type} {x : Action α} (h : Respects (World.Beside memory) x) :
    x (w.holding memory) = ((x w).1, (x w).2.holding memory) :=
  have hrun := h w _ rfl
  Prod.ext hrun.1.symm hrun.2

theorem look_beside {α : Type} {f : World → Except Fault α} (h : ∀ w : World, f (w.holding memory) = f w) :
    Respects (World.Beside memory) (.look f) := by
  refine respects_look ?_
  rintro w _ rfl
  exact (h w).symm

theorem view_beside {α : Type} {f : World → α} (h : ∀ w : World, f (w.holding memory) = f w) :
    Respects (World.Beside memory) (.view f) := by
  refine respects_view ?_
  rintro w _ rfl
  exact (h w).symm

theorem modify_beside {f : World → World}
    (h : ∀ w : World, f (w.holding memory) = (f w).holding memory) :
    Respects (World.Beside memory) (.modify f) := by
  refine respects_modify ?_
  rintro w _ rfl
  exact h w

end Action

theorem createSubcoach_holding (h : w.Fits memory) :
    Builtin.createSubcoach call args (w.holding memory) =
      ((Builtin.createSubcoach call args w).1,
        (Builtin.createSubcoach call args w).2.holding memory) := by
  have hcreation : Builtin.creation call args (w.holding memory) = Builtin.creation call args w := rfl
  unfold Builtin.createSubcoach
  rw [hcreation]
  rcases Builtin.creation call args w with e | ⟨coachId, instanceId, argument⟩
  · rfl
  dsimp only
  rw [World.contexts_holding, Contexts.createInstance_holding _ _ (h _ (Nat.le_refl _))]
  rcases w.contexts.createInstance call.target coachId instanceId argument with
    e | ⟨child, new, contexts⟩
  · rfl
  cases new with
  | false => rfl
  | true =>
    dsimp only [Except.map]
    rw [Contexts.name_holding, World.host_holding]
    cases w.host.createInstance coachId (contexts.get child).name with
    | ok host => rfl
    | error e =>
      dsimp only
      rw [Contexts.removeInstance_holding]
      rfl

theorem removeSubcoach_holding :
    Builtin.removeSubcoach call args (w.holding memory) =
      ((Builtin.removeSubcoach call args w).1,
        (Builtin.removeSubcoach call args w).2.holding memory) := by
  unfold Builtin.removeSubcoach Call.context World.get
  rcases Builtin.instanceIds call args with e | ⟨coachId, instanceId⟩
  · rfl
  dsimp only
  rw [World.contexts_holding, Contexts.handle?_holding, Contexts.removeInstance_holding,
    World.host_holding]
  cases (w.contexts.get call.target).handle? coachId instanceId with
  | none => rfl
  | some handle =>
    dsimp only
    cases w.host.removeInstance coachId handle.name <;> rfl

namespace Builtin

theorem contribute_beside (name : String) (entry : ScoreEntry) :
    Respects (World.Beside memory) (contribute call name entry) := by
  refine related_bind (modify_beside fun w => ?_) fun _ => view_beside fun w => ?_
  · rw [Call.source_holding, World.modify_holding]
    exact fun _ _ => rfl
  · simp [Call.context, World.get]

theorem badges_beside {w w' : World} (h : w.Beside memory w') :
    (call.context w).badges = (call.context w').badges := by
  subst h
  exact (w.contexts.badges_holding memory call.target).symm

theorem setBadges_beside (badges : Badges) {w w' : World} (h : w.Beside memory w') :
    (setBadges call badges w).Beside memory (setBadges call badges w') := by
  subst h
  exact setBadges_holding call w memory badges

theorem hidden_beside {w w' : World} (h : w.Beside memory w') :
    (call.context w).hidden = (call.context w').hidden := by
  subst h
  exact (w.contexts.hidden_holding memory call.target).symm

theorem withHidden_beside (hidden : Hidden) {w w' : World} (h : w.Beside memory w') :
    (withHidden call hidden w).Beside memory (withHidden call hidden w') := by
  subst h
  exact withHidden_holding call w memory hidden

theorem targetCoach_beside {w w' : World} (h : w.Beside memory w') :
    targetCoach call w = targetCoach call w' := by
  subst h
  exact (targetCoach_holding call w memory).symm

theorem shelved_beside {w w' : World} (h : w.Beside memory w') : shelved call w = shelved call w' := by
  subst h
  exact (shelved_holding call w memory).symm

theorem reshelve_beside (f : Recommendations → Recommendations) {w w' : World} (h : w.Beside memory w') :
    (reshelve call f w).Beside memory (reshelve call f w') := by
  subst h
  exact reshelve_holding call w memory f

theorem getParentArgument_holding :
    getParentArgument call (w.holding memory) = getParentArgument call w := by
  unfold getParentArgument Call.context World.get
  rw [World.contexts_holding, Contexts.argument_holding]

theorem log_beside : Respects (World.Beside memory) (log call args) := by
  refine related_bind (modify_beside fun w => ?_) fun _ => respects_pure _
  unfold World.get
  rw [World.contexts_holding, Contexts.name_holding]
  rfl

end Builtin

/-- The commands that neither make nor remove an instance do the same whatever the variables. -/
theorem Command.run_beside {command : Command} (hc : command.overlooks)
    (hcreate : command ≠ .createSubcoach) (hremove : command ≠ .removeSubcoach) :
    Respects (World.Beside memory) (command.run call args) := by
  have hbadges (w w' : World) (h : w.Beside memory w') := badges_beside call h
  have hsetBadges (badges : Badges) (w w' : World) (h : w.Beside memory w') :=
    setBadges_beside call badges h
  have hhidden (w w' : World) (h : w.Beside memory w') := hidden_beside call h
  have hwithHidden (hidden : Hidden) (w w' : World) (h : w.Beside memory w') :=
    withHidden_beside call hidden h
  have hcoach (w w' : World) (h : w.Beside memory w') := targetCoach_beside call h
  have hshelved (w w' : World) (h : w.Beside memory w') := shelved_beside call h
  have hreshelve (f : Recommendations → Recommendations) (w w' : World) (h : w.Beside memory w') :=
    reshelve_beside call f h
  have htag (w w' : World) (h : w.Beside memory w') :
      (w.get call.scene.active).tag = (w'.get call.scene.active).tag := by
    subst h
    exact (w.contexts.tag_holding memory call.scene.active).symm
  cases command with
  | set | get | append | arrayAdd | arrayRemove | arrayLength | arrayContains | arrayGet | arrayClear
  | getSubcoachVariable => cases hc
  | createSubcoach => exact absurd rfl hcreate
  | removeSubcoach => exact absurd rfl hremove
  | all | any | negate => exact look_beside fun _ => rfl
  | choose | equals | compare | concat => exact respects_pure _
  | addScore => exact respects_addScore args (contribute_beside call)
  | capScore => exact respects_capScore args (contribute_beside call)
  | getScore => exact look_beside fun w => by simp [Builtin.getScore, Call.context, World.get]
  | isSelected => exact look_beside fun w => by simp [Builtin.isSelected]
  | isAnswered => exact look_beside fun w => by simp [Builtin.isAnswered]
  | isHidden => exact look_beside fun w => by simp [Builtin.isHidden, Call.context, World.get]
  | setHidden => exact respects_setHidden args hhidden hwithHidden hcoach
  | setHiddenRange => exact respects_setHiddenRange args hhidden hwithHidden hcoach
  | createBadge => exact respects_createBadge args hbadges hsetBadges
  | awardBadge => exact respects_awardBadge args hbadges hsetBadges
  | revokeBadge => exact respects_revokeBadge args hbadges hsetBadges
  | hasBadge => exact look_beside fun w => by simp [Builtin.hasBadge, Call.context, World.get]
  | getBadge => exact look_beside fun w => by simp [Builtin.getBadge, Call.context, World.get]
  | addRecommendation => exact respects_addRecommendation args hreshelve htag
  | removeRecommendation => exact respects_removeRecommendation args hreshelve hshelved
  | hasRecommendation => exact respects_hasRecommendation args hreshelve hshelved
  | getParentArgument =>
    exact look_beside fun w => congrArg Except.ok (Builtin.getParentArgument_holding call)
  | log => exact Builtin.log_beside call args
  | getMetadata => exact look_beside fun w => by simp [Builtin.getMetadata, Call.context, World.get]
  | hasHandler => exact look_beside fun w => by simp [Builtin.hasHandler, Call.context, World.get]

/-- **The other commands do the same whatever the variables, and leave them as they are.** -/
theorem Command.run_holding {command : Command} (hc : command.overlooks) (h : w.Fits memory) :
    command.run call args (w.holding memory) =
      ((command.run call args w).1, (command.run call args w).2.holding memory) := by
  by_cases hcreate : command = .createSubcoach
  · subst hcreate
    exact createSubcoach_holding call args h
  by_cases hremove : command = .removeSubcoach
  · subst hremove
    exact removeSubcoach_holding call args
  exact run_holding_of_respects (run_beside call args hc hcreate hremove)

end Call

end CoachScript
