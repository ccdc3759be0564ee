import CoachScript.Proofs.Builtin.Respecting
import CoachScript.Proofs.State.Alike

/-!
# No command tells alike worlds apart

* `source_eq`, `memory_get?`, `elements_eq`, `shelved_eq`, …: what a command reads of a world is the
  same in an alike one.
* **`Command.run_respects`**: on alike worlds every command has one value, and leaves alike worlds. So
  evaluations from alike worlds run in step (`inStep_alike`).
-/

namespace CoachScript

open CoachScript.Action

variable {old old' : Array LogRecord} {w w' : World} (call : Call) (args : List Value)

/-! ### Reading -/

namespace World.Alike

variable (h : World.Alike old old' w w')
include h

theorem source_eq : call.source w = call.source w' := by
  unfold Call.source get
  rw [h.contexts.name]

theorem badges_eq : (call.context w).badges = (call.context w').badges :=
  h.contexts.badges call.target

theorem hidden_eq : (call.context w).hidden = (call.context w').hidden :=
  h.contexts.hidden call.target

theorem value_eq (name : String) :
    (call.context w).scores.value name = (call.context w').scores.value name :=
  congrArg Score.total (h.contexts.scores call.target name)

theorem memory_get? (id : ContextId) (name : String) (source : Option String) :
    (w.get id).memory.get? name source = (w'.get id).memory.get? name source := by
  rw [Variables.get?_eq, Variables.get?_eq]
  exact congrArg (Variable.get? · source) (h.contexts.memory id name)

theorem memory_own? (id : ContextId) (name source : String) :
    (w.get id).memory.own? name source = (w'.get id).memory.own? name source := by
  rw [Variables.own?_eq, Variables.own?_eq]
  exact congrArg (Variable.own? · source) (h.contexts.memory id name)

theorem elements_eq (name : String) :
    Builtin.elements call name w = Builtin.elements call name w' := by
  unfold Builtin.elements Builtin.memory Call.context
  rw [h.source_eq call, h.memory_own?]

theorem sourceKey_eq (index : Nat) :
    Builtin.sourceKey call args index w = Builtin.sourceKey call args index w' := by
  unfold Builtin.sourceKey
  rw [h.source_eq call]

theorem writeKey_eq : Builtin.writeKey call args w = Builtin.writeKey call args w' := by
  unfold Builtin.writeKey
  rw [h.sourceKey_eq call args, h.source_eq call]

theorem argument_eq : (call.context w).argument = (call.context w').argument :=
  congrArg ContextView.argument (h.contexts.view call.target)

theorem handle?_eq (coachId instanceId : String) :
    (call.context w).handle? coachId instanceId = (call.context w').handle? coachId instanceId := by
  unfold Context.handle? Call.context get
  rw [h.contexts.handles]

theorem targetCoach_eq : Builtin.targetCoach call w = Builtin.targetCoach call w' := by
  unfold Builtin.targetCoach Call.context get
  rw [h.contexts.coachId, h.host]

theorem shownAnswer_eq (question : String) :
    Builtin.shownAnswer call question w = Builtin.shownAnswer call question w' := by
  unfold Builtin.shownAnswer Call.context get
  dsimp only
  rw [h.contexts.hidden, h.contexts.name, h.host]

theorem shelved_eq : Builtin.shelved call w = Builtin.shelved call w' := by
  unfold Builtin.shelved
  rw [h.contexts.shelf, h.contexts.onShelf]

theorem creation_eq : Builtin.creation call args w = Builtin.creation call args w' := by
  unfold Builtin.creation
  rw [h.host]

/-! ### Changing -/

theorem write (name : String) (key : Option String) (v : Value) :
    World.Alike old old' (Builtin.write call name key v w) (Builtin.write call name key v w') :=
  h.modify call.target (Context.lawful_setMemory name key v)

theorem writeElements (name : String) (es : List String) :
    World.Alike old old' (Builtin.writeElements call name es w)
      (Builtin.writeElements call name es w') := by
  unfold Builtin.writeElements
  rw [h.source_eq call]
  exact h.write call name _ _

theorem setBadges (badges : Badges) :
    World.Alike old old' (Builtin.setBadges call badges w) (Builtin.setBadges call badges w') :=
  h.modify call.target (Context.lawful_setBadges badges)

theorem withHidden (hidden : Hidden) :
    World.Alike old old' (Builtin.withHidden call hidden w) (Builtin.withHidden call hidden w') :=
  h.modify call.target (Context.lawful_setHidden hidden)

theorem reshelve (f : Recommendations → Recommendations) :
    World.Alike old old' (Builtin.reshelve call f w) (Builtin.reshelve call f w') := by
  unfold Builtin.reshelve
  rw [h.contexts.shelf]
  exact h.of_contexts (h.contexts.updateShelf f _)

end World.Alike

/-! ### The commands -/

namespace Command

theorem contribute_respects (name : String) (entry : ScoreEntry) :
    Respects (World.Alike old old') (Builtin.contribute call name entry) := by
  refine related_bind (respects_modify fun w w' h => ?_) fun _ => respects_view fun w w' h => ?_
  · rw [h.source_eq call]
    exact h.modify call.target (Context.lawful_pushScore name (call.source w') entry)
  · rw [h.value_eq call]

theorem getScore_respects : Respects (World.Alike old old') (run .getScore call args) := by
  refine respects_look fun w w' h => ?_
  unfold Builtin.getScore
  simp only [h.value_eq call]

theorem set_respects : Respects (World.Alike old old') (run .set call args) := by
  refine related_bind (respects_check _) fun name => ?_
  refine related_bind (respects_look fun w w' h => h.writeKey_eq call args) fun key => ?_
  exact related_bind (respects_modify fun w w' h => h.write call name _ _) fun _ => respects_pure _

theorem get_respects : Respects (World.Alike old old') (run .get call args) := by
  refine respects_look fun w w' h => ?_
  unfold Builtin.get Builtin.memory Call.context
  simp only [h.sourceKey_eq call args, h.memory_get?]

theorem append_respects : Respects (World.Alike old old') (run .append call args) := by
  refine related_bind (respects_check _) fun name => ?_
  refine related_bind (respects_look fun w w' h => h.writeKey_eq call args) fun key => ?_
  refine related_bind (respects_check _) fun more => ?_
  refine related_bind (respects_view fun w w' h => ?_) fun current => ?_
  · unfold Builtin.memory Call.context
    simp only [h.memory_get?, h.memory_own?]
  · exact related_bind (respects_modify fun w w' h => h.write call name _ _) fun _ => respects_pure _

theorem isSelected_respects : Respects (World.Alike old old') (run .isSelected call args) := by
  refine respects_look fun w w' h => ?_
  unfold Builtin.isSelected
  simp only [h.shownAnswer_eq call]

theorem isAnswered_respects : Respects (World.Alike old old') (run .isAnswered call args) := by
  refine respects_look fun w w' h => ?_
  unfold Builtin.isAnswered
  simp only [h.shownAnswer_eq call]

theorem isHidden_respects : Respects (World.Alike old old') (run .isHidden call args) := by
  refine respects_look fun w w' h => ?_
  unfold Builtin.isHidden
  rw [h.hidden_eq call]

theorem arrayAdd_respects : Respects (World.Alike old old') (run .arrayAdd call args) := by
  refine related_bind (respects_check _) fun name => related_bind (respects_check _) fun element => ?_
  refine related_bind (respects_check _) fun unique => related_ite (respects_fail _) ?_
  refine related_bind (respects_view fun w w' h => h.elements_eq call name) fun es => ?_
  refine related_ite (respects_pure _) ?_
  exact related_bind (respects_modify fun w w' h => h.writeElements call name _) fun _ => respects_pure _

theorem arrayRemove_respects : Respects (World.Alike old old') (run .arrayRemove call args) := by
  refine related_bind (respects_check _) fun name => related_bind (respects_check _) fun element => ?_
  refine related_bind (respects_view fun w w' h => h.elements_eq call name) fun es => ?_
  refine related_ite ?_ (respects_pure _)
  exact related_bind (respects_modify fun w w' h => h.writeElements call name _) fun _ => respects_pure _

theorem arrayLength_respects : Respects (World.Alike old old') (run .arrayLength call args) := by
  refine respects_look fun w w' h => ?_
  unfold Builtin.arrayLength
  simp only [h.elements_eq call]

theorem arrayContains_respects :
    Respects (World.Alike old old') (run .arrayContains call args) := by
  refine respects_look fun w w' h => ?_
  unfold Builtin.arrayContains
  simp only [h.elements_eq call]

theorem arrayGet_respects : Respects (World.Alike old old') (run .arrayGet call args) := by
  refine respects_look fun w w' h => ?_
  unfold Builtin.arrayGet
  simp only [h.elements_eq call]

theorem arrayClear_respects : Respects (World.Alike old old') (run .arrayClear call args) := by
  refine related_bind (respects_check _) fun name => ?_
  exact related_bind (respects_modify fun w w' h => h.writeElements call name []) fun _ => respects_pure _

theorem hasBadge_respects : Respects (World.Alike old old') (run .hasBadge call args) := by
  refine respects_look fun w w' h => ?_
  unfold Builtin.hasBadge
  rw [h.badges_eq call]

theorem getBadge_respects : Respects (World.Alike old old') (run .getBadge call args) := by
  refine respects_look fun w w' h => ?_
  unfold Builtin.getBadge
  rw [h.badges_eq call]

theorem createSubcoach_respects :
    Respects (World.Alike old old') (run .createSubcoach call args) := by
  intro w w' h
  show (Builtin.createSubcoach call args w).1 = (Builtin.createSubcoach call args w').1 ∧
    World.Alike old old' (Builtin.createSubcoach call args w).2
      (Builtin.createSubcoach call args w').2
  unfold Builtin.createSubcoach
  rw [h.creation_eq call args]
  rcases Builtin.creation call args w' with e | ⟨coachId, instanceId, argument⟩
  · exact ⟨rfl, h⟩
  have hcreate := h.contexts.createInstance call.target coachId instanceId argument
  dsimp only
  generalize w.contexts.createInstance call.target coachId instanceId argument = x at hcreate ⊢
  generalize w'.contexts.createInstance call.target coachId instanceId argument = y at hcreate ⊢
  cases hcreate with
  | error e => exact ⟨rfl, h⟩
  | @ok a b hab =>
    obtain ⟨child, new, cs⟩ := a
    obtain ⟨child', new', ds⟩ := b
    obtain ⟨rfl, rfl, hcs⟩ := hab
    cases new with
    | false => exact ⟨rfl, h.of_contexts hcs⟩
    | true =>
      dsimp only
      rw [hcs.name, h.host]
      cases w'.host.createInstance coachId (ds.get child).name with
      | ok host => exact ⟨rfl, hcs, rfl, h.log⟩
      | error e =>
        exact ⟨rfl, (hcs.removeInstance call.target coachId instanceId).2, rfl, h.log⟩

theorem removeSubcoach_respects :
    Respects (World.Alike old old') (run .removeSubcoach call args) := by
  intro w w' h
  show (Builtin.removeSubcoach call args w).1 = (Builtin.removeSubcoach call args w').1 ∧
    World.Alike old old' (Builtin.removeSubcoach call args w).2
      (Builtin.removeSubcoach call args w').2
  unfold Builtin.removeSubcoach
  rcases Builtin.instanceIds call args with e | ⟨coachId, instanceId⟩
  · exact ⟨rfl, h⟩
  obtain ⟨hremoved, hcs⟩ := h.contexts.removeInstance call.target coachId instanceId
  dsimp only
  rw [h.handle?_eq call, hremoved, h.host]
  cases (call.context w').handle? coachId instanceId with
  | none => exact ⟨rfl, hcs, rfl, h.log⟩
  | some handle =>
    dsimp only
    cases w'.host.removeInstance coachId handle.name with
    | ok host => exact ⟨rfl, hcs, rfl, h.log⟩
    | error e => exact ⟨rfl, hcs, rfl, h.log⟩

theorem getParentArgument_respects :
    Respects (World.Alike old old') (run .getParentArgument call args) := by
  refine respects_look fun w w' h => ?_
  unfold Builtin.getParentArgument
  rw [h.argument_eq call]

theorem getSubcoachVariable_respects :
    Respects (World.Alike old old') (run .getSubcoachVariable call args) := by
  refine respects_look fun w w' h => ?_
  unfold Builtin.getSubcoachVariable
  simp only [h.handle?_eq call, h.memory_get?]

theorem log_respects : Respects (World.Alike old old') (run .log call args) := by
  refine related_bind (respects_modify fun w w' h => ?_) fun _ => respects_pure _
  unfold World.get
  rw [h.contexts.name]
  exact h.push _

theorem getMetadata_respects : Respects (World.Alike old old') (run .getMetadata call args) := by
  refine respects_look fun w w' h => ?_
  unfold Builtin.getMetadata Call.context World.get
  simp only [h.contexts.name, h.host]

theorem hasHandler_respects : Respects (World.Alike old old') (run .hasHandler call args) := by
  refine respects_look fun w w' h => ?_
  unfold Builtin.hasHandler Call.context World.get
  simp only [h.contexts.coachId, h.host]

/-- **On alike worlds every command has one value, and leaves alike worlds.** -/
theorem run_respects (command : Command) :
    Respects (World.Alike old old') (command.run call args) := by
  have hbadges (w w' : World) (h : World.Alike old old' w w') := h.badges_eq call
  have hsetBadges (badges : Badges) (w w' : World) (h : World.Alike old old' w w') :=
    h.setBadges call badges
  have hhidden (w w' : World) (h : World.Alike old old' w w') := h.hidden_eq call
  have hwithHidden (hidden : Hidden) (w w' : World) (h : World.Alike old old' w w') :=
    h.withHidden call hidden
  have hcoach (w w' : World) (h : World.Alike old old' w w') := h.targetCoach_eq call
  have hshelved (w w' : World) (h : World.Alike old old' w w') := h.shelved_eq call
  have hreshelve (f : Recommendations → Recommendations) (w w' : World)
      (h : World.Alike old old' w w') := h.reshelve call f
  have htag (w w' : World) (h : World.Alike old old' w w') := h.contexts.tag call.scene.active
  cases command with
  | all | any | negate => exact respects_look fun _ _ _ => rfl
  | choose | equals | compare | concat => exact respects_pure _
  | addScore => exact Builtin.respects_addScore args (contribute_respects call)
  | capScore => exact Builtin.respects_capScore args (contribute_respects call)
  | getScore => exact getScore_respects call args
  | set => exact set_respects call args
  | get => exact get_respects call args
  | append => exact append_respects call args
  | isSelected => exact isSelected_respects call args
  | isAnswered => exact isAnswered_respects call args
  | isHidden => exact isHidden_respects call args
  | setHidden => exact Builtin.respects_setHidden args hhidden hwithHidden hcoach
  | setHiddenRange => exact Builtin.respects_setHiddenRange args hhidden hwithHidden hcoach
  | arrayAdd => exact arrayAdd_respects call args
  | arrayRemove => exact arrayRemove_respects call args
  | arrayLength => exact arrayLength_respects call args
  | arrayContains => exact arrayContains_respects call args
  | arrayGet => exact arrayGet_respects call args
  | arrayClear => exact arrayClear_respects call args
  | createBadge => exact Builtin.respects_createBadge args hbadges hsetBadges
  | awardBadge => exact Builtin.respects_awardBadge args hbadges hsetBadges
  | revokeBadge => exact Builtin.respects_revokeBadge args hbadges hsetBadges
  | hasBadge => exact hasBadge_respects call args
  | getBadge => exact getBadge_respects call args
  | addRecommendation => exact Builtin.respects_addRecommendation args hreshelve htag
  | removeRecommendation => exact Builtin.respects_removeRecommendation args hreshelve hshelved
  | hasRecommendation => exact Builtin.respects_hasRecommendation args hreshelve hshelved
  | createSubcoach => exact createSubcoach_respects call args
  | removeSubcoach => exact removeSubcoach_respects call args
  | getParentArgument => exact getParentArgument_respects call args
  | getSubcoachVariable => exact getSubcoachVariable_respects call args
  | log => exact log_respects call args
  | getMetadata => exact getMetadata_respects call args
  | hasHandler => exact hasHandler_respects call args

end Command

/-- **Evaluations of one scene from alike worlds run in step.** -/
theorem inStep_alike (scene : Scene) (old old' : Array LogRecord) :
    InStep scene scene (fun _ _ _ => true) (World.Alike old old') where
  question := rfl
  commands := rfl
  run path name args command _ _ _ vs := by
    intro w w' h
    have htarget : w.contexts.resolve scene.active path = w'.contexts.resolve scene.active path := by
      unfold Contexts.resolve
      rw [h.contexts.lineage]
    dsimp only
    rw [htarget]
    exact Command.run_respects _ vs command w w' h

end CoachScript
