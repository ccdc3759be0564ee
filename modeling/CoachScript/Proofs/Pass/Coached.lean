import CoachScript.Proofs.Builtin.Visibility
import CoachScript.Proofs.Engine.Questions
import CoachScript.Proofs.Pass.Tasks
import CoachScript.Proofs.State.Summary

/-!
# Hidden questions are questions of known coaches

* `Contexts.hidden_obtain`, `Contexts.hidden_createInstance`: new contexts hide nothing.
* `World.HidesOwn`: the hidden questions of every context are questions of its coach. `World.Coached`: so
  are they in a world where the host knows the coaches of stored contexts and of those with others below.
* `World.SameCoaches`: coaches stay, and contexts keep theirs. A command leaves them (`Call.Effect.sameCoaches`).
* `Scene.Attended`: the scene is of a coach that the host knows, in a context of such a coach.
* **`Command.coached_run`**: a command in an attended scene keeps the world coached. So do all the commands of
  a pass (`coached_moments`), and the pass (`coached_runLines`, `coached_runQuestion`).
-/

namespace CoachScript

/-! ### New contexts hide nothing -/

namespace Contexts

theorem hidden_obtain (cs : Contexts) (coachId : String) (id : ContextId) :
    ((cs.obtain coachId).2.get id).hidden = (cs.get id).hidden := by
  unfold obtain
  cases cs.find? coachId with
  | some _ => rfl
  | none =>
    dsimp only
    rw [get_add]
    split_ifs with hnew
    · rw [hnew, get_size]
      rfl
    · rfl

theorem hidden_createInstance {cs ds : Contexts} {parent child : ContextId}
    {coachId instanceId argument : String}
    (hds : cs.createInstance parent coachId instanceId argument = .ok (child, true, ds))
    (hparent : parent < cs.made.size) (id : ContextId) : (ds.get id).hidden = (cs.get id).hidden := by
  rw [get_createInstance hds hparent]
  split_ifs with hnew hid
  · rw [hnew, get_size]
    rfl
  · rw [hid]
    rfl
  · rfl

theorem hidden_removeInstance (cs : Contexts) (parent : ContextId) (coachId instanceId : String)
    (id : ContextId) :
    ((cs.removeInstance parent coachId instanceId).2.get id).hidden = (cs.get id).hidden := by
  show ((cs.modify parent (·.unregister coachId instanceId)).get id).hidden = _
  rw [get_modify]
  split_ifs with hid
  · rw [hid.1]
    rfl
  · rfl

end Contexts

/-- The host accepts instances of coaches that it knows. -/
theorem Host.coach?_of_createInstance {host host' : Host} {coachId name : String}
    (h : host.createInstance coachId name = .ok host') : ∃ coach, host.coach? coachId = some coach := by
  unfold createInstance at h
  cases hguard : host.guard .createInstance with
  | error e =>
    rw [hguard] at h
    cases h
  | ok =>
    rw [hguard] at h
    cases hcoach : host.coach? coachId with
    | none =>
      rw [hcoach] at h
      cases h
    | some coach => exact ⟨coach, rfl⟩

/-! ### Coaches that the host knows -/

namespace World

/-- The context exists, and the host knows its coach. -/
def Known (w : World) (id : ContextId) : Prop :=
  id < w.contexts.made.size ∧ ∃ coach, w.host.coach? (w.get id).coachId = some coach

/-- The hidden questions of every context are questions of its coach. -/
def HidesOwn (w : World) : Prop :=
  ∀ id question, (w.get id).hidden.contains question →
    ∃ coach, w.host.coach? (w.get id).coachId = some coach ∧ question ∈ coach.questionIds

/-- The host keeps coaches under their ids and knows those of stored contexts, and of contexts with others
below them; contexts hide questions of their coaches. -/
structure Coached (w : World) : Prop where
  filed : w.host.Filed
  stored : ∀ (key : String) (id : ContextId), w.contexts.stored[key]? = some id → w.Known id
  parents : ∀ id parent, w.contexts.parent? id = some parent → w.Known parent
  hides : w.HidesOwn

/-- Coaches and contexts stay, and the contexts keep their coaches. -/
structure SameCoaches (w w' : World) : Prop where
  coaches : w'.host.coaches = w.host.coaches
  contexts : Contexts.Retains Context.coachId w.contexts w'.contexts

namespace SameCoaches

variable {w w' w'' : World}

theorem refl (w : World) : w.SameCoaches w := ⟨rfl, .refl _⟩

theorem trans (h : w.SameCoaches w') (h' : w'.SameCoaches w'') : w.SameCoaches w'' :=
  ⟨h'.coaches.trans h.coaches, h.contexts.trans h'.contexts⟩

variable (h : w.SameCoaches w')
include h

theorem coach?_eq (coachId : String) : w'.host.coach? coachId = w.host.coach? coachId := by
  unfold Host.coach?
  rw [h.coaches]

theorem filed (hfiled : w.host.Filed) : w'.host.Filed := by
  unfold Host.Filed
  rw [h.coaches]
  exact hfiled

theorem coachOf_eq {id : ContextId} (hid : id < w.contexts.made.size) :
    w'.host.coach? (w'.get id).coachId = w.host.coach? (w.get id).coachId := by
  have hsame : (w'.get id).coachId = (w.get id).coachId := h.contexts.same id hid
  rw [h.coach?_eq, hsame]

theorem known {id : ContextId} (hid : w.Known id) : w'.Known id := by
  obtain ⟨hlt, coach, hcoach⟩ := hid
  exact ⟨Nat.lt_of_lt_of_le hlt h.contexts.size, coach, (h.coachOf_eq hlt).trans hcoach⟩

end SameCoaches

theorem sameCoaches_leave (w : World) (id : ContextId) (fired : Fired) : w.SameCoaches (w.leave id fired) :=
  ⟨rfl, .modify _ id fun _ => rfl⟩

namespace Coached

variable {w w' : World} (h : w.Coached)
include h

/-- Where nothing new is stored, put above another or hidden. -/
theorem of_same (hsame : w.SameCoaches w')
    (hstored : ∀ (key : String) (id : ContextId), w'.contexts.stored[key]? = some id →
      w.contexts.stored[key]? = some id ∨ w'.Known id)
    (hparents : ∀ id parent, w'.contexts.parent? id = some parent →
      w.contexts.parent? id = some parent ∨ w.Known parent)
    (hhidden : ∀ id question, (w'.get id).hidden.contains question →
      (w.get id).hidden.contains question) : w'.Coached where
  filed := hsame.filed h.filed
  stored key id hid := (hstored key id hid).elim (fun hold => hsame.known (h.stored key id hold))
    fun hnew => hnew
  parents id parent hparent := (hparents id parent hparent).elim
    (fun hold => hsame.known (h.parents id parent hold)) hsame.known
  hides id question hcontains := by
    have hold := hhidden id question hcontains
    have hlt : id < w.contexts.made.size := by
      by_contra hle
      have hfresh : w.get id = default := Contexts.get_of_size_le (Nat.not_lt.mp hle)
      rw [hfresh] at hold
      exact Bool.noConfusion ((Hidden.contains_empty question).symm.trans hold)
    obtain ⟨coach, hcoach, hmem⟩ := h.hides id question hold
    exact ⟨coach, (hsame.coachOf_eq hlt).trans hcoach, hmem⟩

/-- A change of one context that is about neither its coach nor its hidden questions. -/
theorem modify (id : ContextId) {f : Context → Context} (hcoach : ∀ c, (f c).coachId = c.coachId)
    (hhidden : ∀ c, (f c).hidden = c.hidden) : (w.modify id f).Coached := by
  refine h.of_same ⟨rfl, .modify _ id hcoach⟩ (fun _ _ => .inl) (fun _ _ => .inl) fun other question => ?_
  have hget : (w.modify id f).get other =
      if other = id ∧ id < w.contexts.made.size then f (w.get id) else w.get other :=
    w.contexts.get_modify id other f
  rw [hget]
  split_ifs with hother
  · rw [hhidden, hother.1]
    exact fun h => h
  · exact fun h => h

theorem leave (id : ContextId) (fired : Fired) : (w.leave id fired).Coached :=
  h.modify id (fun _ => rfl) fun _ => rfl

theorem updateShelf (f : Recommendations → Recommendations) (s : Contexts.Shelf) :
    ({ w with contexts := w.contexts.updateShelf f s } : World).Coached := by
  cases s with
  | own id => exact h.modify id (fun _ => rfl) fun _ => rfl
  | bucket id tag => exact h.modify id (fun _ => rfl) fun _ => rfl

/-- Questions of its own coach are hidden, or shown, in a context that the host knows. -/
theorem withHidden {call : Call} {hidden : Hidden}
    (hscene : w.host.coach? call.scene.coach.id = some call.scene.coach)
    (hreveals : Builtin.Reveals call w hidden) : (Builtin.withHidden call hidden w).Coached := by
  have hsame : w.SameCoaches (Builtin.withHidden call hidden w) := ⟨rfl, .modify _ call.target fun _ => rfl⟩
  refine ⟨h.filed, fun key id hid => hsame.known (h.stored key id hid),
    fun id parent hparent => hsame.known (h.parents id parent hparent), fun id question hcontains => ?_⟩
  have hget : (Builtin.withHidden call hidden w).get id =
      if id = call.target ∧ call.target < w.contexts.made.size then { w.get call.target with hidden }
      else w.get id := w.contexts.get_modify call.target id _
  rw [hget] at hcontains ⊢
  split_ifs at hcontains ⊢ with hid
  · obtain ⟨coach, hide, ids, hcoach, hids, rfl⟩ := hreveals
    have hown := Builtin.coach?_of_targetCoach hscene hcoach
    rw [Builtin.contains_hideAll] at hcontains
    split_ifs at hcontains with hmem
    · exact ⟨coach, hown, hids question hmem⟩
    · exact h.hides call.target question hcontains
  · exact h.hides id question hcontains

/-- Fewer contexts are stored. -/
theorem of_stored (contexts : Contexts) (hmade : contexts.made = w.contexts.made)
    (hlineage : contexts.lineage = w.contexts.lineage)
    (hstored : ∀ (key : String) (id : ContextId), contexts.stored[key]? = some id →
      w.contexts.stored[key]? = some id) : ({ w with contexts } : World).Coached := by
  refine h.of_same ⟨rfl, .of_made hmade⟩ (fun key id hid => .inl (hstored key id hid))
    (fun id parent hparent => .inl ?_) fun id question hcontains => ?_
  · unfold Contexts.parent? at hparent ⊢
    rwa [hlineage] at hparent
  · unfold World.get Contexts.get at hcontains ⊢
    rwa [hmade] at hcontains

theorem removeTree (key : String) :
    ({ w with contexts := (w.contexts.removeTree key).2 } : World).Coached :=
  h.of_stored _ rfl rfl fun other id hid => ((Contexts.stored_removeTree w.contexts key other id).mp hid).1

theorem removeInstance (parent : ContextId) (coachId instanceId : String) :
    ({ w with contexts := (w.contexts.removeInstance parent coachId instanceId).2 } : World).Coached :=
  (h.modify parent (f := (·.unregister coachId instanceId)) (fun _ => rfl) fun _ => rfl).removeTree _

/-- The host has changed, but not its coaches. -/
theorem withHost {host : Host} (hcoaches : host.coaches = w.host.coaches) :
    ({ w with host } : World).Coached :=
  h.of_same ⟨hcoaches, .refl _⟩ (fun _ _ => .inl) (fun _ _ => .inl) fun _ _ h => h

/-- The context of a coach that the host knows. -/
theorem obtain {coachId : String} (hcoach : ∃ coach, w.host.coach? coachId = some coach) :
    ({ w with contexts := (w.contexts.obtain coachId).2 } : World).Coached := by
  have hhidden (id : ContextId) := w.contexts.hidden_obtain coachId id
  cases hfound : w.contexts.find? coachId with
  | some id =>
    have hsame : (w.contexts.obtain coachId).2 = w.contexts := by
      unfold Contexts.obtain
      rw [hfound]
    rw [hsame]
    exact h
  | none =>
    have hadded : (w.contexts.obtain coachId).2 =
        (w.contexts.add (lowercase coachId) (.ofCoach coachId)).2 := by
      unfold Contexts.obtain
      rw [hfound]
    rw [hadded] at hhidden ⊢
    refine h.of_same ⟨rfl, .add _ _ _⟩ (fun key id hid => ?_) (fun _ _ => .inl)
      fun id question hcontains => ?_
    · have hstored := (w.contexts.stored_add _ _ key).symm.trans hid
      split_ifs at hstored
      · cases hstored
        refine .inr ⟨by simp [Contexts.add], ?_⟩
        have hget : ({ w with contexts := (w.contexts.add (lowercase coachId) (.ofCoach coachId)).2 } :
            World).get w.contexts.made.size = .ofCoach coachId :=
          (w.contexts.get_add _ _ _).trans (if_pos rfl)
        rw [hget]
        exact hcoach
      · exact .inl hstored
    · have hold : (w.get id).hidden.contains question := by
        unfold World.get at hcontains ⊢
        rwa [hhidden] at hcontains
      exact hold

section Created

variable {parent child : ContextId} {coachId instanceId argument : String} {contexts : Contexts}
  (hparent : w.Known parent)
  (hchild : w.contexts.createInstance parent coachId instanceId argument = .ok (child, true, contexts))
include hparent hchild

omit h in
/-- Above a new instance is its parent. -/
theorem parents_createInstance (id above : ContextId) (habove : contexts.parent? id = some above) :
    w.contexts.parent? id = some above ∨ w.Known above := by
  rw [Contexts.parent?_createInstance hchild] at habove
  split_ifs at habove
  · cases habove
    exact .inr hparent
  · exact .inl habove

/-- A new instance, which the host accepts. -/
theorem created {host : Host} (hcoaches : host.coaches = w.host.coaches)
    (hcoach : ∃ coach, w.host.coach? coachId = some coach) :
    ({ w with contexts, host } : World).Coached := by
  have hsame : w.SameCoaches { w with contexts, host } :=
    ⟨hcoaches, .createInstance (fun _ _ => rfl) hchild⟩
  refine h.of_same hsame (fun key id hid => ?_) (parents_createInstance hparent hchild)
    fun id question hcontains => ?_
  · have hstored := (Contexts.stored_createInstance hchild key).symm.trans hid
    split_ifs at hstored
    · cases hstored
      refine .inr ⟨?_, ?_⟩
      · obtain ⟨-, -, lineage, -, hcontexts⟩ := Contexts.createInstance_new hchild
        show w.contexts.made.size < contexts.made.size
        rw [hcontexts, Contexts.size_modify]
        show w.contexts.made.size < (w.contexts.made.push _).size
        rw [Array.size_push]
        exact Nat.lt_succ_self _
      · have hlabel := Contexts.label_createInstance hchild hparent.1 w.contexts.made.size
        rw [if_pos rfl] at hlabel
        have hid : (contexts.get w.contexts.made.size).coachId = coachId := congrArg (·.1) hlabel
        show ∃ coach, host.coach? (contexts.get w.contexts.made.size).coachId = some coach
        rw [hid]
        exact hcoach.imp fun coach h => (hsame.coach?_eq coachId).trans h
    · exact .inl hstored
  · have hhidden := Contexts.hidden_createInstance hchild hparent.1 id
    unfold World.get at hcontains ⊢
    rwa [hhidden] at hcontains

/-- A new instance, which the host refuses. -/
theorem refused : ({ w with
    contexts := (contexts.removeInstance parent coachId instanceId).2 } : World).Coached := by
  have hretains : Contexts.Retains Context.coachId w.contexts contexts :=
    .createInstance (fun _ _ => rfl) hchild
  refine h.of_same ⟨rfl, hretains.trans (.removeInstance (fun _ _ _ => rfl) _ _ _ _)⟩ (fun key id hid => ?_)
    (fun id above habove => parents_createInstance hparent hchild id above habove)
    fun id question hcontains => ?_
  · obtain ⟨hold, hother⟩ := (Contexts.stored_removeInstance contexts parent coachId instanceId key id).mp hid
    rw [Contexts.name_parent_createInstance hchild hparent.1] at hother
    rw [Contexts.stored_createInstance hchild, if_neg fun heq => hother (.inl heq.symm)] at hold
    exact .inl hold
  · have hhidden : ((contexts.removeInstance parent coachId instanceId).2.get id).hidden =
        (w.contexts.get id).hidden :=
      (Contexts.hidden_removeInstance contexts parent coachId instanceId id).trans
        (Contexts.hidden_createInstance hchild hparent.1 id)
    unfold World.get at hcontains ⊢
    rwa [hhidden] at hcontains

end Created

end Coached

end World

/-! ### Commands -/

/-- A scene of a coach that the host knows under its id, in a context whose coach it knows. -/
structure Scene.Attended (scene : Scene) (w : World) : Prop where
  active : w.Known scene.active
  coach : w.host.coach? scene.coach.id = some scene.coach

theorem Scene.Attended.of_same {scene : Scene} {w w' : World} (h : scene.Attended w)
    (hsame : w.SameCoaches w') : scene.Attended w' :=
  ⟨hsame.known h.active, (hsame.coach?_eq scene.coach.id).trans h.coach⟩

/-- Commands leave the coaches as they are. -/
theorem Call.Effect.sameCoaches {call : Call} {w w' : World} (h : call.Effect w w') :
    w.SameCoaches w' := by
  obtain ⟨instances, hhost⟩ := h.host
  exact ⟨by rw [hhost], h.retains fun _ _ hcoach _ => hcoach⟩

/-- The host knows the coaches of all contexts where the calls of a scene act. -/
theorem World.Coached.known_target {w : World} (h : w.Coached) {scene : Scene} (hscene : scene.Attended w)
    {target : ContextId} (htarget : target = scene.active ∨ target ∈ w.contexts.ancestors scene.active) :
    w.Known target := by
  rcases htarget with rfl | habove
  · exact hscene.active
  · obtain ⟨child, -, hchild⟩ := Contexts.exists_child habove
    exact h.parents child target hchild

/-- **A command of a coach that the host knows hides questions of known coaches only.** -/
theorem Command.coached_run (command : Command) (call : Call) (args : List Value) {w : World}
    (h : w.Coached) (hscene : call.scene.Attended w)
    (htarget : call.target = call.scene.active ∨ call.target ∈ w.contexts.ancestors call.scene.active) :
    (command.run call args w).2.Coached := by
  have hknown := h.known_target hscene htarget
  refine run_elim (P := World.Coached) call args w command h (fun _ _ _ => ?_) (fun _ _ _ => ?_) (fun _ => ?_)
    (fun _ hreveals => h.withHidden hscene.coach hreveals) (fun f _ => h.updateShelf f _) (fun _ => ?_)
    (fun _ => ?_) fun _ => ?_
  · exact h.modify call.target (fun _ => rfl) fun _ => rfl
  · exact h.modify call.target (fun _ => rfl) fun _ => rfl
  · exact h.modify call.target (fun _ => rfl) fun _ => rfl
  · exact ⟨h.filed, h.stored, h.parents, h.hides⟩
  · refine createSubcoach_elim (P := World.Coached) call args w h (fun hchild hhost => ?_) fun hchild _ => ?_
    · obtain ⟨instances, rfl⟩ := Host.same_createInstance _ _ _ _ hhost
      exact h.created hknown hchild rfl (Host.coach?_of_createInstance hhost)
    · exact h.refused hknown hchild
  · refine removeSubcoach_elim (P := World.Coached) call args w h fun hhost => ?_
    refine (h.removeInstance _ _ _).withHost ?_
    rcases hhost with rfl | ⟨handle, -, hhost⟩
    · rfl
    · obtain ⟨instances, rfl⟩ := Host.same_removeInstance _ _ _ _ hhost
      rfl

/-- The commands of an attended scene keep it attended, and hide questions of known coaches only. -/
theorem coached_decides (scene : Scene) :
    Moment.Decides (fun _ _ => False) (·.InScene scene) (fun w => w.Coached ∧ scene.Attended w)
      (fun _ => True) fun _ => True where
  start _ _ h := h.elim
  step m hm h := by
    obtain ⟨hscene, htarget⟩ := hm
    refine ⟨⟨?_, ?_⟩, fun _ => Iff.rfl⟩
    · exact m.dispatch.command.coached_run _ _ h.1 (hscene ▸ h.2) (hscene ▸ htarget)
    · exact h.2.of_same (m.dispatch.command.effect _ _ _).sameCoaches
  leave w id fired h := ⟨⟨h.1.leave id fired, h.2.of_same (w.sameCoaches_leave id fired)⟩, fun _ => trivial⟩

namespace World

variable {w : World} (scene : Scene) (keep : String)

theorem sameCoaches_revert : w.SameCoaches (w.revert scene keep) := by
  refine revert_keeps (P := w.SameCoaches) (fun v id _ _ _ hv => ?_) scene keep (.refl w)
  exact hv.trans ⟨rfl, .modify _ id fun _ => rfl⟩

theorem Coached.revert (h : w.Coached) : (w.revert scene keep).Coached :=
  revert_keeps (P := Coached) (fun _ id _ _ _ hv => hv.modify id (fun _ => rfl) fun _ => rfl) scene keep h

end World

/-! ### Passes -/

section Passes

variable {w : World} {scene : Scene}

theorem sameCoaches_runLines (scene : Scene) (lines : Listing) (w : World) :
    w.SameCoaches (runLines scene lines w).2 :=
  runLines_keeps (P := w.SameCoaches) scene (fun _ _ _ _ _ heffect hsame => hsame.trans heffect.sameCoaches)
    (fun fired v hsame => hsame.trans (v.sameCoaches_leave scene.active fired)) lines (.refl w)

theorem sameCoaches_runQuestion (scene : Scene) (keep : String) (lines : Listing) (w : World) :
    w.SameCoaches (runQuestion scene keep lines w).2 :=
  (World.sameCoaches_revert scene keep).trans (sameCoaches_runLines scene lines _)

variable (h : w.Coached) (hscene : scene.Attended w)
include h hscene

theorem coached_moments (lines : Listing) :
    ∀ m ∈ Dispatch.moments (passCalls scene lines w) w, m.after.Coached ∧ scene.Attended m.after :=
  (coached_decides scene).of_mem_moments (inScene_passCalls scene lines w) ⟨h, hscene⟩

theorem coached_runLines (lines : Listing) : (runLines scene lines w).2.Coached := by
  rw [world_runLines]
  exact ((coached_decides scene).replay (inScene_passCalls scene lines w) ⟨h, hscene⟩).1.leave _ _

theorem coached_runQuestion (keep : String) (lines : Listing) : (runQuestion scene keep lines w).2.Coached :=
  coached_runLines (h.revert scene keep) (hscene.of_same (World.sameCoaches_revert scene keep)) lines

end Passes

end CoachScript
