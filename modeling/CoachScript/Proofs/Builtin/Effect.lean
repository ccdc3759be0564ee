import CoachScript.Proofs.Builtin.Visibility
import CoachScript.Proofs.Eval.Invariant

/-!
# What a command can do

* `Call.Effect`: the changes of the world that commands make, each by its parts.
* **`Command.effect`**: a command makes one of them, whatever its arguments and whether or not it
  faults.
* `Command.run_elim`, `createSubcoach_elim`, `removeSubcoach_elim`: what holds of each change, holds of what
  a command makes of a world.
* **`runLines_keeps`**: what these changes keep, every pass keeps.
-/

namespace CoachScript

open CoachScript.Action

/-- What the command of a call can make of a world. -/
inductive Call.Effect (call : Call) (w : World) : World → Prop
  | nothing : Effect call w w
  | contributed (name : String) (entry : ScoreEntry) :
    Effect call w (Builtin.contribute call name entry w).2
  | written (name : String) (key : Option String) (v : Value) :
    Effect call w (Builtin.write call name key v w)
  | badged (badges : Badges) : Effect call w (Builtin.setBadges call badges w)
  | showed (hidden : Hidden) : Effect call w (Builtin.withHidden call hidden w)
  | reshelved (f : Recommendations → Recommendations) : Effect call w (Builtin.reshelve call f w)
  | logged (record : LogRecord) : Effect call w { w with log := w.log.push record }
  /-- A new instance, which the host accepts. -/
  | created {coachId instanceId argument : String} {child : ContextId} {contexts : Contexts}
    {host : Host}
    (hchild : w.contexts.createInstance call.target coachId instanceId argument =
      .ok (child, true, contexts))
    (hhost : w.host.createInstance coachId (contexts.get child).name = .ok host) :
    Effect call w { w with contexts, host }
  /-- A new instance, which the host refuses. -/
  | refused {coachId instanceId argument : String} {child : ContextId} {contexts : Contexts}
    {e : HostFault}
    (hchild : w.contexts.createInstance call.target coachId instanceId argument =
      .ok (child, true, contexts))
    (hhost : w.host.createInstance coachId (contexts.get child).name = .error e) :
    Effect call w
      { w with contexts := (contexts.removeInstance call.target coachId instanceId).2 }
  /-- An instance is removed; the host hears of it if there is a handle, and may refuse. -/
  | removed {coachId instanceId : String} {host : Host}
    (hhost : host = w.host ∨ ∃ handle,
      (call.context w).handle? coachId instanceId = some handle ∧
        w.host.removeInstance coachId handle.name = .ok host) :
    Effect call w
      { w with
        contexts := (w.contexts.removeInstance call.target coachId instanceId).2
        host }

/-- What a command makes of the hidden questions of its context: it hides or shows questions of that
context's coach, one after another. -/
def Builtin.Reveals (call : Call) (w : World) (hidden : Hidden) : Prop :=
  ∃ coach hide ids, targetCoach call w = .ok coach ∧ (∀ id ∈ ids, id ∈ coach.questionIds) ∧
    hidden = (hideAll hide (call.context w).hidden ids).2

/-- What a command makes of recommendations: it adds one, removes one, or leaves them as they are. -/
inductive Recommendations.Change : (Recommendations → Recommendations) → Prop
  | added (r : Recommendation) : Change (·.add r)
  | removed (id : String) : Change (·.remove id)
  | asked : Change fun rs => rs

theorem Coach.mem_questionIds_of_question? {coach : Coach} {id : String}
    (h : (coach.question? id).isSome) : id ∈ coach.questionIds := by
  obtain ⟨q, hq⟩ := Option.isSome_iff_exists.mp h
  have hid : q.id = id := by simpa using List.find?_some hq
  exact List.mem_map.mpr ⟨q, List.mem_of_find?_eq_some hq, hid⟩

namespace Command

variable (call : Call) (args : List Value) (w : World)

/-- What holds of each outcome of a creation, holds of what the command makes of a world. -/
theorem createSubcoach_elim {P : World → Prop} (nothing : P w)
    (created : ∀ {coachId instanceId argument child contexts host},
      w.contexts.createInstance call.target coachId instanceId argument = .ok (child, true, contexts) →
        w.host.createInstance coachId (contexts.get child).name = .ok host →
          P { w with contexts, host })
    (refused : ∀ {coachId instanceId argument child contexts e},
      w.contexts.createInstance call.target coachId instanceId argument = .ok (child, true, contexts) →
        w.host.createInstance coachId (contexts.get child).name = .error e →
          P { w with contexts := (contexts.removeInstance call.target coachId instanceId).2 }) :
    P (Builtin.createSubcoach call args w).2 := by
  unfold Builtin.createSubcoach
  rcases Builtin.creation call args w with e | ⟨coachId, instanceId, argument⟩
  · exact nothing
  dsimp only
  cases hchild : w.contexts.createInstance call.target coachId instanceId argument with
  | error e => exact nothing
  | ok r =>
    obtain ⟨child, new, contexts⟩ := r
    cases new with
    | false =>
      obtain ⟨-, rfl⟩ := (Contexts.createInstance_eq hchild).resolve_right fun h => nomatch h.1
      exact nothing
    | true =>
      dsimp only
      cases hhost : w.host.createInstance coachId (contexts.get child).name with
      | error e => exact refused hchild hhost
      | ok host => exact created hchild hhost

/-- What holds of each outcome of a removal, holds of what the command makes of a world. -/
theorem removeSubcoach_elim {P : World → Prop} (nothing : P w)
    (removed : ∀ {coachId instanceId host},
      (host = w.host ∨ ∃ handle, (call.context w).handle? coachId instanceId = some handle ∧
        w.host.removeInstance coachId handle.name = .ok host) →
      P { w with contexts := (w.contexts.removeInstance call.target coachId instanceId).2, host }) :
    P (Builtin.removeSubcoach call args w).2 := by
  unfold Builtin.removeSubcoach
  rcases Builtin.instanceIds call args with e | ⟨coachId, instanceId⟩
  · exact nothing
  dsimp only
  cases hhandle : (call.context w).handle? coachId instanceId with
  | none => exact removed (.inl rfl)
  | some handle =>
    dsimp only
    cases hhost : w.host.removeInstance coachId handle.name with
    | error e => exact removed (.inl rfl)
    | ok host => exact removed (.inr ⟨handle, hhandle, hhost⟩)

/-- **What holds of each of these changes, holds of what a command makes of a world.** Only two
commands contribute to scores, only one each creates and removes instances, only questions of the
context's coach are hidden and shown, and of recommendations they add one, remove one, or ask for one. -/
theorem run_elim {P : World → Prop} (command : Command) (nothing : P w)
    (contributed : command = .addScore ∨ command = .capScore →
      ∀ name entry, P (Builtin.contribute call name entry w).2)
    (written : ∀ name key v, P (Builtin.write call name key v w))
    (badged : ∀ badges, P (Builtin.setBadges call badges w))
    (showed : ∀ hidden, Builtin.Reveals call w hidden → P (Builtin.withHidden call hidden w))
    (reshelved : ∀ f, Recommendations.Change f → P (Builtin.reshelve call f w))
    (logged : ∀ record, P { w with log := w.log.push record })
    (created : command = .createSubcoach → P (Builtin.createSubcoach call args w).2)
    (removed : command = .removeSubcoach → P (Builtin.removeSubcoach call args w).2) :
    P (command.run call args w).2 := by
  have hidden_of {hide : Bool} {ids : List String} {coach : Coach}
      (hcoach : Builtin.targetCoach call w = .ok coach) (hids : ∀ id ∈ ids, id ∈ coach.questionIds) :
      P (Builtin.withHidden call (Builtin.hideAll hide (call.context w).hidden ids).2 w) :=
    showed _ ⟨coach, hide, ids, hcoach, hids, rfl⟩
  cases command with
  | addScore =>
    refine after_check nothing fun name _ => after_check nothing fun number _ => ?_
    exact contributed (.inl rfl) name (.value number)
  | capScore =>
    refine after_check nothing fun name _ => after_check nothing fun limit _ => ?_
    exact contributed (.inr rfl) name (.cap limit)
  | set => exact after_check nothing fun name _ => after_look nothing fun key _ => written name _ _
  | append =>
    refine after_check nothing fun name _ => after_look nothing fun key _ => ?_
    exact after_check nothing fun more _ => written name _ _
  | setHidden =>
    refine after_check nothing fun question _ => after_check nothing fun hide _ => ?_
    refine after_look nothing fun coach hcoach => after_ite (fun _ => nothing) fun hknown => ?_
    have hids : ∀ id ∈ [question], id ∈ coach.questionIds := List.forall_mem_singleton.mpr
      (Coach.mem_questionIds_of_question? (Option.isSome_iff_ne_none.mpr (by simpa using hknown)))
    exact hidden_of hcoach hids
  | setHiddenRange =>
    refine after_check nothing fun low _ => after_check nothing fun high _ => ?_
    refine after_check nothing fun hide _ => after_look nothing fun coach hcoach => ?_
    refine after_map ?_
    rw [Builtin.world_hideEach]
    exact hidden_of hcoach fun id hid => (List.mem_filter.mp hid).1
  | arrayAdd =>
    refine after_check nothing fun name _ => after_check nothing fun element _ => ?_
    refine after_check nothing fun unique _ => after_ite (fun _ => nothing) fun _ => ?_
    exact after_ite (fun _ => nothing) fun _ => written name _ _
  | arrayRemove =>
    refine after_check nothing fun name _ => after_check nothing fun element _ => ?_
    exact after_ite (fun _ => written name _ _) fun _ => nothing
  | arrayClear => exact after_check nothing fun name _ => written name _ _
  | createBadge => exact after_check nothing fun name _ => after_check nothing fun classes _ => badged _
  | awardBadge =>
    refine after_check nothing fun name _ => after_check nothing fun rank _ => ?_
    exact after_map (badged _)
  | revokeBadge => exact after_check nothing fun name _ => badged _
  | addRecommendation =>
    refine after_check nothing fun id _ => after_check nothing fun order _ => ?_
    refine after_check nothing fun title _ => after_check nothing fun text _ => ?_
    exact after_check nothing fun tags _ => reshelved _ (.added _)
  | removeRecommendation => exact after_check nothing fun id _ => reshelved _ (.removed id)
  | hasRecommendation => exact after_check nothing fun id _ => reshelved _ .asked
  | createSubcoach => exact created rfl
  | removeSubcoach => exact removed rfl
  | log => exact logged _
  | _ => exact nothing

/-- **A command makes one of these changes**, whatever its arguments and whether or not it faults. -/
theorem effect (command : Command) : call.Effect w (command.run call args w).2 :=
  run_elim call args w command .nothing (fun _ => .contributed) .written .badged
    (fun hidden _ => .showed hidden)
    (fun f _ => .reshelved f) .logged
    (fun _ => createSubcoach_elim call args w .nothing .created .refused)
    fun _ => removeSubcoach_elim call args w .nothing .removed

end Command

/-! ### Passes -/

/-- What commands keep, and the names that a pass leaves, every pass keeps. -/
theorem runLines_of_run {P : World → Prop} (scene : Scene)
    (hP : ∀ (command : Command) (call : Call) (args : List Value) (w : World), call.scene = scene →
      (call.target = scene.active ∨ call.target ∈ w.contexts.ancestors scene.active) →
      P w → P (command.run call args w).2)
    (hleave : ∀ fired w, P w → P (w.leave scene.active fired))
    (lines : Listing) {w : World} (hw : P w) : P (runLines scene lines w).2 := by
  refine invariant_runLines (p := fun _ _ _ => true) (Q := fun _ => True) ?_ hleave lines w
    (fun line _ => line.every_true) (fun _ _ => trivial) hw
  intro path name args command vs w _ _ _ _ _ _ hw
  have htarget := w.contexts.resolve_mem scene.active path
  exact hP command ⟨name, scene, w.contexts.resolve scene.active path⟩ vs w rfl htarget hw

/-- **What the changes of commands keep, and the names that a pass leaves, every pass keeps.** -/
theorem runLines_keeps {P : World → Prop} (scene : Scene)
    (hP : ∀ (call : Call) (w w' : World), call.scene = scene →
      (call.target = scene.active ∨ call.target ∈ w.contexts.ancestors scene.active) →
      call.Effect w w' → P w → P w')
    (hleave : ∀ fired w, P w → P (w.leave scene.active fired))
    (lines : Listing) {w : World} (hw : P w) : P (runLines scene lines w).2 :=
  runLines_of_run scene (fun command call args w hscene htarget =>
    hP call w _ hscene htarget (command.effect call args w)) hleave lines hw

/-- What writes of scores, variables and started names keep, reverting keeps. -/
theorem World.revert_keeps {P : World → Prop}
    (hP : ∀ (w : World) (id : ContextId) (scores : Scores → Scores)
      (memory : Variables Value → Variables Value) (fired : Fired → Fired), P w →
        P (w.modify id fun c =>
          { c with scores := scores c.scores, memory := memory c.memory, fired := fired c.fired }))
    (scene : Scene) (keep : String) {w : World} (hw : P w) : P (w.revert scene keep) := by
  unfold revert
  refine List.foldlRecOn _ _ ?_ fun v hv id _ => ?_
  · exact hP w scene.active (·.revert scene.question) (·.revert scene.question keep) (fun _ => ∅) hw
  · exact hP v id (·.revert _) (fun memory => memory) (fun fired => fired) hv

end CoachScript
