import CoachScript.Proofs.Engine.Built
import CoachScript.Proofs.Grammar.Script

/-!
# Instances that the host refuses

An instance that the host refuses is taken back by a removal, which takes more than the creation put.

* `Contexts.Traceless`: a context has neither handle nor bucket of an instance, and nothing is stored
  below the instance's name.
* `Contexts.Restored`: what was stored is stored, and every context is as it was.
* `Contexts.restored_iff`: creating and removing restores the tree if and only if there was no trace.
* **`Engine.Grown.withdrawn`**: in whatever is done with a grown engine, a creation that the host refuses
  faults with the host's fault and leaves host and log as they are, and the tree if and only if there
  was no trace of the instance.
-/

namespace CoachScript

/-! ### Tables -/

namespace ByName

variable {α : Type} (table : ByName α) (name : String)

theorem erase_insert (a : α) : (table.insert name a).erase name = table.erase name := by
  refine Std.ExtTreeMap.ext_getElem? fun other => ?_
  rw [Std.ExtTreeMap.getElem?_erase, Std.ExtTreeMap.getElem?_erase, Std.ExtTreeMap.getElem?_insert]
  split_ifs <;> rfl

theorem erase_eq_self_iff : table.erase name = table ↔ table[name]? = none := by
  constructor
  · intro h
    rw [← h]
    exact Std.ExtTreeMap.getElem?_erase_self
  · intro h
    refine Std.ExtTreeMap.ext_getElem? fun other => ?_
    rw [Std.ExtTreeMap.getElem?_erase]
    split_ifs with hname
    · cases Std.LawfulEqCmp.eq_of_compare hname
      exact h.symm
    · rfl

end ByName

namespace Context

variable (c : Context) (coachId instanceId : String)

theorem unregister_register (name : String) (id : ContextId) :
    (c.register ⟨coachId, instanceId, name, id⟩).unregister coachId instanceId =
      c.unregister coachId instanceId := by
  unfold register unregister
  dsimp only
  rw [ByName.erase_insert]

/-- Forgetting an instance changes nothing if and only if nothing is known of it. -/
theorem unregister_eq_self_iff : c.unregister coachId instanceId = c ↔
    c.handle? coachId instanceId = none ∧ c.buckets[instanceTag coachId instanceId]? = none := by
  unfold handle?
  rw [← ByName.erase_eq_self_iff, ← ByName.erase_eq_self_iff]
  unfold unregister
  constructor
  · exact fun h => ⟨congrArg handles h, congrArg buckets h⟩
  · rintro ⟨hhandles, hbuckets⟩
    rw [hhandles, hbuckets]

end Context

namespace Contexts

variable {cs ds : Contexts} {parent child : ContextId} {coachId instanceId argument : String}

/-! ### Creating and removing -/

/-- What was stored is stored, and every context is as it was, below those that it was below. -/
structure Restored (cs ds : Contexts) : Prop where
  stored : ds.stored = cs.stored
  same : ∀ id, id < cs.made.size → ds.get id = cs.get id
  above : ∀ id, id < cs.made.size → ds.ancestors id = cs.ancestors id

/-- The context has neither handle nor bucket of the instance, and nothing is stored below the
instance's name. -/
structure Traceless (cs : Contexts) (parent : ContextId) (coachId instanceId : String) : Prop where
  handle : (cs.get parent).handle? coachId instanceId = none
  bucket : (cs.get parent).buckets[instanceTag coachId instanceId]? = none
  below : ∀ key, isBelow (instanceName (cs.get parent).name coachId instanceId) key →
    cs.stored[key]? = none

section Withdrawn

variable (hds : cs.createInstance parent coachId instanceId argument = .ok (child, true, ds))
include hds

/-- Removing what was created also forgets what was known of the instance before. -/
theorem get_withdrawn (hparent : parent < cs.made.size) {id : ContextId} (hid : id < cs.made.size) :
    (ds.removeInstance parent coachId instanceId).2.get id =
      if id = parent then (cs.get id).unregister coachId instanceId else cs.get id := by
  have hsize : cs.made.size ≤ ds.made.size :=
    (Retains.createInstance (f := Context.name) (fun _ _ => rfl) hds).size
  show (ds.modify parent (·.unregister coachId instanceId)).get id = _
  rw [get_modify, get_createInstance hds hparent, get_createInstance hds hparent,
    if_neg (Nat.ne_of_lt hparent), if_pos rfl, if_neg (Nat.ne_of_lt hid)]
  by_cases heq : id = parent
  · subst heq
    rw [if_pos ⟨rfl, Nat.lt_of_lt_of_le hid hsize⟩, if_pos rfl, Context.unregister_register]
  · rw [if_neg fun h => heq h.1, if_neg heq, if_neg heq]

/-- Removing what was created also drops what is stored below it. -/
theorem stored_withdrawn (hparent : parent < cs.made.size) (key : String) (id : ContextId) :
    (ds.removeInstance parent coachId instanceId).2.stored[key]? = some id ↔
      cs.stored[key]? = some id ∧
        ¬ isBelow (instanceName (cs.get parent).name coachId instanceId) key := by
  have hfree : cs.stored[instanceName (cs.get parent).name coachId instanceId]? = none :=
    (createInstance_new hds).1
  rw [stored_removeInstance, name_parent_createInstance hds hparent, not_or, stored_createInstance hds]
  constructor
  · rintro ⟨hstored, hne, hbelow⟩
    rw [if_neg (Ne.symm hne)] at hstored
    exact ⟨hstored, hbelow⟩
  · rintro ⟨hstored, hbelow⟩
    have hne := ne_of_stored hfree hstored
    rw [if_neg hne]
    exact ⟨hstored, hne.symm, hbelow⟩

/-- **Creating and removing restores the tree if and only if there was no trace of the instance.** -/
theorem restored_iff (hgrounded : cs.Grounded) (hparent : parent < cs.made.size) :
    cs.Restored (ds.removeInstance parent coachId instanceId).2 ↔
      cs.Traceless parent coachId instanceId := by
  have hstored := stored_withdrawn hds hparent
  constructor
  · intro h
    have hself := h.same parent hparent
    rw [get_withdrawn hds hparent hparent, if_pos rfl, Context.unregister_eq_self_iff] at hself
    refine ⟨hself.1, hself.2, fun key hbelow => ?_⟩
    rw [Option.eq_none_iff_forall_ne_some]
    intro id hid
    rw [← h.stored] at hid
    exact ((hstored key id).mp hid).2 hbelow
  · intro h
    refine ⟨Std.ExtTreeMap.ext_getElem? fun key => Option.ext fun id => ?_, fun id hid => ?_,
      fun id hid => hgrounded.ancestors_createInstance hds hid⟩
    · rw [hstored, and_iff_left_iff_imp]
      intro hid hbelow
      exact absurd ((h.below key hbelow).symm.trans hid) nofun
    · rw [get_withdrawn hds hparent hid]
      split_ifs with heq
      · rw [heq]
        exact (Context.unregister_eq_self_iff _ _ _).mpr ⟨h.handle, h.bucket⟩
      · rfl

end Withdrawn

end Contexts

/-! ### Refused creations -/

/-- The command creates a new instance, which the host refuses. -/
def Moment.Refused (m : Moment) (coachId instanceId : String) (e : HostFault) : Prop :=
  m.dispatch.command = .createSubcoach ∧ ∃ argument child contexts,
    Builtin.creation m.dispatch.call m.dispatch.args m.world = .ok (coachId, instanceId, argument) ∧
      m.world.contexts.createInstance m.dispatch.call.target coachId instanceId argument =
        .ok (child, true, contexts) ∧
      m.world.host.createInstance coachId (contexts.get child).name = .error e

/-- **A creation that the host refuses faults, and leaves all as it was if and only if there was no trace
of the instance**, in whatever is done with a grown engine. -/
theorem Engine.Grown.withdrawn {engine : Engine} (h : engine.Grown) {tasks : List Task}
    (hsound : Task.Along Task.Sound engine.world tasks) {m : Moment}
    (hm : m ∈ Task.moments tasks engine.world) {coachId instanceId : String} {e : HostFault}
    (hrefused : m.Refused coachId instanceId e) :
    m.dispatch.run m.world = (.error (.host e), m.after) ∧ m.after.host = m.world.host ∧
      m.after.log = m.world.log ∧
      (m.world.contexts.Restored m.after.contexts ↔
        m.world.contexts.Traceless m.dispatch.call.target coachId instanceId) := by
  obtain ⟨hbuilt, htarget⟩ := Task.built_moments h.built hsound m hm
  obtain ⟨w, command, call, args⟩ := m
  obtain ⟨rfl, argument, child, contexts, hcreation, hcreate, hhost⟩ := hrefused
  have hrun : Builtin.createSubcoach call args w = (.error (.host e),
      { w with contexts := (contexts.removeInstance call.target coachId instanceId).2 }) := by
    dsimp only at hcreation hcreate hhost
    unfold Builtin.createSubcoach
    rw [hcreation]
    dsimp only
    rw [hcreate]
    dsimp only
    rw [hhost]
  have hafter : Moment.after ⟨w, .createSubcoach, call, args⟩ =
      { w with contexts := (contexts.removeInstance call.target coachId instanceId).2 } :=
    congrArg (·.2) hrun
  rw [hafter]
  exact ⟨hrun, rfl, rfl, Contexts.restored_iff hcreate hbuilt.enlisted.grounded htarget⟩

/-- An instance has given its parent advice, and was reset. The host refuses it when it is made anew, and
its parent loses the advice. -/
theorem Engine.Grown.withdrawn_advised :
    let host := (∅ : Host).addCoach (.ofId "b")
    let advised := (((Engine.start .standard .builtin host).withContexts (.pair "a" "b" "c")).rerunText
      ⟨1, .ofId "b", "q1", .builtin⟩ "TRUE : : \x7b addRecommendation(\"r\", 1, \"t\", \"u\"); \x7d;").2
    let dropped := (advised.reset "a.b.c").2
    let engine : Engine :=
      { dropped with world := { dropped.world with host := host.setOutage .createInstance "quota" } }
    let m : Moment := ⟨engine.world, .createSubcoach,
      ⟨"createSubcoach", ⟨0, .ofId "a", "q1", .builtin⟩, 0⟩, [.string "b", .string "c"]⟩
    let tasks : List Task := [.evaluate ⟨0, .ofId "a", "q1", .builtin⟩
      (.call (.levels 0) "createSubcoach" [.value (.string "b"), .value (.string "c")])]
    engine.Grown ∧ Task.Along Task.Sound engine.world tasks ∧ m ∈ Task.moments tasks engine.world ∧
      m.Refused "b" "c" (.rejected "create_subcoach" "quota") ∧
      ¬ m.world.contexts.Restored m.after.contexts := by
  intro host advised dropped engine m tasks
  have hadvised : advised.Grown := .step (grown_pair _ _ _ _ _ _) (.rerun (by decide +kernel) _)
  have hdropped : dropped.Grown := .step hadvised (.aside (.reset _) rfl (Nat.le_refl _))
  have hgrown : engine.Grown := .step hdropped (.aside (.host _) rfl (Nat.le_refl _))
  have hsound : Task.Along Task.Sound engine.world tasks := by decide +kernel
  have hm : m ∈ Task.moments tasks engine.world := List.mem_singleton_self m
  have hcreation : Builtin.creation m.dispatch.call m.dispatch.args m.world = .ok ("b", "c", "") :=
    eq_ok_of_toOption (by decide +kernel)
  obtain ⟨contexts, hcreate⟩ : ∃ contexts,
      m.world.contexts.createInstance 0 "b" "c" "" = .ok (2, true, contexts) := by
    have hnew : (m.world.contexts.createInstance 0 "b" "c" "").toOption.map (fun r => (r.1, r.2.1)) =
        some (2, true) := by decide +kernel
    cases hcreate : m.world.contexts.createInstance 0 "b" "c" "" with
    | error e => rw [hcreate] at hnew; cases hnew
    | ok r =>
      obtain ⟨child, new, contexts⟩ := r
      rw [hcreate] at hnew
      cases hnew
      exact ⟨contexts, rfl⟩
  have hrefused : m.Refused "b" "c" (.rejected "create_subcoach" "quota") :=
    ⟨rfl, "", 2, contexts, hcreation, hcreate, rfl⟩
  refine ⟨hgrown, hsound, hm, hrefused, fun hrestored => ?_⟩
  have htraceless := (hgrown.withdrawn hsound hm hrefused).2.2.2.mp hrestored
  exact absurd htraceless.bucket (by decide +kernel)

end CoachScript
