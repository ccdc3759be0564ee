import CoachScript.Proofs.Engine.Withdrawn
import CoachScript.Proofs.State.Unreported

/-!
# Removals that the host refuses

An instance is removed from the tree before the host is asked, and what the host answers changes nothing
there. The host is asked only for an instance that the tree knows.

* `Contexts.Rid`: nothing is left of an instance: `Contexts.Traceless`, and not stored either.
* `Contexts.rid_removeInstance`, `Contexts.Rid.removeInstance`: a removal leaves nothing, and where nothing
  is left there is nothing to remove.
* **`Moment.Unheard.forgotten`**: a removal that the host refuses has removed all the same; the tree is
  never what it was, and whenever the removal is repeated the host is not asked again.
-/

namespace CoachScript

namespace Contexts

variable {cs : Contexts} {parent : ContextId} {coachId instanceId : String}

/-! ### Removing twice -/

/-- Nothing is left of an instance: its parent does not know it, and neither it nor anything below it is
stored. -/
structure Rid (cs : Contexts) (parent : ContextId) (coachId instanceId : String) : Prop where
  traceless : cs.Traceless parent coachId instanceId
  absent : cs.stored[instanceName (cs.get parent).name coachId instanceId]? = none

/-- Where nothing is left of an instance, there is nothing to remove. -/
theorem Rid.removeInstance (h : cs.Rid parent coachId instanceId) :
    cs.removeInstance parent coachId instanceId = (false, cs) := by
  have hsame : cs.modify parent (·.unregister coachId instanceId) = cs :=
    cs.modify_eq_self
      ((Context.unregister_eq_self_iff _ _ _).mpr ⟨h.traceless.handle, h.traceless.bucket⟩)
  have hstored :
      (cs.removeTree (instanceName (cs.get parent).name coachId instanceId)).2.stored = cs.stored := by
    refine removeTree_keeps_iff.mpr ?_
    rintro key (rfl | hkey)
    · exact h.absent
    · exact h.traceless.below key hkey
  have htree : cs.removeTree (instanceName (cs.get parent).name coachId instanceId) = (false, cs) :=
    Prod.ext (removeTree_eq_false_iff.mpr h.absent) (congrArg (fun stored => { cs with stored }) hstored)
  unfold Contexts.removeInstance
  rw [hsame]
  dsimp only
  rw [htree, h.traceless.handle]
  rfl

/-- A removal leaves nothing of the instance. -/
theorem rid_removeInstance (cs : Contexts) (parent : ContextId) (coachId instanceId : String) :
    (cs.removeInstance parent coachId instanceId).2.Rid parent coachId instanceId := by
  have hname : ((cs.removeInstance parent coachId instanceId).2.get parent).name =
      (cs.get parent).name := congrArg (·.2.1) (label_removeInstance cs parent coachId instanceId parent)
  have hdropped {key : String} (hkey : key = instanceName (cs.get parent).name coachId instanceId ∨
      isBelow (instanceName (cs.get parent).name coachId instanceId) key) :
      (cs.removeInstance parent coachId instanceId).2.stored[key]? = none := by
    refine Option.eq_none_iff_forall_ne_some.mpr fun id hid => ?_
    exact ((stored_removeInstance cs parent coachId instanceId key id).mp hid).2 hkey
  refine ⟨⟨?_, ?_, fun key hkey => ?_⟩, ?_⟩
  · exact (handles_removeInstance cs parent coachId instanceId parent _).trans (if_pos ⟨rfl, rfl⟩)
  · show ((cs.modify parent (·.unregister coachId instanceId)).get parent).buckets[_]? = none
    rw [get_modify]
    split_ifs with hlt
    · exact Std.ExtTreeMap.getElem?_erase_self
    · rw [get_of_size_le (Nat.not_lt.mp fun h => hlt ⟨rfl, h⟩)]
      rfl
  · rw [hname] at hkey
    exact hdropped (.inr hkey)
  · rw [hname]
    exact hdropped (.inl rfl)

end Contexts

/-! ### Refused removals -/

/-- The command removes an instance, and faults because the host refuses. -/
def Moment.Unheard (m : Moment) (e : HostFault) : Prop :=
  m.dispatch.command = .removeSubcoach ∧ (m.dispatch.run m.world).1 = .error (.host e)

namespace Builtin

variable {call : Call} {args : List Value} {w : World} {coachId instanceId : String}

/-- The ids of an instance can be at fault, but not because of the host. -/
theorem instanceIds_ne_host (call : Call) (args : List Value) (e : HostFault) :
    instanceIds call args ≠ .error (.host e) := by
  unfold instanceIds Call.text Call.ofKind
  dsimp only [bind, Except.bind]
  split_ifs <;> nofun

/-- Where nothing is left of an instance, its removal answers `FALSE`, and the host is not asked. -/
theorem removeSubcoach_of_rid (hids : instanceIds call args = .ok (coachId, instanceId))
    (h : w.contexts.Rid call.target coachId instanceId) :
    removeSubcoach call args w = (.ok (.bool false), w) := by
  have hhandle : (call.context w).handle? coachId instanceId = none := h.traceless.handle
  unfold removeSubcoach
  rw [hids]
  dsimp only
  rw [hhandle, h.removeInstance]

/-- The host is asked for an instance that there is a handle of, after it was removed. -/
theorem removeSubcoach_of_error {handle : Handle} {e : HostFault}
    (hids : instanceIds call args = .ok (coachId, instanceId))
    (hhandle : (call.context w).handle? coachId instanceId = some handle)
    (hhost : w.host.removeInstance coachId handle.name = .error e) :
    removeSubcoach call args w = (.error (.host e),
      { w with contexts := (w.contexts.removeInstance call.target coachId instanceId).2 }) := by
  unfold removeSubcoach
  rw [hids]
  dsimp only
  rw [hhandle]
  dsimp only
  rw [hhost]

/-- Only the answer to this request can be the host's fault. -/
theorem error_of_removeSubcoach {e : HostFault} (h : (removeSubcoach call args w).1 = .error (.host e)) :
    ∃ coachId instanceId handle, instanceIds call args = .ok (coachId, instanceId) ∧
      (call.context w).handle? coachId instanceId = some handle ∧
      w.host.removeInstance coachId handle.name = .error e := by
  unfold removeSubcoach at h
  cases hids : instanceIds call args with
  | error fault =>
    rw [hids] at h
    cases h
    exact absurd hids (instanceIds_ne_host call args e)
  | ok ids =>
    obtain ⟨coachId, instanceId⟩ := ids
    rw [hids] at h
    dsimp only at h
    cases hhandle : (call.context w).handle? coachId instanceId with
    | none =>
      rw [hhandle] at h
      cases h
    | some handle =>
      rw [hhandle] at h
      dsimp only at h
      cases hhost : w.host.removeInstance coachId handle.name with
      | ok host =>
        rw [hhost] at h
        cases h
      | error fault =>
        rw [hhost] at h
        cases h
        exact ⟨coachId, instanceId, handle, rfl, hhandle, hhost⟩

end Builtin

/-- **A removal that the host refuses has removed all the same.** Host and log are as they were, but
nothing is left of the instance that the tree knew. Whenever the removal is repeated, whatever the host
says by then, it answers `FALSE`, changes nothing, and the host is not asked. -/
theorem Moment.Unheard.forgotten {m : Moment} {e : HostFault} (h : m.Unheard e) :
    ∃ coachId instanceId,
      Builtin.instanceIds m.dispatch.call m.dispatch.args = .ok (coachId, instanceId) ∧
      m.after = { m.world with
        contexts :=
          (m.world.contexts.removeInstance m.dispatch.call.target coachId instanceId).2 } ∧
      ((m.dispatch.call.context m.world).handle? coachId instanceId).isSome ∧
      m.after.contexts.Rid m.dispatch.call.target coachId instanceId ∧
      ¬ m.world.contexts.Restored m.after.contexts ∧
      ∀ host, m.dispatch.run { m.after with host } = (.ok (.bool false), { m.after with host }) := by
  obtain ⟨w, command, call, args⟩ := m
  obtain ⟨rfl, hfault⟩ := h
  obtain ⟨coachId, instanceId, handle, hids, hhandle, hhost⟩ := Builtin.error_of_removeSubcoach hfault
  have hafter : Moment.after ⟨w, .removeSubcoach, call, args⟩ =
      { w with contexts := (w.contexts.removeInstance call.target coachId instanceId).2 } :=
    congrArg (·.2) (Builtin.removeSubcoach_of_error hids hhandle hhost)
  have hrid := w.contexts.rid_removeInstance call.target coachId instanceId
  rw [hafter]
  refine ⟨coachId, instanceId, hids, rfl, Option.isSome_of_eq_some hhandle, hrid, fun hrestored => ?_,
    fun host => Builtin.removeSubcoach_of_rid hids hrid⟩
  -- A context that was never made has no handles.
  have htarget : call.target < w.contexts.made.size := by
    refine Nat.lt_of_not_le fun hsize => ?_
    have hnone : (w.contexts.get call.target).handle? coachId instanceId = none := by
      rw [Contexts.get_of_size_le hsize]
      rfl
    exact absurd (hnone.symm.trans hhandle) nofun
  have hkept : ((w.contexts.removeInstance call.target coachId instanceId).2.get call.target).handle?
      coachId instanceId = some handle := by
    rw [hrestored.same _ htarget]
    exact hhandle
  exact absurd (hrid.traceless.handle.symm.trans hkept) nofun

/-- The host refuses to give up an instance, and then would not refuse any more: it keeps the instance,
which the tree has no longer. -/
theorem Moment.Unheard.forgotten_twice :
    let host := (∅ : Host).addCoach (.ofId "b")
    let scene : Scene := ⟨0, .ofId "a", "q1", .builtin⟩
    let engine := (((Engine.start .standard .builtin host).obtain "a").2.rerunText scene
      "TRUE : : \x7b createSubcoach(\"b\", \"c\"); \x7d;").2
    let call : Call := ⟨"removeSubcoach", scene, 0⟩
    let m : Moment :=
      ⟨{ engine.world with host := engine.world.host.setOutage .removeInstance "quota" },
        .removeSubcoach, call, [.string "b", .string "c"]⟩
    let w := { m.after with host := engine.world.host }
    engine.Grown ∧ m.Unheard (.rejected "remove_subcoach" "quota") ∧
      m.world.contexts.keys = ["a", "a.b.c"] ∧ m.after.contexts.keys = ["a"] ∧
      (m.dispatch.run w).1 = .ok (.bool false) ∧
      (m.dispatch.run w).2.host.instances = [("b", "a.b.c")] := by
  intro host scene engine call m w
  have hobtained : ((Engine.start .standard .builtin host).obtain "a").2.Grown :=
    .step (.start _ _ _) (.aside (.obtain "a") rfl (Nat.zero_le _))
  have hgrown : engine.Grown := .step hobtained (.rerun (by decide +kernel) _)
  have hids : Builtin.instanceIds call [.string "b", .string "c"] = .ok ("b", "c") := rfl
  have hhandle : (call.context m.world).handle? "b" "c" = some ⟨"b", "c", "a.b.c", 1⟩ := by decide +kernel
  have hunheard : m.Unheard (.rejected "remove_subcoach" "quota") :=
    ⟨rfl, congrArg (·.1) (Builtin.removeSubcoach_of_error hids hhandle rfl)⟩
  obtain ⟨coachId, instanceId, -, -, -, -, -, hretry⟩ := hunheard.forgotten
  obtain ⟨hbefore, hafter, hlives⟩ : m.world.contexts.keys = ["a", "a.b.c"] ∧
      m.after.contexts.keys = ["a"] ∧ engine.world.host.instances = [("b", "a.b.c")] := by
    decide +kernel
  refine ⟨hgrown, hunheard, hbefore, hafter, congrArg (·.1) (hretry _), ?_⟩
  rw [hretry]
  exact hlives

end CoachScript
