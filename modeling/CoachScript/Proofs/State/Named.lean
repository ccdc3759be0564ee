import CoachScript.Proofs.Builtin.Effect

/-!
# Stored contexts have the names they are stored under

* `Contexts.Named`: every stored context is there, under its own name; so no context is stored under
  two keys.
* One lemma for each change of the tree, and **`Call.Effect.named`** for the commands.
-/

namespace CoachScript

namespace Contexts

/-- Every stored context is there, under its own name. -/
def Named (cs : Contexts) : Prop :=
  ∀ key id, cs.stored[key]? = some id → id < cs.made.size ∧ (cs.get id).name = key

namespace Named

variable {cs ds : Contexts}

theorem of_empty (h : cs.stored = ∅) : Named cs := by
  intro key id hid
  rw [h, Std.ExtTreeMap.getElem?_empty] at hid
  cases hid

theorem empty : Named ∅ := of_empty rfl

theorem resetAll (cs : Contexts) : Named cs.resetAll := of_empty rfl

/-- One context has one key. -/
theorem key_unique (h : Named cs) {key key' : String} {id : ContextId}
    (hkey : cs.stored[key]? = some id) (hkey' : cs.stored[key']? = some id) : key = key' := by
  rw [← (h key id hkey).2, (h key' id hkey').2]

/-- A tree that stores no more, and keeps what there is under its name. -/
theorem mono (h : Named cs)
    (hstored : ∀ (key : String) (id : ContextId),
      ds.stored[key]? = some id → cs.stored[key]? = some id)
    (hsize : cs.made.size ≤ ds.made.size)
    (hname : ∀ id, id < cs.made.size → (ds.get id).name = (cs.get id).name) : Named ds := by
  intro key id hid
  obtain ⟨hlt, hkey⟩ := h key id (hstored key id hid)
  exact ⟨Nat.lt_of_lt_of_le hlt hsize, (hname id hlt).trans hkey⟩

variable (h : Named cs)
include h

theorem modify (id : ContextId) {f : Context → Context} (hf : ∀ c, (f c).name = c.name) :
    Named (cs.modify id f) := by
  refine h.mono (fun _ _ hid => hid) (Nat.le_of_eq (size_modify cs id f).symm) fun other _ => ?_
  rw [get_modify]
  split_ifs with hother
  · rw [hf, hother.1]
  · rfl

theorem updateShelf (f : Recommendations → Recommendations) (s : Shelf) :
    Named (cs.updateShelf f s) := by
  cases s with
  | own id => exact h.modify id fun _ => rfl
  | bucket id tag => exact h.modify id fun _ => rfl

theorem add (c : Context) : Named (cs.add c.name c).2 := by
  intro key id hid
  unfold Contexts.add at hid ⊢
  dsimp only at hid ⊢
  rw [Std.ExtTreeMap.getElem?_insert] at hid
  unfold Contexts.get
  dsimp only
  rw [Array.size_push, Array.getElem?_push]
  split_ifs at hid with hkey
  · cases hid
    rw [if_pos rfl]
    exact ⟨Nat.lt_succ_self _, Std.LawfulEqCmp.eq_of_compare hkey⟩
  · obtain ⟨hlt, hname⟩ := h key id hid
    rw [if_neg (Nat.ne_of_lt hlt)]
    exact ⟨Nat.lt_succ_of_lt hlt, hname⟩

theorem obtain (coachId : String) : Named (cs.obtain coachId).2 := by
  unfold Contexts.obtain
  cases cs.find? coachId with
  | some id => exact h
  | none => exact h.add (.ofCoach coachId)

theorem link {child parent : ContextId} (hds : cs.link child parent = .ok ds) : Named ds := by
  obtain ⟨lineage, -, rfl⟩ := link_eq hds
  exact h

theorem createInstance {parent child : ContextId} {coachId instanceId argument : String} {new : Bool}
    (hds : cs.createInstance parent coachId instanceId argument = .ok (child, new, ds)) :
    Named ds := by
  rcases createInstance_eq hds with ⟨-, rfl⟩ | ⟨-, c, handle, linked, hlink, rfl⟩
  · exact h
  · exact ((h.add c).link hlink).modify parent fun _ => rfl

theorem removeTree (key : String) : Named (cs.removeTree key).2 := by
  refine h.mono (fun other id hid => ?_) (Nat.le_refl _) fun _ _ => rfl
  unfold Contexts.removeTree at hid
  dsimp only at hid
  rw [Std.ExtTreeMap.getElem?_filter', Std.ExtTreeMap.getElem?_erase] at hid
  split_ifs at hid with hother
  · cases hid
  · exact Option.eq_some_of_filter_eq_some hid

theorem removeInstance (parent : ContextId) (coachId instanceId : String) :
    Named (cs.removeInstance parent coachId instanceId).2 :=
  (h.modify parent (f := (·.unregister coachId instanceId)) fun _ => rfl).removeTree _

end Named

end Contexts

/-- **The changes that commands make keep the contexts under their names.** -/
theorem Call.Effect.named {call : Call} {w w' : World} (heffect : call.Effect w w')
    (h : w.contexts.Named) : w'.contexts.Named := by
  cases heffect with
  | nothing | logged => exact h
  | contributed | written | badged | showed => exact h.modify _ fun _ => rfl
  | reshelved f => exact h.updateShelf f _
  | created hchild => exact h.createInstance hchild
  | refused hchild => exact (h.createInstance hchild).removeInstance _ _ _
  | removed => exact h.removeInstance _ _ _

end CoachScript
