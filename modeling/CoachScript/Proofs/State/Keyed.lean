import CoachScript.Proofs.State.Summary

/-!
# Recommendations are kept under their ids

* `Contexts.Keyed`: in every context, and in every bucket, recommendations are kept under their own ids.
  One lemma for each change of the tree.
* **`Command.keyed_run`**, `World.keyed_runQuestion`: commands and passes keep them so.
-/

namespace CoachScript

/-! ### Tables of recommendations -/

namespace Recommendations

variable {rs : Recommendations}

/-- Every recommendation is kept under its id. -/
def Keyed (rs : Recommendations) : Prop :=
  ∀ (id : String) (r : Recommendation), rs.table[id]? = some r → r.id = id

theorem Keyed.empty : Keyed ∅ := nofun

theorem Keyed.change (h : rs.Keyed) {f : Recommendations → Recommendations} (hf : Change f) :
    (f rs).Keyed := by
  cases hf with
  | added r =>
    intro id r' hr
    unfold add at hr
    dsimp only at hr
    rw [Std.ExtTreeMap.getElem?_insert] at hr
    split_ifs at hr with hid
    · cases hr
      exact Std.LawfulEqCmp.eq_of_compare hid
    · exact h id r' hr
  | removed id =>
    intro id' r hr
    unfold remove at hr
    dsimp only at hr
    rw [Std.ExtTreeMap.getElem?_erase] at hr
    split_ifs at hr
    exact h id' r hr
  | asked => exact h

/-- What a table contains, it has under its id. -/
theorem Keyed.exists_of_contains (h : rs.Keyed) {id : String} (hid : rs.contains id = true) :
    ∃ r ∈ rs.table.values, r.id = id := by
  unfold contains at hid
  rw [Std.ExtTreeMap.contains_eq_isSome_getElem?] at hid
  obtain ⟨r, hr⟩ := Option.isSome_iff_exists.mp hid
  exact ⟨r, ByName.mem_values.mpr ⟨id, hr⟩, h id r hr⟩

end Recommendations

/-! ### Contexts -/

/-- In the context itself, and in its buckets, recommendations are kept under their ids. -/
structure Context.Keyed (c : Context) : Prop where
  own : c.recommendations.Keyed
  buckets : ∀ (tag : String) (rs : Recommendations), c.buckets[tag]? = some rs → rs.Keyed

namespace Context.Keyed

variable {c : Context}

theorem fresh (coachId name : String) (tag : Option String) (argument : String) :
    (Context.fresh coachId name tag argument).Keyed := ⟨.empty, nofun⟩

variable (h : c.Keyed)
include h

theorem bucket (tag : String) : (c.bucket tag).Keyed := by
  unfold Context.bucket
  cases hbucket : c.buckets[tag]? with
  | none => exact .empty
  | some rs => exact h.buckets tag rs hbucket

theorem updateBucket {f : Recommendations → Recommendations} (hf : Recommendations.Change f)
    (tag : String) : (c.updateBucket tag f).Keyed := by
  refine ⟨h.own, fun other rs hrs => ?_⟩
  unfold Context.updateBucket at hrs
  dsimp only at hrs
  rw [ByName.getElem?_update] at hrs
  split_ifs at hrs
  · cases hrs
    exact (h.bucket tag).change hf
  · exact h.buckets other rs hrs

theorem unregister (coachId instanceId : String) : (c.unregister coachId instanceId).Keyed := by
  refine ⟨h.own, fun tag rs hrs => ?_⟩
  unfold Context.unregister at hrs
  dsimp only at hrs
  rw [Std.ExtTreeMap.getElem?_erase] at hrs
  split_ifs at hrs
  exact h.buckets tag rs hrs

omit h in
theorem clear (c : Context) : c.clear.Keyed := by
  refine ⟨.empty, fun tag rs hrs => ?_⟩
  unfold Context.clear at hrs
  dsimp only at hrs
  rw [Std.ExtTreeMap.getElem?_map] at hrs
  obtain ⟨_, -, rfl⟩ := Option.map_eq_some_iff.mp hrs
  exact .empty

end Context.Keyed

/-! ### Trees -/

namespace Contexts

/-- In every context recommendations are kept under their ids. -/
def Keyed (cs : Contexts) : Prop := ∀ id, (cs.get id).Keyed

namespace Keyed

variable {cs ds : Contexts}

theorem empty : Keyed ∅ := fun _ => .fresh _ _ _ _

variable (h : cs.Keyed)
include h

theorem of_made (hmade : ds.made = cs.made) : ds.Keyed := by
  unfold Keyed get
  rw [hmade]
  exact h

theorem modify (id : ContextId) {f : Context → Context} (hf : ∀ c, c.Keyed → (f c).Keyed) :
    (cs.modify id f).Keyed := by
  intro other
  rw [get_modify]
  split_ifs
  · exact hf _ (h _)
  · exact h other

theorem updateShelf {f : Recommendations → Recommendations} (hf : Recommendations.Change f)
    (s : Shelf) : (cs.updateShelf f s).Keyed := by
  cases s with
  | own id => exact h.modify id fun _ hc => ⟨hc.own.change hf, hc.buckets⟩
  | bucket id tag => exact h.modify id fun _ hc => hc.updateBucket hf tag

theorem add (key : String) {c : Context} (hc : c.Keyed) : (cs.add key c).2.Keyed := by
  intro id
  rw [get_add]
  split_ifs
  · exact hc
  · exact h id

theorem obtain (coachId : String) : (cs.obtain coachId).2.Keyed := by
  unfold Contexts.obtain
  cases cs.find? coachId with
  | some id => exact h
  | none => exact h.add _ (.fresh _ _ _ _)

theorem link {child parent : ContextId} (hds : cs.link child parent = .ok ds) : ds.Keyed := by
  obtain ⟨lineage, -, rfl⟩ := link_eq hds
  exact h

theorem createInstance {parent child : ContextId} {coachId instanceId argument : String} {new : Bool}
    (hds : cs.createInstance parent coachId instanceId argument = .ok (child, new, ds)) : ds.Keyed := by
  cases new with
  | false => rwa [createInstance_known hds]
  | true =>
    let c := Context.ofInstance (cs.get parent).name coachId instanceId argument
    obtain ⟨-, -, lineage, -, rfl⟩ := createInstance_new hds
    have hlinked : Keyed { (cs.add c.name c).2 with lineage } :=
      (h.add c.name (.fresh _ _ _ _)).of_made rfl
    exact hlinked.modify parent fun _ hc => ⟨hc.own, hc.buckets⟩

theorem removeInstance (parent : ContextId) (coachId instanceId : String) :
    (cs.removeInstance parent coachId instanceId).2.Keyed :=
  (h.modify parent fun _ hc => hc.unregister coachId instanceId).of_made rfl

end Keyed

end Contexts

/-! ### Scripts -/

/-- **Commands keep recommendations under their ids.** -/
theorem Command.keyed_run (command : Command) (call : Call) (args : List Value) {w : World}
    (h : w.contexts.Keyed) : (command.run call args w).2.contexts.Keyed := by
  have hwrite {f : Context → Context} (hf : ∀ c, c.Keyed → (f c).Keyed) :
      (w.modify call.target f).contexts.Keyed := h.modify call.target hf
  refine run_elim (P := fun w => w.contexts.Keyed) call args w command h (fun _ _ _ => ?_)
    (fun _ _ _ => ?_) (fun _ => ?_) (fun _ _ => ?_) (fun f hf => ?_) (fun _ => h) (fun _ => ?_) fun _ => ?_
  · exact hwrite fun _ hc => ⟨hc.own, hc.buckets⟩
  · exact hwrite fun _ hc => ⟨hc.own, hc.buckets⟩
  · exact hwrite fun _ hc => ⟨hc.own, hc.buckets⟩
  · exact hwrite fun _ hc => ⟨hc.own, hc.buckets⟩
  · exact h.updateShelf hf _
  · exact createSubcoach_elim (P := fun w => w.contexts.Keyed) call args w h
      (fun hchild _ => h.createInstance hchild) fun hchild _ => (h.createInstance hchild).removeInstance _ _ _
  · exact removeSubcoach_elim (P := fun w => w.contexts.Keyed) call args w h fun _ =>
      h.removeInstance _ _ _

namespace World

variable {w : World} (h : w.contexts.Keyed) (scene : Scene)
include h

theorem keyed_revert (keep : String) : (w.revert scene keep).contexts.Keyed :=
  revert_keeps (P := fun v => v.contexts.Keyed)
    (fun _ id _ _ _ hv => hv.modify id fun _ hc => ⟨hc.own, hc.buckets⟩) scene keep h

theorem keyed_runLines (lines : Listing) : (runLines scene lines w).2.contexts.Keyed :=
  runLines_of_run (P := fun v => v.contexts.Keyed) scene
    (fun command call args _ _ _ hv => command.keyed_run call args hv)
    (fun _ _ hv => hv.modify _ fun _ hc => ⟨hc.own, hc.buckets⟩) lines h

theorem keyed_runQuestion (keep : String) (lines : Listing) :
    (runQuestion scene keep lines w).2.contexts.Keyed :=
  keyed_runLines (keyed_revert h scene keep) scene lines

end World

end CoachScript
