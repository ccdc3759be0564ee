import CoachScript.Proofs.Pass.Owning
import CoachScript.Proofs.State.History

/-!
# What a pass touches

* `Contexts.branch`: a context and those above it, where the calls of its scripts act.
* `Contexts.Confined`: only some of the contexts are changed, and what was made since is fresh.
* **`Call.Effect.confined`**: a command changes contexts of its branch only.
* **`World.confined_runQuestion`**: so does evaluating a question.
* **`World.others_runQuestion`**: in its branch, it leaves what others have contributed to scores.
-/

namespace CoachScript

/-- Nothing was written in the context. -/
def Context.IsFresh (c : Context) : Prop := c = .fresh c.coachId c.name c.tag c.argument

namespace Contexts

/-- A context and those above it. -/
def branch (cs : Contexts) (id : ContextId) : List ContextId := id :: cs.ancestors id

/-- Contexts other than some of those that there were are as they were, new ones are fresh, and no
old one is stored anew. -/
structure Confined (ids : List ContextId) (cs ds : Contexts) : Prop where
  size : cs.made.size ≤ ds.made.size
  same : ∀ id, id < cs.made.size → id ∉ ids → ds.get id = cs.get id
  fresh : ∀ id, cs.made.size ≤ id → (ds.get id).IsFresh
  stored : ∀ (key : String) (id : ContextId), ds.stored[key]? = some id →
    cs.stored[key]? = some id ∨ cs.made.size ≤ id

theorem isFresh_get {cs : Contexts} {id : ContextId} (h : cs.made.size ≤ id) :
    (cs.get id).IsFresh := by
  unfold get
  rw [Array.getElem?_eq_none h]
  rfl

namespace Confined

variable {ids : List ContextId} {cs ds es : Contexts}

theorem refl (cs : Contexts) : Confined ids cs cs :=
  ⟨Nat.le_refl _, fun _ _ _ => rfl, fun _ => isFresh_get, fun _ _ => .inl⟩

theorem trans (hids : ∀ id ∈ ids, id < cs.made.size) (h : Confined ids cs ds)
    (h' : Confined ids ds es) : Confined ids cs es := by
  refine ⟨Nat.le_trans h.size h'.size, fun id hid hnot => ?_, fun id hid => ?_,
    fun key id hkey => ?_⟩
  · rw [h'.same id (Nat.lt_of_lt_of_le hid h.size) hnot, h.same id hid hnot]
  · by_cases hlt : id < ds.made.size
    · rw [h'.same id hlt fun hmem => Nat.not_le_of_lt (hids id hmem) hid]
      exact h.fresh id hid
    · exact h'.fresh id (Nat.le_of_not_lt hlt)
  · rcases h'.stored key id hkey with hkey | hle
    · exact h.stored key id hkey
    · exact .inr (Nat.le_trans h.size hle)

/-- Storing less, and the links, are no changes of contexts. -/
theorem of_made (hmade : ds.made = cs.made)
    (hstored : ∀ (key : String) (id : ContextId),
      ds.stored[key]? = some id → cs.stored[key]? = some id) : Confined ids cs ds := by
  have hget (id : ContextId) : ds.get id = cs.get id := by
    unfold get
    rw [hmade]
  refine ⟨Nat.le_of_eq (congrArg Array.size hmade.symm), fun id _ _ => hget id, fun id hid => ?_,
    fun key id hkey => .inl (hstored key id hkey)⟩
  rw [hget]
  exact isFresh_get hid

theorem modify (cs : Contexts) {id : ContextId} (hid : id ∈ ids) (f : Context → Context) :
    Confined ids cs (cs.modify id f) := by
  refine ⟨Nat.le_of_eq (size_modify cs id f).symm, fun other _ hnot => ?_, fun other hother => ?_,
    fun _ _ => .inl⟩
  · rw [get_modify, if_neg]
    rintro ⟨rfl, -⟩
    exact hnot hid
  · rw [get_modify, if_neg]
    · exact isFresh_get hother
    · rintro ⟨rfl, hlt⟩
      exact Nat.not_le_of_lt hlt hother

theorem add (cs : Contexts) (key : String) {c : Context} (hc : c.IsFresh) :
    Confined ids cs (cs.add key c).2 := by
  refine ⟨?_, fun id hid _ => ?_, fun id hid => ?_, fun other id hkey => ?_⟩
  · exact Nat.le_of_lt (Nat.lt_of_lt_of_eq (Nat.lt_succ_self _) (Array.size_push _).symm)
  · rw [get_add, if_neg (Nat.ne_of_lt hid)]
  · rw [get_add]
    split_ifs
    · exact hc
    · exact isFresh_get hid
  · unfold Contexts.add at hkey
    dsimp only at hkey
    rw [Std.ExtTreeMap.getElem?_insert] at hkey
    split_ifs at hkey
    · cases hkey
      exact .inr (Nat.le_refl _)
    · exact .inl hkey

variable (hids : ∀ id ∈ ids, id < cs.made.size) {parent : ContextId} (hparent : parent ∈ ids)
include hids hparent

theorem createInstance {child : ContextId} {coachId instanceId argument : String} {new : Bool}
    (h : cs.createInstance parent coachId instanceId argument = .ok (child, new, ds)) :
    Confined ids cs ds := by
  cases new with
  | false =>
    rw [createInstance_known h]
    exact .refl cs
  | true =>
    obtain ⟨-, -, lineage, -, rfl⟩ := createInstance_new h
    let c := Context.ofInstance (cs.get parent).name coachId instanceId argument
    have hadd : Confined ids cs (cs.add c.name c).2 := .add cs c.name rfl
    have hlinked : Confined ids (cs.add c.name c).2 { (cs.add c.name c).2 with lineage } :=
      .of_made rfl fun _ _ => id
    have hgrown (id : ContextId) (hid : id ∈ ids) : id < (cs.add c.name c).2.made.size :=
      Nat.lt_of_lt_of_le (hids id hid) hadd.size
    exact hadd.trans hids (hlinked.trans hgrown (.modify _ hparent _))

theorem removeInstance (coachId instanceId : String) :
    Confined ids cs (cs.removeInstance parent coachId instanceId).2 := by
  have hmodify : Confined ids cs (cs.modify parent (·.unregister coachId instanceId)) :=
    .modify cs hparent _
  exact hmodify.trans hids (.of_made rfl fun _ _ hkey => ((stored_removeTree _ _ _ _).mp hkey).1)

end Confined

end Contexts

/-! ### Commands -/

/-- **A command changes contexts of its branch only**: its target, or where the recommendations of the
evaluating context are kept. -/
theorem Call.Effect.confined {call : Call} {w w' : World} (heffect : call.Effect w w')
    (hids : ∀ id ∈ w.contexts.branch call.scene.active, id < w.contexts.made.size)
    (htarget : call.target ∈ w.contexts.branch call.scene.active) :
    w.contexts.Confined (w.contexts.branch call.scene.active) w'.contexts := by
  cases heffect with
  | nothing | logged => exact .refl _
  | contributed | written | badged | showed => exact .modify _ htarget _
  | reshelved f =>
    unfold Builtin.reshelve Contexts.shelf
    cases hparent : w.contexts.parent? call.scene.active with
    | none => exact .modify _ List.mem_cons_self _
    | some parent => exact .modify _ (List.mem_cons_of_mem _ (List.mem_of_mem_head? hparent)) _
  | created hchild => exact .createInstance hids htarget hchild
  | refused hchild =>
    have hcreated := Contexts.Confined.createInstance hids htarget hchild
    have hgrown (id : ContextId) (hid : id ∈ w.contexts.branch call.scene.active) :=
      Nat.lt_of_lt_of_le (hids id hid) hcreated.size
    exact hcreated.trans hids (.removeInstance hgrown htarget _ _)
  | removed => exact .removeInstance hids htarget _ _

/-! ### Passes -/

namespace World

variable {w : World} {scene : Scene}

theorem lt_of_mem_branch (h : w.contexts.Grounded) {active : ContextId}
    (hactive : active < w.contexts.made.size) :
    ∀ id ∈ w.contexts.branch active, id < w.contexts.made.size := by
  intro id hid
  rcases List.mem_cons.mp hid with rfl | hid
  · exact hactive
  · exact (h active id hid).2

/-- A pass changes its branch only. -/
theorem confined_runLines (h : w.contexts.Grounded)
    (hactive : scene.active < w.contexts.made.size) (lines : Listing) :
    w.contexts.Confined (w.contexts.branch scene.active) (runLines scene lines w).2.contexts := by
  have hids := lt_of_mem_branch h hactive
  refine (runLines_keeps (P := fun v => w.contexts.Keeps scene.active v.contexts ∧
    w.contexts.Confined (w.contexts.branch scene.active) v.contexts) scene ?_
    (fun fired v hv => ⟨hv.1.leave scene.active fired, hv.2.trans hids (.modify _ List.mem_cons_self _)⟩)
    lines ⟨⟨h, .refl _, rfl⟩, .refl _⟩).2
  rintro call v v' rfl htarget heffect ⟨hkeeps, hconfined⟩
  -- What is above the active context has stayed, so the call acts in the branch.
  have hbranch : v.contexts.branch call.scene.active = w.contexts.branch call.scene.active :=
    congrArg (List.cons _) hkeeps.above
  have hmem : call.target ∈ v.contexts.branch call.scene.active := List.mem_cons.mpr htarget
  refine ⟨hkeeps.effect hactive htarget heffect, hconfined.trans hids ?_⟩
  rw [← hbranch]
  refine heffect.confined (fun id hid => ?_) hmem
  exact Nat.lt_of_lt_of_le (hids id (hbranch ▸ hid)) hkeeps.names.size

theorem grounded_revert (h : w.contexts.Grounded) (scene : Scene) (keep : String) :
    (w.revert scene keep).contexts.Grounded :=
  h.of_lineage lineage_revert (Nat.le_of_eq size_revert.symm)

theorem confined_revertAbove (source : String) {ids above : List ContextId} (w : World)
    (hids : ∀ id ∈ ids, id < w.contexts.made.size) (hsub : above ⊆ ids) :
    w.contexts.Confined ids (above.foldl
      (fun w id => w.modify id fun c => { c with scores := c.scores.revert source }) w).contexts := by
  induction above generalizing w with
  | nil => exact .refl _
  | cons id above ih =>
    rw [List.cons_subset] at hsub
    have hfirst : w.contexts.Confined ids
        (w.modify id fun c => { c with scores := c.scores.revert source }).contexts :=
      .modify _ hsub.1 _
    exact hfirst.trans hids (ih _ (fun other hother => Nat.lt_of_lt_of_le (hids other hother) hfirst.size)
      hsub.2)

/-- Reverting changes the branch only. -/
theorem confined_revert (h : w.contexts.Grounded) (hactive : scene.active < w.contexts.made.size)
    (keep : String) :
    w.contexts.Confined (w.contexts.branch scene.active) (w.revert scene keep).contexts := by
  have hids := lt_of_mem_branch h hactive
  have hown : w.contexts.Confined (w.contexts.branch scene.active)
      (w.modify scene.active fun c =>
        { c with
          scores := c.scores.revert scene.question
          memory := c.memory.revert scene.question keep
          fired := ∅ }).contexts :=
    .modify _ List.mem_cons_self _
  exact hown.trans hids (confined_revertAbove _ _
    (fun id hid => Nat.lt_of_lt_of_le (hids id hid) hown.size) (List.subset_cons_self _ _))

/-- **Evaluating a question changes its branch only.** -/
theorem confined_runQuestion (h : w.contexts.Grounded)
    (hactive : scene.active < w.contexts.made.size) (keep : String) (lines : Listing) :
    w.contexts.Confined (w.contexts.branch scene.active)
      (runQuestion scene keep lines w).2.contexts := by
  have hbranch : (w.revert scene keep).contexts.branch scene.active =
      w.contexts.branch scene.active :=
    congrArg (fun l => scene.active :: Lineage.ancestors l scene.active) lineage_revert
  have hrun := confined_runLines (grounded_revert h scene keep) (size_revert.symm ▸ hactive) lines
  rw [hbranch] at hrun
  exact (confined_revert h hactive keep).trans (lt_of_mem_branch h hactive) hrun

/-- What reverting takes back was contributed under the question's source. -/
theorem eq_sourceAt_of_takesEntry {id : ContextId} {source : String}
    (h : w.takesEntry scene id source) : source = w.sourceAt scene id := by
  unfold takesEntry at h
  unfold sourceAt
  rcases (Bool.or_eq_true _ _).mp h with h | h
  · obtain ⟨hid, hsource⟩ := (Bool.and_eq_true _ _).mp h
    rw [if_pos (beq_iff_eq.mp hid), beq_iff_eq.mp hsource]
  · obtain ⟨hid, hsource⟩ := (Bool.and_eq_true _ _).mp h
    rw [if_neg (w.contexts.lineage.ne_of_mem_ancestors (List.contains_iff_mem.mp hid)),
      beq_iff_eq.mp hsource]

/-- What is contributed to a score under other sources than one, in order. -/
def others (w : World) (id : ContextId) (source name : String) : List (String × ScoreEntry) :=
  (w.entries id name).filter (·.1 != source)

/-- **Evaluating a question leaves what other sources have contributed**, in every context. -/
theorem others_runQuestion (hactive : scene.active < w.contexts.made.size) {id : ContextId}
    (hid : id < w.contexts.made.size) (keep : String) (lines : Listing) (name : String) :
    (runQuestion scene keep lines w).2.others id (w.sourceAt scene id) name =
      w.others id (w.sourceAt scene id) name := by
  unfold others
  rw [entries_question hactive hid, List.filter_append, List.filter_filter,
    List.filter_eq_nil_iff (l := List.map _ _) |>.mpr, List.append_nil]
  · -- What reverting takes back is not kept here anyway.
    refine List.filter_congr fun e _ => ?_
    cases htakes : w.takesEntry scene id e.1 with
    | false => rw [Bool.not_false, Bool.and_true]
    | true =>
      rw [eq_sourceAt_of_takesEntry htakes, bne_self_eq_false]
      rfl
  · intro e he
    obtain ⟨entry, -, rfl⟩ := List.mem_map.mp he
    rw [bne_self_eq_false]
    exact Bool.false_ne_true

end World

end CoachScript
