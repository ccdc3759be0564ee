import CoachScript.Proofs.Builtin.Effect

/-!
# The tree only grows at its leaves

* `Contexts.Retains f`: the contexts that there are stay, with the `f` that they have.
* `Contexts.Grounded`: only contexts that exist have others above them, and those exist, too.
* **`Call.Effect.grounded`, `World.keeps_runLines`**: commands that act on contexts that exist
  keep the tree so, and no context that exists gets others above it.
-/

namespace CoachScript

namespace Contexts

/-- The contexts that there are stay, with the `f` that they have. -/
structure Retains {β : Type} (f : Context → β) (cs ds : Contexts) : Prop where
  size : cs.made.size ≤ ds.made.size
  same : ∀ id, id < cs.made.size → f (ds.get id) = f (cs.get id)

namespace Retains

variable {β : Type} {f : Context → β} {cs ds es : Contexts}

theorem refl (cs : Contexts) : Retains f cs cs := ⟨Nat.le_refl _, fun _ _ => rfl⟩

theorem trans (h : Retains f cs ds) (h' : Retains f ds es) : Retains f cs es :=
  ⟨Nat.le_trans h.size h'.size, fun id hid =>
    (h'.same id (Nat.lt_of_lt_of_le hid h.size)).trans (h.same id hid)⟩

theorem of_made (h : ds.made = cs.made) : Retains f cs ds := by
  refine ⟨Nat.le_of_eq (congrArg Array.size h.symm), fun id _ => ?_⟩
  unfold get
  rw [h]

theorem modify (cs : Contexts) (id : ContextId) {g : Context → Context}
    (hg : ∀ c, f (g c) = f c) : Retains f cs (cs.modify id g) := by
  refine ⟨Nat.le_of_eq (size_modify cs id g).symm, fun other _ => ?_⟩
  rw [get_modify]
  split_ifs with hother
  · rw [hg, hother.1]
  · rfl

theorem add (cs : Contexts) (key : String) (c : Context) : Retains f cs (cs.add key c).2 := by
  unfold Contexts.add
  refine ⟨?_, fun id hid => ?_⟩
  · dsimp only
    rw [Array.size_push]
    exact Nat.le_succ _
  · unfold get
    dsimp only
    rw [Array.getElem?_push, if_neg (Nat.ne_of_lt hid)]

end Retains

namespace Retains

variable {β : Type} {f : Context → β} {cs ds : Contexts}

theorem createInstance (hf : ∀ handle c, f (Context.register c handle) = f c)
    {parent child : ContextId} {coachId instanceId argument : String} {new : Bool}
    (h : cs.createInstance parent coachId instanceId argument = .ok (child, new, ds)) :
    Retains f cs ds := by
  rcases createInstance_eq h with ⟨-, rfl⟩ | ⟨-, c, handle, linked, hlink, rfl⟩
  · exact .refl _
  · obtain ⟨lineage, -, rfl⟩ := link_eq hlink
    have hlinked : Retains f cs { (cs.add c.name c).2 with lineage } := (add cs c.name c).trans (of_made rfl)
    exact hlinked.trans (modify _ parent (hf handle))

theorem removeInstance (hf : ∀ coachId instanceId c, f (Context.unregister c coachId instanceId) = f c)
    (cs : Contexts) (parent : ContextId) (coachId instanceId : String) :
    Retains f cs (cs.removeInstance parent coachId instanceId).2 :=
  (modify cs parent (hf coachId instanceId)).trans (of_made rfl)

theorem updateShelf (hf : ∀ rs c, f { c with recommendations := rs } = f c)
    (hbucket : ∀ tag g c, f (Context.updateBucket c tag g) = f c)
    (cs : Contexts) (g : Recommendations → Recommendations) (s : Shelf) :
    Retains f cs (cs.updateShelf g s) := by
  cases s with
  | own id => exact modify cs id fun c => hf _ c
  | bucket id tag => exact modify cs id (hbucket tag g)

end Retains

end Contexts

/-- Commands let contexts keep what depends on their coaches and names. -/
theorem Call.Effect.retains {β : Type} {f : Context → β} {call : Call} {w w' : World}
    (h : call.Effect w w') (hf : ∀ c d : Context, c.coachId = d.coachId → c.name = d.name → f c = f d) :
    Contexts.Retains f w.contexts w'.contexts := by
  have hregister : ∀ handle c, f (Context.register c handle) = f c := fun _ _ => hf _ _ rfl rfl
  have hunregister : ∀ coachId instanceId c, f (Context.unregister c coachId instanceId) = f c :=
    fun _ _ _ => hf _ _ rfl rfl
  cases h with
  | nothing | logged => exact .refl _
  | contributed | written | badged | showed => exact .modify _ _ fun _ => hf _ _ rfl rfl
  | reshelved => exact .updateShelf (fun _ _ => hf _ _ rfl rfl) (fun _ _ _ => hf _ _ rfl rfl) _ _ _
  | created hchild => exact .createInstance hregister hchild
  | refused hchild =>
    exact (Contexts.Retains.createInstance hregister hchild).trans
      (.removeInstance hunregister _ _ _ _)
  | removed => exact .removeInstance hunregister _ _ _ _

/-- Commands let contexts keep their names. -/
theorem Call.Effect.retains_name {call : Call} {w w' : World} (h : call.Effect w w') :
    Contexts.Retains Context.name w.contexts w'.contexts := h.retains fun _ _ _ hname => hname

/-! ### Links -/

theorem Lineage.ancestors_link {l l' : Lineage} {child parent : ContextId}
    (h : l.link? child parent = some l') (id : ContextId) :
    l'.ancestors id =
      if id = child then parent :: l.ancestors parent
      else if child ∈ l.ancestors id then l.ancestors id ++ parent :: l.ancestors parent
      else l.ancestors id := by
  unfold link? at h
  split_ifs at h
  cases h
  exact chainOf_extend child parent id l.chains

namespace Contexts

/-- Only contexts that exist have others above them, and those exist, too. -/
def Grounded (cs : Contexts) : Prop :=
  ∀ id, ∀ above ∈ cs.ancestors id, id < cs.made.size ∧ above < cs.made.size

namespace Grounded

variable {cs ds : Contexts}

theorem empty : Grounded ∅ := fun _ _ h => nomatch h

variable (h : Grounded cs)
include h

/-- The links stay, and so do the contexts. -/
theorem of_lineage (hlineage : ds.lineage = cs.lineage) (hsize : cs.made.size ≤ ds.made.size) :
    Grounded ds := by
  intro id above habove
  unfold ancestors at habove
  rw [hlineage] at habove
  obtain ⟨hid, hlt⟩ := h id above habove
  exact ⟨Nat.lt_of_lt_of_le hid hsize, Nat.lt_of_lt_of_le hlt hsize⟩

theorem modify (id : ContextId) (f : Context → Context) : Grounded (cs.modify id f) :=
  h.of_lineage rfl (Nat.le_of_eq (size_modify cs id f).symm)

theorem obtain (coachId : String) : Grounded (cs.obtain coachId).2 := by
  unfold Contexts.obtain
  cases cs.find? coachId with
  | some id => exact h
  | none => exact h.of_lineage rfl (Retains.add (f := Context.name) cs _ _).size

theorem removeInstance (parent : ContextId) (coachId instanceId : String) :
    Grounded (cs.removeInstance parent coachId instanceId).2 :=
  h.of_lineage rfl (Nat.le_of_eq (size_modify cs parent _).symm)

theorem link {child parent : ContextId} (hchild : child < cs.made.size)
    (hparent : parent < cs.made.size) (hds : cs.link child parent = .ok ds) : Grounded ds := by
  obtain ⟨lineage, hlink, rfl⟩ := link_eq hds
  have hmore : ∀ above ∈ parent :: cs.lineage.ancestors parent, above < cs.made.size := by
    intro above habove
    rcases List.mem_cons.mp habove with rfl | habove
    · exact hparent
    · exact (h parent above habove).2
  intro id above habove
  unfold ancestors at habove
  rw [Lineage.ancestors_link hlink] at habove
  split_ifs at habove with hid hbelow
  · exact ⟨hid ▸ hchild, hmore above habove⟩
  · refine ⟨(h id child hbelow).1, ?_⟩
    rcases List.mem_append.mp habove with habove | habove
    · exact (h id above habove).2
    · exact hmore above habove
  · exact h id above habove

/-- No link names a context that was not made yet. -/
theorem not_mem_ancestors (id : ContextId) : cs.made.size ∉ cs.ancestors id := fun hmem =>
  Nat.lt_irrefl _ (h id _ hmem).2

/-- A new instance below a context that exists. -/
theorem createInstance {parent child : ContextId} {coachId instanceId argument : String} {new : Bool}
    (hparent : parent < cs.made.size)
    (hds : cs.createInstance parent coachId instanceId argument = .ok (child, new, ds)) :
    Grounded ds := by
  rcases createInstance_eq hds with ⟨-, rfl⟩ | ⟨-, c, handle, linked, hlink, rfl⟩
  · exact h
  · have hsize : (cs.add c.name c).2.made.size = cs.made.size + 1 := Array.size_push _
    have hgrown : Grounded (cs.add c.name c).2 :=
      h.of_lineage rfl (hsize ▸ Nat.le_succ cs.made.size)
    refine (hgrown.link ?_ ?_ hlink).modify _ _
    · rw [hsize]
      exact Nat.lt_succ_self _
    · rw [hsize]
      exact Nat.lt_succ_of_lt hparent

/-- A new instance is above no context that exists. -/
theorem ancestors_createInstance {parent child : ContextId} {coachId instanceId argument : String}
    {new : Bool} (hds : cs.createInstance parent coachId instanceId argument = .ok (child, new, ds))
    {id : ContextId} (hid : id < cs.made.size) : ds.ancestors id = cs.ancestors id := by
  rcases createInstance_eq hds with ⟨-, rfl⟩ | ⟨-, c, handle, linked, hlink, rfl⟩
  · rfl
  · obtain ⟨lineage, hlineage, rfl⟩ := link_eq hlink
    exact (Lineage.ancestors_link hlineage id).trans
      ((if_neg (Nat.ne_of_lt hid)).trans (if_neg (h.not_mem_ancestors id)))

end Grounded

end Contexts

/-! ### Evaluations -/

/-- **Commands on contexts that exist keep the tree grounded**, and put nothing above contexts that
exist. -/
theorem Call.Effect.grounded {call : Call} {w w' : World} (heffect : call.Effect w w')
    (h : w.contexts.Grounded) (htarget : call.target < w.contexts.made.size) :
    w'.contexts.Grounded ∧ ∀ id, id < w.contexts.made.size →
      w'.contexts.ancestors id = w.contexts.ancestors id := by
  have hsize := heffect.retains_name.size
  cases heffect with
  | nothing | logged | contributed | written | badged | showed =>
    exact ⟨h.of_lineage rfl hsize, fun _ _ => rfl⟩
  | reshelved f =>
    have hlineage (s : Contexts.Shelf) : (w.contexts.updateShelf f s).lineage = w.contexts.lineage := by
      cases s <;> rfl
    exact ⟨h.of_lineage (hlineage _) hsize, fun id _ =>
      congrArg (Lineage.ancestors · id) (hlineage _)⟩
  | created hchild =>
    exact ⟨h.createInstance htarget hchild, fun _ hid => h.ancestors_createInstance hchild hid⟩
  | refused hchild =>
    exact ⟨(h.createInstance htarget hchild).removeInstance _ _ _, fun _ hid =>
      h.ancestors_createInstance hchild hid⟩
  | removed => exact ⟨h.of_lineage rfl hsize, fun _ _ => rfl⟩

/-- What an evaluation in a context leaves of the tree: it is grounded, contexts keep their names,
and the context keeps those above it. -/
structure Contexts.Keeps (active : ContextId) (cs ds : Contexts) : Prop where
  grounded : ds.Grounded
  names : Retains Context.name cs ds
  above : ds.ancestors active = cs.ancestors active

/-- One command in the context or above it keeps the tree so. -/
theorem Contexts.Keeps.effect {cs : Contexts} {call : Call} {v v' : World}
    (h : cs.Keeps call.scene.active v.contexts) (hactive : call.scene.active < cs.made.size)
    (htarget : call.target = call.scene.active ∨
      call.target ∈ v.contexts.ancestors call.scene.active) (heffect : call.Effect v v') :
    cs.Keeps call.scene.active v'.contexts := by
  have hlt := Nat.lt_of_lt_of_le hactive h.names.size
  have hmade : call.target < v.contexts.made.size := by
    rcases htarget with heq | hmem
    · exact heq ▸ hlt
    · exact (h.grounded _ _ hmem).2
  obtain ⟨hgrounded, hsame⟩ := heffect.grounded h.grounded hmade
  exact ⟨hgrounded, h.names.trans heffect.retains_name, (hsame _ hlt).trans h.above⟩

/-- So do the names that a pass leaves in a context. -/
theorem Contexts.Keeps.leave {cs : Contexts} {active : ContextId} {v : World}
    (h : cs.Keeps active v.contexts) (id : ContextId) (fired : Fired) :
    cs.Keeps active (v.leave id fired).contexts :=
  ⟨h.grounded.modify id _, h.names.trans (.modify _ id fun _ => rfl), h.above⟩

/-- **A pass in a context that exists keeps the tree grounded**, and what is above that context. -/
theorem World.keeps_runLines {w : World} (h : w.contexts.Grounded) {scene : Scene}
    (hactive : scene.active < w.contexts.made.size) (lines : Listing) :
    w.contexts.Keeps scene.active (runLines scene lines w).2.contexts := by
  refine runLines_keeps (P := fun v => w.contexts.Keeps scene.active v.contexts) scene ?_
    (fun fired _ hkeeps => hkeeps.leave scene.active fired) lines ⟨h, .refl _, rfl⟩
  rintro call v v' rfl htarget heffect hkeeps
  exact hkeeps.effect hactive htarget heffect

end CoachScript
