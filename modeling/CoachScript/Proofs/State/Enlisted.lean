import CoachScript.Proofs.State.Handles

/-!
# Which instances their parents list

The tree knows an instance by its name, in any letter case; its parent lists it by its tag, as the ids
were spelled when it was made.

* `Contexts.Built`: what changes that name only contexts that exist, and any writes into contexts, make
  of an empty tree.
* `Contexts.Enlisted`: **every stored instance is listed by its parent, under its tag.** One lemma for
  each change of the tree.
* `Contexts.Lists`: a context lists an instance by two ids.
* **`Contexts.Built.lists_created_iff`**: an instance that is created or found is listed by these ids if and
  only if it is new, or was made by the same context in the same spelling.
-/

namespace CoachScript

/-- The change names only contexts that exist. -/
def TreeChange.Founded (cs : Contexts) : TreeChange → Prop
  | .create parent _ _ _ => parent < cs.made.size
  | .link child parent => child < cs.made.size ∧ parent < cs.made.size
  | .obtain _ | .remove _ _ _ | .reset _ | .resetAll => True

instance (cs : Contexts) : ∀ change : TreeChange, Decidable (change.Founded cs)
  | .create _ _ _ _ => inferInstanceAs (Decidable (_ < _))
  | .link _ _ => inferInstanceAs (Decidable (_ ∧ _))
  | .obtain _ | .remove _ _ _ | .reset _ | .resetAll => .isTrue trivial

namespace Contexts

variable {cs ds : Contexts}

/-- What changes that name only contexts that exist, and any writes into contexts, make of an empty
tree. -/
inductive Built : Contexts → Prop
  | start : Built ∅
  | change {cs : Contexts} (h : Built cs) (change : TreeChange) (hfounded : change.Founded cs) :
    Built (change.run cs)
  | write {cs : Contexts} (h : Built cs) (id : ContextId) {f : Context → Context}
    (hlabel : ∀ c, (f c).label = c.label) (hhandles : ∀ c, (f c).handles = c.handles) :
    Built (cs.modify id f)

/-- A sequence of changes that name only contexts that exist. -/
theorem Built.after (h : cs.Built) {changes : List TreeChange}
    (halong : TreeChange.Along TreeChange.Founded cs changes) : (cs.after changes).Built :=
  after_keeps (fun _ change hfounded h => h.change change hfounded) halong h

/-! ### Lists of parents -/

/-- Every stored instance is listed by its parent, under its tag. -/
structure Enlisted (cs : Contexts) : Prop where
  named : cs.Named
  grounded : cs.Grounded
  labelled : cs.Labelled
  tagged : cs.Tagged
  listed : ∀ (key : String) (id : ContextId) (tag : String), cs.stored[key]? = some id →
    (cs.get id).tag = some tag → ∃ (parent : ContextId) (handle : Handle),
      cs.parent? id = some parent ∧ (cs.get parent).handles[tag]? = some handle ∧
        handle.context = id ∧ handle.name = key

namespace Enlisted

theorem empty : Enlisted ∅ := by
  refine ⟨.empty, .empty, .empty, .empty, fun key id tag h => ?_⟩
  cases h

variable (h : Enlisted cs)
include h

/-- What is stored was stored, and those that list it go on doing so. -/
theorem mono (hnamed : ds.Named) (hgrounded : ds.Grounded) (hlabelled : ds.Labelled)
    (htagged : ds.Tagged)
    (hstored : ∀ (key : String) (id : ContextId) (tag : String), ds.stored[key]? = some id →
      (ds.get id).tag = some tag → cs.stored[key]? = some id ∧ (cs.get id).tag = some tag)
    (hparent : ∀ id parent, cs.parent? id = some parent → ds.parent? id = some parent)
    (hhandles : ∀ (id : ContextId) (tag : String) (handle : Handle),
      (cs.get id).handles[tag]? = some handle → ds.stored[handle.name]? = some handle.context →
        (ds.get id).handles[tag]? = some handle) : Enlisted ds := by
  refine ⟨hnamed, hgrounded, hlabelled, htagged, fun key id tag hid htag => ?_⟩
  obtain ⟨hold, htagOld⟩ := hstored key id tag hid htag
  obtain ⟨parent, handle, habove, hhandle, rfl, rfl⟩ := h.listed key id tag hold htagOld
  exact ⟨parent, handle, hparent _ parent habove, hhandles parent tag handle hhandle hid, rfl, rfl⟩

/-- A tree with the same contexts, in which no more is stored and no parent is lost. -/
theorem of_made (hmade : ds.made = cs.made) (hgrounded : ds.Grounded)
    (hstored : ∀ (key : String) (id : ContextId),
      ds.stored[key]? = some id → cs.stored[key]? = some id)
    (hparent : ∀ id parent, cs.parent? id = some parent → ds.parent? id = some parent) :
    Enlisted ds := by
  have hget (id : ContextId) : ds.get id = cs.get id := by
    unfold get
    rw [hmade]
  refine h.mono ?_ hgrounded (h.labelled.of_made hmade) (h.tagged.mono (fun id => ?_) ?_) ?_ hparent ?_
  · exact h.named.mono hstored (Nat.le_of_eq (congrArg Array.size hmade.symm)) fun id _ =>
      congrArg Context.name (hget id)
  · rw [hget]
  · intro id tag handle hhandle
    rwa [hget] at hhandle
  · intro key id tag hid htag
    rw [hget] at htag
    exact ⟨hstored key id hid, htag⟩
  · intro id tag handle hhandle _
    rwa [hget]

theorem write (id : ContextId) {f : Context → Context} (hlabel : ∀ c, (f c).label = c.label)
    (hhandles : ∀ c, (f c).handles = c.handles) : Enlisted (cs.modify id f) := by
  have hlabels (other : ContextId) := label_modify cs id other hlabel
  have hsame (other : ContextId) : ((cs.modify id f).get other).handles = (cs.get other).handles := by
    rw [get_modify]
    split_ifs with hother
    · rw [hhandles, hother.1]
    · rfl
  have hkept (other : ContextId) (tag : String) (handle : Handle) :
      ((cs.modify id f).get other).handles[tag]? = some handle →
        (cs.get other).handles[tag]? = some handle := by
    rw [hsame]
    exact fun hhandle => hhandle
  refine h.mono (h.named.modify id fun c => congrArg (·.2.1) (hlabel c)) (h.grounded.modify id f)
    (h.labelled.mono hlabels hkept) (h.tagged.mono hlabels hkept) (fun key other tag hid htag => ?_)
    (fun _ _ habove => habove) fun other tag handle hhandle _ => ?_
  · exact ⟨hid, (congrArg (·.2.2) (hlabels other)).symm.trans htag⟩
  · rwa [hsame]

/-- The context of a coach is no instance. -/
theorem obtain (coachId : String) : Enlisted (cs.obtain coachId).2 := by
  -- It is the one context that is stored anew, and it has no tag.
  refine h.mono (h.named.obtain coachId) (h.grounded.obtain coachId) (h.labelled.obtain coachId)
    (h.tagged.obtain coachId) (fun key id tag => ?_)
    (fun _ _ => TreeChange.keeps_parent (.obtain coachId)) fun id tag handle hhandle _ => ?_
  · unfold Contexts.obtain
    cases cs.find? coachId with
    | some _ => exact fun hid htag => ⟨hid, htag⟩
    | none =>
      dsimp only
      rw [stored_add, get_add]
      split_ifs with hkey hnew hnew
      · exact fun _ htag => nomatch htag
      · exact fun hid => absurd (Option.some_inj.mp hid).symm hnew
      · exact fun _ htag => nomatch htag
      · exact fun hid htag => ⟨hid, htag⟩
  · rwa [handles_obtain]

/-- A new instance is listed at once, in no other's place. -/
theorem createInstance {parent child : ContextId} {coachId instanceId argument : String}
    (hds : cs.createInstance parent coachId instanceId argument = .ok (child, true, ds))
    (hparent : parent < cs.made.size) : Enlisted ds := by
  refine ⟨h.named.createInstance hds, h.grounded.createInstance hparent hds,
    h.labelled.createInstance hds, h.tagged.createInstance hds hparent, fun key id tag hid htag => ?_⟩
  have hlabel := congrArg (·.2.2) (label_createInstance hds hparent id)
  rw [stored_createInstance hds] at hid
  rw [parent?_createInstance hds]
  split_ifs at hid with hkey
  · cases hid
    rw [if_pos rfl] at hlabel ⊢
    cases hlabel.symm.trans htag
    exact ⟨parent, _, rfl, (handles_createInstance hds hparent _ _).trans (if_pos ⟨rfl, rfl⟩), rfl, hkey⟩
  · -- Its key was free, so no other stored instance had its tag at this parent.
    have hne := Nat.ne_of_lt (h.named key id hid).1
    rw [if_neg hne] at hlabel ⊢
    obtain ⟨above, handle, habove, hhandle, hcontext, hname⟩ :=
      h.listed key id tag hid (hlabel.symm.trans htag)
    exact ⟨above, handle, habove,
      h.labelled.keeps_createInstance hds hparent hhandle (hname ▸ hkey), hcontext, hname⟩

/-- What is no longer listed is no longer stored. -/
theorem removeInstance (parent : ContextId) (coachId instanceId : String) :
    Enlisted (cs.removeInstance parent coachId instanceId).2 := by
  have hlabel := label_removeInstance cs parent coachId instanceId
  have hstored := stored_removeInstance cs parent coachId instanceId
  refine h.mono (h.named.removeInstance parent coachId instanceId)
    (h.grounded.removeInstance parent coachId instanceId)
    (h.labelled.removeInstance parent coachId instanceId)
    (h.tagged.removeInstance parent coachId instanceId) (fun key id tag hid htag => ?_)
    (fun _ _ habove => habove) fun id tag handle hhandle hid => ?_
  · exact ⟨((hstored key id).mp hid).1, (congrArg (·.2.2) (hlabel id)).symm.trans htag⟩
  · exact h.labelled.keeps_removeInstance hhandle fun heq => ((hstored _ _).mp hid).2 (.inl heq)

/-- **Changes that name only contexts that exist keep the lists.** -/
theorem run {change : TreeChange} (hfounded : change.Founded cs) : Enlisted (change.run cs) := by
  cases change with
  | obtain coachId => exact h.obtain coachId
  | create parent coachId instanceId argument =>
    rcases TreeChange.run_create cs parent coachId instanceId argument with hsame | ⟨child, hcreate⟩
    · rwa [hsame]
    · exact h.createInstance hcreate hfounded
  | remove parent coachId instanceId => exact h.removeInstance parent coachId instanceId
  | reset key =>
    exact h.of_made rfl (h.grounded.of_lineage rfl (Nat.le_refl _))
      (fun other id hid => ((stored_removeTree cs (lowercase key) other id).mp hid).1)
      fun _ _ habove => habove
  | resetAll =>
    refine h.of_made rfl (h.grounded.of_lineage rfl (Nat.le_refl _)) (fun other id hid => ?_)
      fun _ _ habove => habove
    cases hid
  | link child parent =>
    cases hlink : cs.link child parent with
    | error e => rwa [TreeChange.run_link_of_error hlink]
    | ok linked =>
      rw [TreeChange.run_link_of_ok hlink]
      obtain ⟨lineage, hlineage, rfl⟩ := link_eq hlink
      exact h.of_made rfl (h.grounded.link hfounded.1 hfounded.2 hlink) (fun _ _ hid => hid)
        fun _ _ => Lineage.keeps_parent hlineage

end Enlisted

/-- **In every tree that was built, each stored instance is listed by its parent.** -/
theorem Built.enlisted (h : cs.Built) : cs.Enlisted := by
  induction h with
  | start => exact .empty
  | change _ _ hfounded ih => exact ih.run hfounded
  | write _ id hlabel hhandles ih => exact ih.write id hlabel hhandles

/-! ### Instances that are created or found -/

/-- The context lists the instance by two ids, under the instance's name, and is its parent. -/
def Lists (cs : Contexts) (parent child : ContextId) (coachId instanceId : String) : Prop :=
  cs.parent? child = some parent ∧ ∃ handle, (cs.get parent).handle? coachId instanceId = some handle ∧
    handle.context = child ∧ handle.name = (cs.get child).name

/-- A parent lists a stored instance by the ids that make up its tag. -/
theorem Enlisted.lists_iff (h : cs.Enlisted) {parent child : ContextId} {coachId instanceId : String}
    (hstored : cs.stored[instanceName (cs.get parent).name coachId instanceId]? = some child) :
    cs.Lists parent child coachId instanceId ↔
      cs.parent? child = some parent ∧ (cs.get child).tag = some (instanceTag coachId instanceId) := by
  refine and_congr_right fun habove => ⟨?_, fun htag => ?_⟩
  · rintro ⟨handle, hhandle, rfl, -⟩
    exact h.tagged parent _ handle hhandle
  · obtain ⟨above, handle, hsome, hhandle, hcontext, hname⟩ := h.listed _ child _ hstored htag
    cases habove.symm.trans hsome
    exact ⟨handle, hhandle, hcontext, hname.trans (h.named _ child hstored).2.symm⟩

/-- A new instance is listed. -/
theorem lists_createInstance {parent child : ContextId} {coachId instanceId argument : String}
    (hds : cs.createInstance parent coachId instanceId argument = .ok (child, true, ds))
    (hparent : parent < cs.made.size) : ds.Lists parent child coachId instanceId := by
  have hchild := (createInstance_new hds).2.1
  subst hchild
  refine ⟨(parent?_createInstance hds _).trans (if_pos rfl), _,
    (handles_createInstance hds hparent parent _).trans (if_pos ⟨rfl, rfl⟩), rfl, ?_⟩
  have hlabel := label_createInstance hds hparent cs.made.size
  rw [if_pos rfl] at hlabel
  exact (congrArg (·.2.1) hlabel).symm

end Contexts

/-- A variable of an instance can be read if and only if there is a handle of it. -/
theorem Builtin.getSubcoachVariable_iff {call : Call} {args : List Value} {w : World}
    {coachId instanceId name : String} (hids : instanceIds call args = .ok (coachId, instanceId))
    (hname : call.text args 2 "name" = .ok name) :
    (∃ v, getSubcoachVariable call args w = .ok v) ↔
      ((call.context w).handle? coachId instanceId).isSome := by
  unfold getSubcoachVariable
  rw [hids]
  dsimp only [bind, Except.bind]
  rw [hname]
  dsimp only
  cases (call.context w).handle? coachId instanceId with
  | none => exact iff_of_false (fun ⟨_, h⟩ => nomatch h) Bool.false_ne_true
  | some handle => exact iff_of_true ⟨_, rfl⟩ rfl

namespace Contexts

variable {cs ds : Contexts}

/-- **An instance that is created or found is listed by the ids that were given if and only if it is new,
or was made by the same context in the same spelling.** Its variables can then be read by these ids if
and only if it is new, or there was a handle in this spelling. -/
theorem Built.lists_created_iff (h : cs.Built) {parent child : ContextId}
    (hparent : parent < cs.made.size) {coachId instanceId argument : String} {new : Bool}
    (hds : cs.createInstance parent coachId instanceId argument = .ok (child, new, ds)) :
    (ds.Lists parent child coachId instanceId ↔ new = true ∨
        cs.parent? child = some parent ∧ (cs.get child).tag = some (instanceTag coachId instanceId)) ∧
      ∀ {w : World} {call : Call} {args : List Value} {name : String}, w.contexts = ds →
        call.target = parent → Builtin.instanceIds call args = .ok (coachId, instanceId) →
          call.text args 2 "name" = .ok name →
            ((∃ v, Builtin.getSubcoachVariable call args w = .ok v) ↔
              new = true ∨ ((cs.get parent).handle? coachId instanceId).isSome) := by
  cases new with
  | true =>
    have hlists := lists_createInstance hds hparent
    refine ⟨iff_of_true hlists (.inl rfl), ?_⟩
    rintro w call args name rfl rfl hids hname
    obtain ⟨-, handle, hhandle, -⟩ := hlists
    exact iff_of_true ((Builtin.getSubcoachVariable_iff hids hname).mpr
      (Option.isSome_of_eq_some hhandle)) (.inl rfl)
  | false =>
    obtain ⟨hstored, rfl⟩ := createInstance_known_iff.mp hds
    simp only [Bool.false_eq_true, false_or]
    refine ⟨h.enlisted.lists_iff hstored, ?_⟩
    rintro w call args name rfl rfl hids hname
    exact Builtin.getSubcoachVariable_iff hids hname

/-- An instance is asked for again in capitals: it is found, but neither listed nor to be read so. -/
theorem Built.lists_created_iff_capitals :
    let cs := (∅ : Contexts).after [.obtain "a", .create 0 "b" "c" ""]
    let call : Call := ⟨"getSubcoachVariable", ⟨0, .ofId "a", "q1", .builtin⟩, 0⟩
    let args : List Value := [.string "B", .string "c", .string "x"]
    cs.Built ∧ 0 < cs.made.size ∧ cs.createInstance 0 "B" "c" "" = .ok (1, false, cs) ∧
      ¬ cs.Lists 0 1 "B" "c" ∧
      ¬ ∃ v, Builtin.getSubcoachVariable call args ⟨cs, ∅, #[]⟩ = .ok v := by
  intro cs call args
  have hbuilt : cs.Built := Built.start.after (by decide +kernel)
  obtain ⟨hparent, hstored, htag, hhandle⟩ :
      0 < cs.made.size ∧ cs.stored[instanceName (cs.get 0).name "B" "c"]? = some 1 ∧
        (cs.get 1).tag = some "b.c" ∧ (cs.get 0).handle? "B" "c" = none := by decide +kernel
  have hfound : cs.createInstance 0 "B" "c" "" = .ok (1, false, cs) :=
    createInstance_known_iff.mpr ⟨hstored, rfl⟩
  obtain ⟨hlists, hread⟩ := hbuilt.lists_created_iff hparent hfound
  refine ⟨hbuilt, hparent, hfound, fun h => ?_, fun h => ?_⟩
  · have hspelling := (hlists.mp h).resolve_left Bool.false_ne_true
    exact absurd (htag.symm.trans hspelling.2) (by decide +kernel)
  · have hids : Builtin.instanceIds call args = .ok ("B", "c") := rfl
    have hname : call.text args 2 "name" = .ok "x" := rfl
    have hsome := ((hread (w := ⟨cs, ∅, #[]⟩) rfl rfl hids hname).mp h).resolve_left Bool.false_ne_true
    rw [hhandle] at hsome
    cases hsome

end Contexts

end CoachScript
