import CoachScript.Proofs.State.Subtree

/-!
# What parents know of the instances below them

A parent has a handle for each instance that it made, under the instance's tag.

* `get_createInstance`, `handles_removeInstance`, …: what a tree holds after a change, context by
  context.
* `Contexts.Labelled`: every handle has the name of the instance of its tag.
* `Contexts.Tagged`: every handle leads to an instance of its tag.
* `Contexts.Labels`: who the contexts are, all of one kind.
* **`Contexts.Registered`**: handles lead to instances of their tags, and **every stored instance has
  a handle at its parent**, stored or not. One lemma for each change of the tree.
-/

namespace CoachScript

namespace Contexts

variable {cs ds : Contexts}

/-! ### Lengths of names -/

theorem length_lt_of_isBelow {key other : String} (h : isBelow key other) :
    key.toList.length < other.toList.length := by
  have hle := (isBelow_iff.mp h).length_le
  rw [List.length_append] at hle
  exact hle

/-- The name of an instance is longer than its parent's. -/
theorem length_lt_instanceName {parentName : String} (hsmall : IsSmallText parentName)
    (coachId instanceId : String) :
    parentName.toList.length < (instanceName parentName coachId instanceId).toList.length :=
  length_lt_of_isBelow (isBelow_instanceName hsmall (.inl rfl) coachId instanceId)

/-! ### After a change -/

theorem label_modify (cs : Contexts) (id other : ContextId) {f : Context → Context}
    (hf : ∀ c, (f c).label = c.label) : ((cs.modify id f).get other).label = (cs.get other).label := by
  rw [get_modify]
  split_ifs with hother
  · rw [hf, hother.1]
  · rfl

theorem stored_add (cs : Contexts) (key : String) (c : Context) (other : String) :
    (cs.add key c).2.stored[other]? = if key = other then some cs.made.size else cs.stored[other]? := by
  unfold add
  dsimp only
  rw [Std.ExtTreeMap.getElem?_insert]
  simp only [Std.LawfulEqCmp.compare_eq_iff_eq]

/-- A free key is not the key of a stored context. -/
theorem ne_of_stored {key other : String} {id : ContextId}
    (hfree : cs.stored[key]? = none) (hid : cs.stored[other]? = some id) : key ≠ other := by
  rintro rfl
  exact absurd (hfree.symm.trans hid) nofun

/-- A context that was not made is as one in which nothing was written. -/
theorem get_of_size_le {id : ContextId} (h : cs.made.size ≤ id) : cs.get id = default := by
  unfold get
  rw [Array.getElem?_eq_none h]
  rfl

theorem get_size (cs : Contexts) : cs.get cs.made.size = default := get_of_size_le (Nat.le_refl _)

/-- The context of a coach comes without handles. -/
theorem handles_obtain (cs : Contexts) (coachId : String) (id : ContextId) :
    ((cs.obtain coachId).2.get id).handles = (cs.get id).handles := by
  unfold obtain
  cases cs.find? coachId with
  | some _ => rfl
  | none =>
    dsimp only
    rw [get_add]
    split_ifs with hnew
    · rw [hnew, get_size]
      rfl
    · rfl

section Created

variable {parent child : ContextId} {coachId instanceId argument : String}
  (hds : cs.createInstance parent coachId instanceId argument = .ok (child, true, ds))
include hds

theorem stored_createInstance (key : String) :
    ds.stored[key]? = if instanceName (cs.get parent).name coachId instanceId = key then
      some cs.made.size else cs.stored[key]? := by
  obtain ⟨-, -, lineage, -, hds⟩ := createInstance_new hds
  rw [hds]
  exact stored_add cs _ (.ofInstance (cs.get parent).name coachId instanceId argument) key

theorem parent?_createInstance (id : ContextId) :
    ds.parent? id = if id = cs.made.size then some parent else cs.parent? id := by
  obtain ⟨-, -, lineage, hlineage, hds⟩ := createInstance_new hds
  rw [hds]
  exact Lineage.parent?_link hlineage id

/-- After a creation there is the new instance, its parent has the handle, and all else is the same. -/
theorem get_createInstance (hparent : parent < cs.made.size) (id : ContextId) :
    ds.get id =
      if id = cs.made.size then .ofInstance (cs.get parent).name coachId instanceId argument
      else if id = parent then (cs.get parent).register
        ⟨coachId, instanceId, instanceName (cs.get parent).name coachId instanceId, cs.made.size⟩
      else cs.get id := by
  let c := Context.ofInstance (cs.get parent).name coachId instanceId argument
  obtain ⟨-, -, lineage, -, hds⟩ := createInstance_new hds
  have hget (other : ContextId) : Contexts.get { (cs.add c.name c).2 with lineage } other =
      if other = cs.made.size then c else cs.get other := cs.get_add c.name c other
  have hlt : parent < (cs.add c.name c).2.made.size :=
    Nat.lt_of_lt_of_le hparent (Retains.add (f := Context.name) cs c.name c).size
  have hne : parent ≠ cs.made.size := Nat.ne_of_lt hparent
  rw [hds, get_modify]
  by_cases hid : id = parent
  · subst hid
    rw [if_pos ⟨rfl, hlt⟩, hget, if_neg hne, if_neg hne, if_pos rfl]
    rfl
  · rw [if_neg fun h => hid h.1, hget, if_neg hid]

theorem label_createInstance (hparent : parent < cs.made.size) (id : ContextId) :
    (ds.get id).label = if id = cs.made.size then
      (coachId, instanceName (cs.get parent).name coachId instanceId,
        some (instanceTag coachId instanceId)) else (cs.get id).label := by
  rw [get_createInstance hds hparent]
  split_ifs with hnew hid
  · rfl
  · rw [hid]
    rfl
  · rfl

/-- A creation leaves its parent the name. -/
theorem name_parent_createInstance (hparent : parent < cs.made.size) :
    (ds.get parent).name = (cs.get parent).name := by
  have hlabel := label_createInstance hds hparent parent
  rw [if_neg (Nat.ne_of_lt hparent)] at hlabel
  exact congrArg (·.2.1) hlabel

theorem handles_createInstance (hparent : parent < cs.made.size) (id : ContextId) (tag : String) :
    (ds.get id).handles[tag]? = if id = parent ∧ instanceTag coachId instanceId = tag then
      some ⟨coachId, instanceId, instanceName (cs.get parent).name coachId instanceId, cs.made.size⟩
      else (cs.get id).handles[tag]? := by
  rw [get_createInstance hds hparent]
  by_cases hnew : id = cs.made.size
  · have hne : id ≠ parent := fun heq => Nat.ne_of_lt hparent (heq.symm.trans hnew)
    rw [if_pos hnew, if_neg fun h => hne h.1, hnew, get_size]
    rfl
  · rw [if_neg hnew]
    by_cases hid : id = parent
    · subst hid
      rw [if_pos rfl]
      unfold Context.register
      dsimp only
      rw [Std.ExtTreeMap.getElem?_insert]
      simp only [Std.LawfulEqCmp.compare_eq_iff_eq, true_and]
    · rw [if_neg hid, if_neg fun h => hid h.1]

end Created

section Removed

variable (cs) (parent : ContextId) (coachId instanceId : String)

theorem stored_removeInstance (key : String) (id : ContextId) :
    (cs.removeInstance parent coachId instanceId).2.stored[key]? = some id ↔
      cs.stored[key]? = some id ∧ ¬ (key = instanceName (cs.get parent).name coachId instanceId ∨
        isBelow (instanceName (cs.get parent).name coachId instanceId) key) :=
  stored_removeTree (cs.modify parent (·.unregister coachId instanceId)) _ key id

theorem label_removeInstance (id : ContextId) :
    ((cs.removeInstance parent coachId instanceId).2.get id).label = (cs.get id).label :=
  label_modify cs parent id (f := (·.unregister coachId instanceId)) fun _ => rfl

theorem handles_removeInstance (id : ContextId) (tag : String) :
    ((cs.removeInstance parent coachId instanceId).2.get id).handles[tag]? =
      if id = parent ∧ instanceTag coachId instanceId = tag then none
      else (cs.get id).handles[tag]? := by
  show ((cs.modify parent (·.unregister coachId instanceId)).get id).handles[tag]? = _
  rw [get_modify]
  by_cases hid : id = parent
  · subst hid
    by_cases hlt : id < cs.made.size
    · rw [if_pos ⟨rfl, hlt⟩]
      unfold Context.unregister
      dsimp only
      rw [Std.ExtTreeMap.getElem?_erase]
      simp only [Std.LawfulEqCmp.compare_eq_iff_eq, true_and]
    · rw [if_neg fun h => hlt h.2, get_of_size_le (Nat.not_lt.mp hlt)]
      exact (ite_self none).symm
  · rw [if_neg fun h => hid h.1, if_neg fun h => hid h.1]

end Removed

/-! ### Names of handles -/

/-- Every handle has the name of the instance of its tag. -/
def Labelled (cs : Contexts) : Prop := ∀ id tag handle,
  (cs.get id).handles[tag]? = some handle → handle.name = lowercase ((cs.get id).name ++ "." ++ tag)

/-- The tag is of two ids without a dot. -/
def PlainTag (tag : String) : Prop :=
  ∃ coachId instanceId, DotFree coachId ∧ DotFree instanceId ∧ tag = instanceTag coachId instanceId

namespace Labelled

theorem empty : Labelled ∅ := by
  intro id tag handle h
  cases h

variable (h : Labelled cs)
include h

/-- A handle under a plain tag has the name of an instance, by ids without a dot. -/
theorem name_of_plainTag {id : ContextId} {tag : String} {handle : Handle} (htag : PlainTag tag)
    (hhandle : (cs.get id).handles[tag]? = some handle) : ∃ coachId instanceId,
      DotFree coachId ∧ DotFree instanceId ∧
        handle.name = instanceName (cs.get id).name coachId instanceId := by
  obtain ⟨coachId, instanceId, hcoach, hinstance, rfl⟩ := htag
  exact ⟨coachId, instanceId, hcoach, hinstance, h id _ handle hhandle⟩

theorem of_made (hmade : ds.made = cs.made) : Labelled ds := by
  unfold Labelled get
  rw [hmade]
  exact h

/-- A tree with the same contexts and no more handles. -/
theorem mono (hlabel : ∀ id, (ds.get id).label = (cs.get id).label)
    (hhandles : ∀ (id : ContextId) (tag : String) (handle : Handle),
      (ds.get id).handles[tag]? = some handle → (cs.get id).handles[tag]? = some handle) : Labelled ds := by
  intro id tag handle hhandle
  rw [show (ds.get id).name = (cs.get id).name from congrArg (·.2.1) (hlabel id)]
  exact h id tag handle (hhandles id tag handle hhandle)

theorem add (key : String) {c : Context} (hc : c.handles = ∅) : Labelled (cs.add key c).2 := by
  intro id tag handle hhandle
  rw [get_add] at hhandle ⊢
  split_ifs at hhandle ⊢
  · rw [hc, Std.ExtTreeMap.getElem?_empty] at hhandle
    cases hhandle
  · exact h id tag handle hhandle

theorem obtain (coachId : String) : Labelled (cs.obtain coachId).2 := by
  unfold Contexts.obtain
  cases cs.find? coachId with
  | some _ => exact h
  | none => exact h.add _ rfl

/-- A change that only brings handles with the right names. -/
theorem modify (id : ContextId) {f : Context → Context} (hname : ∀ c, (f c).name = c.name)
    (hf : ∀ tag handle, (f (cs.get id)).handles[tag]? = some handle →
      (cs.get id).handles[tag]? = some handle ∨
        handle.name = lowercase ((cs.get id).name ++ "." ++ tag)) : Labelled (cs.modify id f) := by
  intro other tag handle hhandle
  rw [get_modify] at hhandle ⊢
  split_ifs at hhandle ⊢ with hother
  · rw [hname]
    rcases hf tag handle hhandle with hold | hnew
    · exact h id tag handle hold
    · exact hnew
  · exact h other tag handle hhandle

theorem createInstance {parent child : ContextId} {coachId instanceId argument : String}
    (hds : cs.createInstance parent coachId instanceId argument = .ok (child, true, ds)) :
    Labelled ds := by
  let c := Context.ofInstance (cs.get parent).name coachId instanceId argument
  obtain ⟨-, -, lineage, hlineage, hds⟩ := createInstance_new hds
  have hne : parent ≠ cs.made.size := by
    unfold Lineage.link? at hlineage
    split_ifs at hlineage with hfree
    exact hfree.1.symm
  have hlinked : Labelled { (cs.add c.name c).2 with lineage } := (h.add c.name rfl).of_made rfl
  have hparent : Contexts.get { (cs.add c.name c).2 with lineage } parent = cs.get parent :=
    (cs.get_add c.name c parent).trans (if_neg hne)
  rw [hds]
  refine hlinked.modify parent (f := (·.register ⟨coachId, instanceId, c.name, cs.made.size⟩))
    (fun _ => rfl) fun tag handle hhandle => ?_
  unfold Context.register at hhandle
  dsimp only at hhandle
  rw [Std.ExtTreeMap.getElem?_insert] at hhandle
  split_ifs at hhandle with htag
  · cases hhandle
    cases Std.LawfulEqCmp.eq_of_compare htag
    rw [hparent]
    exact .inr rfl
  · exact .inl hhandle

theorem removeInstance (parent : ContextId) (coachId instanceId : String) :
    Labelled (cs.removeInstance parent coachId instanceId).2 := by
  refine h.mono (label_removeInstance cs parent coachId instanceId) fun id tag handle hhandle => ?_
  rw [handles_removeInstance] at hhandle
  split_ifs at hhandle
  exact hhandle

/-- A new instance takes the place of no handle with another name. -/
theorem keeps_createInstance {parent child : ContextId} {coachId instanceId argument : String}
    (hds : cs.createInstance parent coachId instanceId argument = .ok (child, true, ds))
    (hparent : parent < cs.made.size) {id : ContextId} {tag : String} {handle : Handle}
    (hhandle : (cs.get id).handles[tag]? = some handle)
    (hname : instanceName (cs.get parent).name coachId instanceId ≠ handle.name) :
    (ds.get id).handles[tag]? = some handle := by
  rw [handles_createInstance hds hparent, if_neg]
  · exact hhandle
  · rintro ⟨rfl, rfl⟩
    exact hname (h _ _ _ hhandle).symm

/-- A removal strikes out no handle with another name. -/
theorem keeps_removeInstance {parent id : ContextId} {coachId instanceId tag : String}
    {handle : Handle} (hhandle : (cs.get id).handles[tag]? = some handle)
    (hname : handle.name ≠ instanceName (cs.get parent).name coachId instanceId) :
    ((cs.removeInstance parent coachId instanceId).2.get id).handles[tag]? = some handle := by
  rw [handles_removeInstance, if_neg]
  · exact hhandle
  · rintro ⟨rfl, rfl⟩
    exact hname (h _ _ _ hhandle)

end Labelled

/-! ### Who the contexts are -/

/-- Every context is of the kind, by its coach, its name and its tag. -/
def AllLabels (kind : String × String × Option String → Prop) (cs : Contexts) : Prop :=
  ∀ id, kind (cs.get id).label

namespace AllLabels

variable {kind : String × String × Option String → Prop}

theorem empty (hdefault : kind (default : Context).label) : AllLabels kind ∅ := fun _ => hdefault

variable (h : AllLabels kind cs)
include h

theorem of_label (hlabel : ∀ id, (ds.get id).label = (cs.get id).label) : AllLabels kind ds := by
  intro id
  rw [hlabel]
  exact h id

theorem add (key : String) {c : Context} (hc : kind c.label) : AllLabels kind (cs.add key c).2 := by
  intro id
  rw [get_add]
  split_ifs
  · exact hc
  · exact h id

theorem obtain {coachId : String} (hnew : kind (Context.ofCoach coachId).label) :
    AllLabels kind (cs.obtain coachId).2 := by
  unfold Contexts.obtain
  cases cs.find? coachId with
  | some id => exact h
  | none => exact h.add _ hnew

theorem createInstance {parent child : ContextId} {coachId instanceId argument : String}
    (hds : cs.createInstance parent coachId instanceId argument = .ok (child, true, ds))
    (hparent : parent < cs.made.size)
    (hnew : kind (coachId, instanceName (cs.get parent).name coachId instanceId,
      some (instanceTag coachId instanceId))) : AllLabels kind ds := by
  intro id
  rw [label_createInstance hds hparent]
  split_ifs
  · exact hnew
  · exact h id

end AllLabels

/-! ### Where handles lead -/

/-- Handles lead to instances of their tags. -/
def Tagged (cs : Contexts) : Prop := ∀ (id : ContextId) (tag : String) (handle : Handle),
  (cs.get id).handles[tag]? = some handle → (cs.get handle.context).tag = some tag

namespace Tagged

theorem empty : Tagged ∅ := by
  intro id tag handle h
  cases h

variable (h : Tagged cs)
include h

/-- A handle leads to a context that was made. -/
theorem context_lt {id : ContextId} {tag : String} {handle : Handle}
    (hhandle : (cs.get id).handles[tag]? = some handle) : handle.context < cs.made.size := by
  refine Nat.lt_of_not_le fun hle => ?_
  have htag := h id tag handle hhandle
  rw [get_of_size_le hle] at htag
  cases htag

/-- A tree with the same contexts and no more handles. -/
theorem mono (hlabel : ∀ id, (ds.get id).label = (cs.get id).label)
    (hhandles : ∀ (id : ContextId) (tag : String) (handle : Handle),
      (ds.get id).handles[tag]? = some handle → (cs.get id).handles[tag]? = some handle) : Tagged ds := by
  intro id tag handle hhandle
  exact (congrArg (·.2.2) (hlabel _)).trans (h id tag handle (hhandles id tag handle hhandle))

theorem obtain (coachId : String) : Tagged (cs.obtain coachId).2 := by
  intro id tag handle hhandle
  rw [handles_obtain] at hhandle
  unfold Contexts.obtain
  cases cs.find? coachId with
  | some _ => exact h id tag handle hhandle
  | none =>
    dsimp only
    rw [get_add, if_neg (Nat.ne_of_lt (h.context_lt hhandle))]
    exact h id tag handle hhandle

theorem createInstance {parent child : ContextId} {coachId instanceId argument : String}
    (hds : cs.createInstance parent coachId instanceId argument = .ok (child, true, ds))
    (hparent : parent < cs.made.size) : Tagged ds := by
  intro id tag handle hhandle
  have hlabel := label_createInstance hds hparent handle.context
  rw [handles_createInstance hds hparent] at hhandle
  refine (congrArg (·.2.2) hlabel).trans ?_
  split_ifs at hhandle with hnew
  · cases hhandle
    rw [if_pos rfl]
    exact congrArg some hnew.2
  · rw [if_neg (Nat.ne_of_lt (h.context_lt hhandle))]
    exact h id tag handle hhandle

theorem removeInstance (parent : ContextId) (coachId instanceId : String) :
    Tagged (cs.removeInstance parent coachId instanceId).2 := by
  refine h.mono (label_removeInstance cs parent coachId instanceId) fun id tag handle hhandle => ?_
  rw [handles_removeInstance] at hhandle
  split_ifs at hhandle
  exact hhandle

end Tagged

/-! ### Handles and instances -/

/-- Handles lead to instances of their tags, and every stored instance has a handle at its parent. -/
structure Registered (cs : Contexts) : Prop where
  labelled : cs.Labelled
  tagged : ∀ (id : ContextId) (tag : String) (handle : Handle),
    (cs.get id).handles[tag]? = some handle → (cs.get handle.context).tag = some tag
  known : ∀ (key : String) (id parent : ContextId), cs.stored[key]? = some id →
    cs.parent? id = some parent → ∃ (tag : String) (handle : Handle),
      (cs.get parent).handles[tag]? = some handle ∧ handle.context = id ∧ handle.name = key

namespace Registered

theorem empty : Registered ∅ := by
  refine ⟨.empty, Tagged.empty, fun key id parent h => ?_⟩
  cases h

variable (h : Registered cs)
include h

/-- A handle leads to a context that was made. -/
theorem context_lt {id : ContextId} {tag : String} {handle : Handle}
    (hhandle : (cs.get id).handles[tag]? = some handle) : handle.context < cs.made.size :=
  Tagged.context_lt h.tagged hhandle

/-- A tree with the same contexts and handles that stores no more. -/
theorem mono (hlabel : ∀ id, (ds.get id).label = (cs.get id).label)
    (hhandles : ∀ id, (ds.get id).handles = (cs.get id).handles)
    (hstored : ∀ (key : String) (id : ContextId),
      ds.stored[key]? = some id → cs.stored[key]? = some id)
    (hparent : ∀ (key : String) (id : ContextId), cs.stored[key]? = some id →
      ds.parent? id = cs.parent? id) : Registered ds := by
  refine ⟨h.labelled.mono hlabel fun id tag handle hhandle => ?_,
    Tagged.mono h.tagged hlabel fun id tag handle hhandle => ?_, fun key id parent hid hsome => ?_⟩
  · rwa [hhandles] at hhandle
  · rwa [hhandles] at hhandle
  · have hid := hstored key id hid
    rw [hparent key id hid] at hsome
    rw [hhandles]
    exact h.known key id parent hid hsome

theorem obtain (hgrounded : cs.Grounded) (coachId : String) :
    Registered (cs.obtain coachId).2 := by
  refine ⟨h.labelled.obtain coachId, Tagged.obtain h.tagged coachId,
    fun key id parent hid hsome => ?_⟩
  rw [handles_obtain]
  unfold Contexts.obtain at hid hsome
  cases hfound : cs.find? coachId with
  | some other =>
    rw [hfound] at hid hsome
    exact h.known key id parent hid hsome
  | none =>
    rw [hfound] at hid hsome
    rw [stored_add] at hid
    split_ifs at hid with hkey
    · cases hid
      exact absurd (hgrounded.parent?_size.symm.trans hsome) nofun
    · exact h.known key id parent hid hsome

/-- A new instance is registered at its parent, in no other's place. -/
theorem createInstance (hnamed : cs.Named) {parent child : ContextId}
    {coachId instanceId argument : String}
    (hds : cs.createInstance parent coachId instanceId argument = .ok (child, true, ds))
    (hparent : parent < cs.made.size) : Registered ds := by
  refine ⟨h.labelled.createInstance hds, Tagged.createInstance h.tagged hds hparent,
    fun key id above hid hsome => ?_⟩
  rw [stored_createInstance hds] at hid
  rw [parent?_createInstance hds] at hsome
  split_ifs at hid with hkey
  · cases hid
    rw [if_pos rfl] at hsome
    cases hsome
    exact ⟨_, _, (handles_createInstance hds hparent _ _).trans (if_pos ⟨rfl, rfl⟩), rfl, hkey⟩
  · rw [if_neg (Nat.ne_of_lt (hnamed key id hid).1)] at hsome
    obtain ⟨tag, handle, hhandle, hcontext, hname⟩ := h.known key id above hid hsome
    refine ⟨tag, handle, ?_, hcontext, hname⟩
    exact h.labelled.keeps_createInstance hds hparent hhandle (hname ▸ hkey)

/-- What loses its handle is no longer stored. -/
theorem removeInstance (parent : ContextId) (coachId instanceId : String) :
    Registered (cs.removeInstance parent coachId instanceId).2 := by
  refine ⟨h.labelled.removeInstance parent coachId instanceId,
    Tagged.removeInstance h.tagged parent coachId instanceId, fun key id above hid hsome => ?_⟩
  obtain ⟨hid, hkept⟩ := (stored_removeInstance cs parent coachId instanceId key id).mp hid
  obtain ⟨tag, handle, hhandle, hcontext, hname⟩ := h.known key id above hid hsome
  refine ⟨tag, handle, ?_, hcontext, hname⟩
  exact h.labelled.keeps_removeInstance hhandle fun heq => hkept (.inl (hname.symm.trans heq))

end Registered

end Contexts

end CoachScript
