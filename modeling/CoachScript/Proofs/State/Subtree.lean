import CoachScript.Proofs.State.Forest
import CoachScript.Proofs.State.Named
import CoachScript.Proofs.Text.Lowercase

/-!
# Keys and subtrees

What lies below a key is removed by the key alone, while the tree is made of links.

* `toList_instanceName`: the name of an instance is its parent's name, a dot, and two ids.
* `TreeChange.Tended`: a change by ids without a dot, below contexts that are stored.
* `Contexts.Orderly`: every stored context is the one of a coach, or named after a stored parent; what
  holds of coaches, and of instances with their parents, holds then of all (`Orderly.induct`).
* **`Contexts.Orderly.below_iff`**: keys lie below another as their contexts lie below its context.
* **`Contexts.drops_subtree`**: after tended changes, dropping a context drops exactly its subtree.
-/

namespace CoachScript

/-- The text has no dot. -/
def DotFree (text : String) : Prop := '.' ∉ text.toList

instance (text : String) : Decidable (DotFree text) := inferInstanceAs (Decidable (_ ∉ _))

/-! ### Names -/

theorem isSmall_dot : IsSmall '.' := rfl

theorem isSmallText_instanceName (parentName coachId instanceId : String) :
    IsSmallText (instanceName parentName coachId instanceId) := isSmallText_lowercase _

/-- The name of an instance: the parent's, which it leaves as it is, a dot, and the tag's dots. -/
theorem toList_instanceName {parentName : String} (h : IsSmallText parentName)
    (coachId instanceId : String) :
    ∃ tail, (instanceName parentName coachId instanceId).toList = parentName.toList ++ '.' :: tail ∧
      tail.count '.' = (instanceTag coachId instanceId).toList.count '.' := by
  have hfront : ∀ c ∈ parentName.toList ++ ['.'], IsSmall c :=
    List.forall_mem_append.mpr ⟨h, List.forall_mem_singleton.mpr isSmall_dot⟩
  unfold instanceName lowercase
  rw [String.toList_ofList, String.toList_append, String.toList_append,
    show ".".toList = ['.'] from rfl, lowercaseAfter_of_small hfront, List.append_assoc]
  exact ⟨_, rfl, (small_lowercaseAfter _ _).2⟩

theorem count_instanceTag {coachId instanceId : String} (hcoach : DotFree coachId)
    (hinstance : DotFree instanceId) : (instanceTag coachId instanceId).toList.count '.' = 1 := by
  unfold instanceTag
  rw [String.toList_append, String.toList_append, List.count_append, List.count_append,
    List.count_eq_zero.mpr hcoach, List.count_eq_zero.mpr hinstance]
  rfl

theorem dotFree_lowercase {text : String} (h : DotFree text) : DotFree (lowercase text) := by
  unfold DotFree
  rw [← List.count_eq_zero, count_dots_lowercase]
  exact List.count_eq_zero.mpr h

/-! ### Keys below others -/

namespace Contexts

theorem isBelow_iff {key other : String} :
    isBelow key other ↔ key.toList ++ ['.'] <+: other.toList := by
  unfold isBelow
  rw [List.isPrefixOf_iff_prefix, String.toList_append]
  rfl

theorem not_isBelow_of_dotFree {key other : String} (h : DotFree other) : ¬ isBelow key other := by
  rw [isBelow_iff]
  exact fun hfront => h (hfront.subset (List.mem_append_right _ (List.mem_singleton_self _)))

/-- Below a parent is below whatever the parent is below. -/
theorem isBelow_instanceName {key parentName : String} (hsmall : IsSmallText parentName)
    (h : key = parentName ∨ isBelow key parentName) (coachId instanceId : String) :
    isBelow key (instanceName parentName coachId instanceId) := by
  obtain ⟨tail, htail, -⟩ := toList_instanceName hsmall coachId instanceId
  rw [isBelow_iff, htail]
  rcases h with rfl | h
  · exact ⟨tail, List.append_assoc _ _ _⟩
  · exact (isBelow_iff.mp h).trans (List.prefix_append _ _)

/-- A prefix that ends in a dot, of a text that has one dot more than the other part, ends in front
of that dot, or inside the first part. -/
theorem prefix_append_dot {key front tail : List Char} (htail : tail.count '.' = 1)
    (hkey : key.count '.' % 2 = 0) (hfront : front.count '.' % 2 = 0)
    (h : key ++ ['.'] <+: front ++ '.' :: tail) : key = front ∨ key ++ ['.'] <+: front := by
  rcases List.prefix_or_prefix_of_prefix h (List.prefix_append front _) with h' | h'
  · exact .inr h'
  · rcases List.prefix_concat_iff.mp h' with rfl | ⟨rest, rfl⟩
    · exact .inr (List.prefix_refl _)
    · rw [List.append_assoc, List.prefix_append_right_inj] at h
      cases rest with
      | nil => exact .inl (List.append_nil front)
      | cons c rest =>
        -- The key would have one dot more than the first part.
        rw [List.cons_append, List.cons_prefix_cons] at h
        obtain ⟨rfl, hrest⟩ := h
        have hle := hrest.sublist.count_le '.'
        rw [List.count_append, htail] at hle
        rw [List.count_append, List.count_cons_self] at hkey
        have : ['.'].count '.' = 1 := rfl
        omega

/-- A key with an even number of dots lies above an instance as it lies at or above the parent. -/
theorem isBelow_instanceName_iff {key parentName coachId instanceId : String}
    (hsmall : IsSmallText parentName) (hcoach : DotFree coachId) (hinstance : DotFree instanceId)
    (hkey : key.toList.count '.' % 2 = 0) (hparent : parentName.toList.count '.' % 2 = 0) :
    isBelow key (instanceName parentName coachId instanceId) ↔
      key = parentName ∨ isBelow key parentName := by
  refine ⟨fun h => ?_, fun h => isBelow_instanceName hsmall h coachId instanceId⟩
  obtain ⟨tail, htail, hcount⟩ := toList_instanceName hsmall coachId instanceId
  rw [isBelow_iff, htail] at h
  rw [count_instanceTag hcoach hinstance] at hcount
  rw [isBelow_iff, ← String.toList_inj]
  exact prefix_append_dot hcount hkey hparent h

/-! ### Where stored contexts stand -/

/-- The context is the one that is stored under its name. -/
def Stores (cs : Contexts) (id : ContextId) : Prop := cs.stored[(cs.get id).name]? = some id

instance (cs : Contexts) (id : ContextId) : Decidable (cs.Stores id) :=
  inferInstanceAs (Decidable (_ = _))

theorem Named.lt_of_stores {cs : Contexts} (h : cs.Named) {id : ContextId} (hid : cs.Stores id) :
    id < cs.made.size := (h _ id hid).1

/-- Where a stored context stands: it is a coach's, or it is below a stored context and named after
that. -/
inductive Placed (cs : Contexts) (key : String) (id : ContextId) : Prop
  | top (hparent : cs.parent? id = none) (htag : (cs.get id).tag = none) (hsmall : IsSmallText key)
    (hdots : DotFree key)
  | below {parent : ContextId} {instanceId : String} (hparent : cs.parent? id = some parent)
    (hstores : cs.Stores parent) (hcoach : DotFree (cs.get id).coachId)
    (hinstance : DotFree instanceId)
    (hkey : key = instanceName (cs.get parent).name (cs.get id).coachId instanceId)

/-- Every stored context is stored under its name and has its place. -/
structure Orderly (cs : Contexts) : Prop where
  named : cs.Named
  grounded : cs.Grounded
  placed : ∀ key id, cs.stored[key]? = some id → Placed cs key id

theorem Placed.small {cs : Contexts} {key : String} {id : ContextId} (h : Placed cs key id) :
    IsSmallText key := by
  cases h with
  | top _ _ hsmall => exact hsmall
  | below _ _ _ _ hkey => exact hkey ▸ isSmallText_instanceName _ _ _

namespace Orderly

variable {cs : Contexts} (h : Orderly cs)
include h

theorem small_name {id : ContextId} (hid : cs.Stores id) : IsSmallText (cs.get id).name :=
  (h.placed _ id hid).small

/-- An instance has two dots more than its parent. -/
theorem count_instanceName {parent : ContextId} {coachId instanceId : String}
    (hparent : cs.Stores parent) (hcoach : DotFree coachId) (hinstance : DotFree instanceId) :
    (instanceName (cs.get parent).name coachId instanceId).toList.count '.' =
      (cs.get parent).name.toList.count '.' + 2 := by
  obtain ⟨tail, htail, hcount⟩ := toList_instanceName (h.small_name hparent) coachId instanceId
  rw [htail, List.count_append, List.count_cons_self, hcount, count_instanceTag hcoach hinstance]

/-- **What holds of coaches' contexts, and of an instance where it holds of its parent, holds of every
stored context.** -/
theorem induct {P : String → ContextId → Prop}
    (top : ∀ key id, cs.ancestors id = [] → DotFree key → P key id)
    (below : ∀ id parent coachId instanceId, cs.ancestors id = parent :: cs.ancestors parent →
      cs.Stores parent → DotFree coachId → DotFree instanceId → P (cs.get parent).name parent →
        P (instanceName (cs.get parent).name coachId instanceId) id)
    {key : String} {id : ContextId} (hid : cs.stored[key]? = some id) : P key id := by
  have hway := cs.wayUp_ancestors id
  generalize cs.ancestors id = above at hway
  induction hway generalizing key with
  | @top id hnone =>
    cases h.placed key id hid with
    | top _ _ _ hdots => exact top key id (Lineage.ancestors_of_none hnone) hdots
    | below hparent => exact absurd (hnone.symm.trans hparent) nofun
  | @up id parent above hsome _ ih =>
    cases h.placed key id hid with
    | top hparent => exact absurd (hsome.symm.trans hparent) nofun
    | below hparent hstores hcoach hinstance hkey =>
      cases hsome.symm.trans hparent
      rw [hkey]
      exact below id parent _ _ (Lineage.ancestors_of_some hsome) hstores hcoach hinstance (ih hstores)

/-- A key has two dots for each context above its own. -/
theorem count_key {key : String} {id : ContextId} (hid : cs.stored[key]? = some id) :
    key.toList.count '.' = 2 * (cs.ancestors id).length := by
  refine h.induct (P := fun key id => key.toList.count '.' = 2 * (cs.ancestors id).length) ?_ ?_ hid
  · intro key id hnone hdots
    rw [hnone]
    exact List.count_eq_zero.mpr hdots
  · intro id parent coachId instanceId habove hstores hcoach hinstance ih
    rw [h.count_instanceName hstores hcoach hinstance, ih, habove, List.length_cons, Nat.mul_succ]

theorem count_key_even {key : String} {id : ContextId} (hid : cs.stored[key]? = some id) :
    key.toList.count '.' % 2 = 0 := by
  rw [h.count_key hid]
  exact Nat.mul_mod_right 2 _

/-- One key is one context. -/
theorem key_eq_iff {key other : String} {id otherId : ContextId} (hid : cs.stored[key]? = some id)
    (hother : cs.stored[other]? = some otherId) : other = key ↔ otherId = id := by
  constructor
  · rintro rfl
    exact Option.some_inj.mp (hother.symm.trans hid)
  · rintro rfl
    exact h.named.key_unique hother hid

/-- What is above a stored context is stored, and the context is below it by its key, too. -/
theorem below_of_ancestor {other : String} {id otherId : ContextId}
    (hother : cs.stored[other]? = some otherId) (hid : id ∈ cs.ancestors otherId) :
    cs.Stores id ∧ isBelow (cs.get id).name other := by
  refine h.induct (P := fun other otherId => ∀ id ∈ cs.ancestors otherId,
    cs.Stores id ∧ isBelow (cs.get id).name other) ?_ ?_ hother id hid
  · intro other otherId hnone _ id hid
    rw [hnone] at hid
    cases hid
  · intro otherId parent coachId instanceId habove hstores _ _ ih id hid
    have hsmall := h.small_name hstores
    rw [habove, List.mem_cons] at hid
    rcases hid with rfl | hid
    · exact ⟨hstores, isBelow_instanceName hsmall (.inl rfl) coachId instanceId⟩
    · obtain ⟨hstored, hbelow⟩ := ih id hid
      exact ⟨hstored, isBelow_instanceName hsmall (.inr hbelow) coachId instanceId⟩

/-- A key with an even number of dots that others are below is stored, above them. -/
theorem ancestor_of_below {key other : String} {otherId : ContextId}
    (hkey : key.toList.count '.' % 2 = 0) (hother : cs.stored[other]? = some otherId)
    (hbelow : isBelow key other) : ∃ id ∈ cs.ancestors otherId, cs.stored[key]? = some id := by
  refine h.induct (P := fun other otherId => isBelow key other →
    ∃ id ∈ cs.ancestors otherId, cs.stored[key]? = some id) ?_ ?_ hother hbelow
  · intro other otherId _ hdots hbelow
    exact absurd hbelow (not_isBelow_of_dotFree hdots)
  · intro otherId parent coachId instanceId habove hstores hcoach hinstance ih hbelow
    rw [isBelow_instanceName_iff (h.small_name hstores) hcoach hinstance hkey
      (h.count_key_even hstores)] at hbelow
    rw [habove]
    rcases hbelow with rfl | hbelow
    · exact ⟨parent, List.mem_cons_self, hstores⟩
    · obtain ⟨id, hid, hstored⟩ := ih hbelow
      exact ⟨id, List.mem_cons_of_mem parent hid, hstored⟩

/-- **Keys lie below another as their contexts lie below its context.** -/
theorem below_iff {key other : String} {id otherId : ContextId} (hid : cs.stored[key]? = some id)
    (hother : cs.stored[other]? = some otherId) :
    (other = key ∨ isBelow key other) ↔ (otherId = id ∨ id ∈ cs.ancestors otherId) := by
  rw [h.key_eq_iff hid hother]
  refine or_congr_right ⟨fun hbelow => ?_, fun hmem => ?_⟩
  · obtain ⟨above, hmem, habove⟩ := h.ancestor_of_below (h.count_key_even hid) hother hbelow
    cases habove.symm.trans hid
    exact hmem
  · rw [← (h.named key id hid).2]
    exact (h.below_of_ancestor hother hmem).2

end Orderly

/-! ### Dropping -/

/-- What is stored after a context was dropped with its subtree: all but the context and those that
have it among their ancestors. -/
def DropsSubtree (cs : Contexts) (id : ContextId) (ds : Contexts) : Prop :=
  ∀ (key : String) (other : ContextId), ds.stored[key]? = some other ↔
    cs.stored[key]? = some other ∧ ¬ (other = id ∨ id ∈ cs.ancestors other)

theorem removeTree_known {cs : Contexts} {key : String} {id : ContextId}
    (hid : cs.stored[key]? = some id) : (cs.removeTree key).1 = true := by
  unfold removeTree
  dsimp only
  rw [Std.ExtTreeMap.contains_eq_isSome_getElem?, hid]
  rfl

theorem removeInstance_known {cs : Contexts} {parent id : ContextId} {coachId instanceId : String}
    (hid : cs.stored[instanceName (cs.get parent).name coachId instanceId]? = some id) :
    (cs.removeInstance parent coachId instanceId).1 = true := by
  have hknown : ((cs.modify parent (·.unregister coachId instanceId)).removeTree
      (instanceName (cs.get parent).name coachId instanceId)).1 = true := removeTree_known hid
  unfold removeInstance
  dsimp only
  rw [hknown, Bool.or_true]

namespace Orderly

variable {cs : Contexts} (h : Orderly cs) {key : String} {id : ContextId}
include h

theorem drops_removeTree (hid : cs.stored[key]? = some id) :
    cs.DropsSubtree id (cs.removeTree key).2 := by
  intro other otherId
  rw [stored_removeTree]
  exact and_congr_right fun hother => not_congr (h.below_iff hid hother)

/-- Where no instance is stored, none is stored below it, so nothing is dropped. -/
theorem removeTree_absent (hkey : key.toList.count '.' % 2 = 0) (hnone : cs.stored[key]? = none)
    (other : String) : (cs.removeTree key).2.stored[other]? = cs.stored[other]? := by
  refine Option.ext fun otherId => ?_
  rw [stored_removeTree, and_iff_left_iff_imp]
  rintro hother (rfl | hbelow)
  · exact absurd (hnone.symm.trans hother) nofun
  · obtain ⟨above, -, habove⟩ := h.ancestor_of_below hkey hother hbelow
    exact absurd (hnone.symm.trans habove) nofun

end Orderly

end Contexts

/-! ### Changes -/

/-- Who a context is. -/
def Context.label (c : Context) : String × String × Option String := (c.coachId, c.name, c.tag)

/-- A change by ids without a dot; an instance is made below a stored context, and links come with
instances only. -/
def TreeChange.Tended (cs : Contexts) : TreeChange → Prop
  | .obtain coachId => DotFree coachId
  | .create parent coachId instanceId _ => cs.Stores parent ∧ DotFree coachId ∧ DotFree instanceId
  | .remove _ _ _ | .reset _ | .resetAll => True
  | .link _ _ => False

instance (cs : Contexts) : ∀ change : TreeChange, Decidable (change.Tended cs)
  | .obtain coachId => inferInstanceAs (Decidable (DotFree coachId))
  | .create _ _ _ _ => inferInstanceAs (Decidable (_ ∧ _ ∧ _))
  | .remove _ _ _ | .reset _ | .resetAll => .isTrue trivial
  | .link _ _ => .isFalse id

namespace Contexts

theorem Retains.name_eq {cs ds : Contexts} (h : Retains Context.label cs ds) {id : ContextId}
    (hid : id < cs.made.size) : (ds.get id).name = (cs.get id).name :=
  congrArg (·.2.1) (h.same id hid)

/-- A context that was not made yet has no parent. -/
theorem Grounded.parent?_size {cs : Contexts} (h : cs.Grounded) :
    cs.parent? cs.made.size = none := by
  refine Option.eq_none_iff_forall_ne_some.mpr fun parent hparent => ?_
  have hmem : parent ∈ cs.ancestors cs.made.size := List.mem_of_mem_head? hparent
  exact Nat.lt_irrefl _ (h _ parent hmem).1

namespace Orderly

variable {cs ds : Contexts} (h : Orderly cs)
include h

theorem lt_of_stores {id : ContextId} (hid : cs.Stores id) : id < cs.made.size :=
  h.named.lt_of_stores hid

/-- A place stays, where who the contexts are, the link and the parent's key stay. -/
theorem placed_of_retains (hretains : Retains Context.label cs ds) {key : String} {id : ContextId}
    (hid : cs.stored[key]? = some id) (hparent : ds.parent? id = cs.parent? id)
    (hstores : ∀ parent, cs.parent? id = some parent → cs.Stores parent → ds.Stores parent) :
    Placed ds key id := by
  have hlt := (h.named key id hid).1
  have hcoachId : (ds.get id).coachId = (cs.get id).coachId := congrArg (·.1) (hretains.same id hlt)
  have htag : (ds.get id).tag = (cs.get id).tag := congrArg (·.2.2) (hretains.same id hlt)
  cases h.placed key id hid with
  | top hnone htag' hsmall hdots =>
    exact .top (hparent.trans hnone) (htag.trans htag') hsmall hdots
  | below hsome hstored hcoach hinstance hkey =>
    refine .below (hparent.trans hsome) (hstores _ hsome hstored) (hcoachId ▸ hcoach) hinstance ?_
    rw [hretains.name_eq (h.lt_of_stores hstored), hcoachId]
    exact hkey

/-- What is stored under a free key has its place if the new context has. -/
theorem insert {key : String} (hfree : cs.stored[key]? = none)
    (hstored : ds.stored = cs.stored.insert key cs.made.size) (hnamed : ds.Named)
    (hgrounded : ds.Grounded) (hretains : Retains Context.label cs ds)
    (hparent : ∀ id, id < cs.made.size → ds.parent? id = cs.parent? id)
    (hnew : (∀ parent, cs.Stores parent → ds.Stores parent) → Placed ds key cs.made.size) :
    Orderly ds := by
  have hstores (parent : ContextId) (hparent : cs.Stores parent) : ds.Stores parent := by
    unfold Stores
    rw [hretains.name_eq (h.lt_of_stores hparent), hstored, Std.ExtTreeMap.getElem?_insert, if_neg]
    · exact hparent
    · intro hcmp
      cases Std.LawfulEqCmp.eq_of_compare hcmp
      exact absurd (hfree.symm.trans hparent) nofun
  refine ⟨hnamed, hgrounded, fun other id hid => ?_⟩
  rw [hstored, Std.ExtTreeMap.getElem?_insert] at hid
  split_ifs at hid with hother
  · cases hid
    cases Std.LawfulEqCmp.eq_of_compare hother
    exact hnew hstores
  · exact h.placed_of_retains hretains hid (hparent id (h.named other id hid).1) fun parent _ =>
      hstores parent

theorem obtain {coachId : String} (hdots : DotFree coachId) : Orderly (cs.obtain coachId).2 := by
  have hnamed := h.named.obtain coachId
  unfold Contexts.obtain at hnamed ⊢
  cases hfind : cs.find? coachId with
  | some id => exact h
  | none =>
    rw [hfind] at hnamed
    have hretains : Retains Context.label cs (cs.add (lowercase coachId) (.ofCoach coachId)).2 :=
      .add cs _ _
    refine h.insert hfind rfl hnamed (h.grounded.of_lineage rfl hretains.size) hretains
      (fun _ _ => rfl) fun _ => ?_
    refine .top h.grounded.parent?_size ?_ (isSmallText_lowercase coachId) (dotFree_lowercase hdots)
    rw [get_add, if_pos rfl]
    rfl

theorem createInstance {parent child : ContextId} {coachId instanceId argument : String}
    (hcreate : cs.createInstance parent coachId instanceId argument = .ok (child, true, ds))
    (hparent : cs.Stores parent) (hcoach : DotFree coachId) (hinstance : DotFree instanceId) :
    Orderly ds := by
  have hnamed := h.named.createInstance hcreate
  have hlt := h.lt_of_stores hparent
  have hgrounded := h.grounded.createInstance hlt hcreate
  have hretains : Retains Context.label cs ds := .createInstance (fun _ _ => rfl) hcreate
  have hkeep (id : ContextId) (hid : id < cs.made.size) : ds.parent? id = cs.parent? id :=
    congrArg List.head? (h.grounded.ancestors_createInstance hcreate hid)
  obtain ⟨hfree, -, lineage, hlineage, hds⟩ := createInstance_new hcreate
  have hchild : ds.get cs.made.size =
      .ofInstance (cs.get parent).name coachId instanceId argument := by
    rw [hds, get_modify, if_neg fun heq => Nat.ne_of_gt hlt heq.1]
    exact (cs.get_add (instanceName (cs.get parent).name coachId instanceId) _ _).trans (if_pos rfl)
  refine h.insert hfree (by rw [hds]; rfl) hnamed hgrounded hretains hkeep fun hstores => ?_
  have hbelow : ds.parent? cs.made.size = some parent := by
    rw [hds]
    exact (Lineage.parent?_link hlineage _).trans (if_pos rfl)
  refine .below hbelow (hstores parent hparent) ?_ hinstance ?_
  · rwa [hchild]
  · rw [hretains.name_eq hlt, hchild]
    rfl

theorem modify (id : ContextId) {f : Context → Context} (hf : ∀ c, (f c).label = c.label) :
    Orderly (cs.modify id f) := by
  have hretains : Retains Context.label cs (cs.modify id f) := .modify cs id hf
  refine ⟨h.named.modify id fun c => congrArg (·.2.1) (hf c), h.grounded.modify id f,
    fun key other hother => h.placed_of_retains hretains hother rfl fun parent _ hstores => ?_⟩
  unfold Stores
  rw [hretains.name_eq (h.lt_of_stores hstores)]
  exact hstores

/-- Removing a key and those below it leaves no instance without its parent. -/
theorem removeTree (key : String) : Orderly (cs.removeTree key).2 := by
  have hretains : Retains Context.label cs (cs.removeTree key).2 := .of_made rfl
  refine ⟨h.named.removeTree key, h.grounded.of_lineage rfl (Nat.le_refl _), fun other id hid => ?_⟩
  rw [stored_removeTree, not_or] at hid
  obtain ⟨hid, hne, hnot⟩ := hid
  refine h.placed_of_retains hretains hid rfl fun parent hsome hstores => ?_
  refine (stored_removeTree cs key _ parent).mpr ⟨hstores, fun hbelow => hnot ?_⟩
  cases h.placed other id hid with
  | top hnone => exact absurd (hsome.symm.trans hnone) nofun
  | below hsome' _ _ _ hkey =>
    cases hsome.symm.trans hsome'
    rw [hkey]
    exact isBelow_instanceName (h.small_name hstores) (hbelow.imp_left Eq.symm) _ _

end Orderly

theorem Orderly.of_empty {cs : Contexts} (hgrounded : cs.Grounded) (hstored : cs.stored = ∅) :
    Orderly cs := by
  refine ⟨.of_empty hstored, hgrounded, fun key id hid => ?_⟩
  rw [hstored, Std.ExtTreeMap.getElem?_empty] at hid
  cases hid

/-- **Tended changes keep the tree in order.** -/
theorem Orderly.run {cs : Contexts} (h : Orderly cs) {change : TreeChange}
    (htended : change.Tended cs) : Orderly (change.run cs) := by
  cases change with
  | obtain coachId => exact h.obtain htended
  | create parent coachId instanceId argument =>
    obtain ⟨hparent, hcoach, hinstance⟩ := htended
    rcases TreeChange.run_create cs parent coachId instanceId argument with hsame | ⟨child, hcreate⟩
    · rwa [hsame]
    · exact h.createInstance hcreate hparent hcoach hinstance
  | remove parent coachId instanceId =>
    have hrest : Orderly (cs.modify parent (·.unregister coachId instanceId)) :=
      h.modify parent fun _ => rfl
    exact hrest.removeTree _
  | reset key => exact h.removeTree _
  | resetAll => exact .of_empty (h.grounded.of_lineage rfl (Nat.le_refl _)) rfl
  | link => exact htended.elim

/-- What a history of tended changes leaves is in order. -/
theorem orderly_after {changes : List TreeChange}
    (h : TreeChange.Along TreeChange.Tended ∅ changes) : Orderly ((∅ : Contexts).after changes) :=
  after_keeps (fun _ _ htended horderly => horderly.run htended) h (.of_empty .empty rfl)

/-- **After tended changes, dropping a context drops exactly its subtree.** Every stored context has
the name that it is stored under; an instance's parent is the stored context that it is named
after. -/
theorem drops_subtree {changes : List TreeChange}
    (h : TreeChange.Along TreeChange.Tended ∅ changes) :
    let cs := (∅ : Contexts).after changes
    (∀ (key : String) (id : ContextId), cs.stored[key]? = some id →
      (cs.get id).name = key ∧ ((cs.get id).tag.isSome → ∃ parent instanceId,
        cs.parent? id = some parent ∧ cs.Stores parent ∧
          key = instanceName (cs.get parent).name (cs.get id).coachId instanceId)) ∧
    (∀ key id, cs.find? key = some id →
      (cs.reset key).1 = true ∧ cs.DropsSubtree id (cs.reset key).2) ∧
    ∀ parent coachId instanceId,
      let key := instanceName (cs.get parent).name coachId instanceId
      let (known, ds) := cs.removeInstance parent coachId instanceId
      (∀ id, cs.stored[key]? = some id → known = true ∧ cs.DropsSubtree id ds) ∧
        (cs.Stores parent → DotFree coachId → DotFree instanceId → cs.stored[key]? = none →
          ∀ other : String, ds.stored[other]? = cs.stored[other]?) := by
  intro cs
  have horderly : cs.Orderly := orderly_after h
  refine ⟨fun key id hid => ⟨(horderly.named key id hid).2, fun htag => ?_⟩, fun key id hid =>
    ⟨removeTree_known hid, horderly.drops_removeTree hid⟩, fun parent coachId instanceId =>
      ⟨fun id hid => ⟨removeInstance_known hid, horderly.drops_removeTree hid⟩,
        fun hparent hcoach hinstance hnone => ?_⟩⟩
  · cases horderly.placed key id hid with
    | top _ hcoach => exact absurd (hcoach ▸ htag) nofun
    | below hparent hstores _ _ hkey => exact ⟨_, _, hparent, hstores, hkey⟩
  · refine horderly.removeTree_absent ?_ hnone
    rw [horderly.count_instanceName hparent hcoach hinstance, Nat.add_mod_right,
      horderly.count_key_even hparent]

/-- Two instances below one another, the outer one made anew, and removed. -/
theorem drops_subtree_remade :
    let changes : List TreeChange := [.obtain "a", .create 0 "b" "c" "", .create 1 "d" "e" "",
      .remove 0 "B" "c", .create 0 "b" "C" "", .create 3 "d" "e" "", .create 3 "d" "f" "",
      .obtain "ab"]
    let cs := (∅ : Contexts).after changes
    TreeChange.Along TreeChange.Tended ∅ changes ∧
      cs.keys = ["a", "a.b.c", "a.b.c.d.e", "a.b.c.d.f", "ab"] ∧
      cs.DropsSubtree 3 (cs.removeInstance 0 "b" "c").2 ∧
      (cs.removeInstance 0 "b" "c").2.keys = ["a", "ab"] := by
  intro changes cs
  have htended : TreeChange.Along TreeChange.Tended ∅ changes := by decide +kernel
  have hdrops := ((drops_subtree htended).2.2 0 "b" "c").1 3 (by decide +kernel)
  exact ⟨htended, by decide +kernel, hdrops.2, by decide +kernel⟩

end Contexts

end CoachScript
