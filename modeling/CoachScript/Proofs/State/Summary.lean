import CoachScript.Proofs.State.Handles
import Mathlib.Data.List.Nodup
import Mathlib.Data.List.Perm.Basic

/-!
# The summary of a tree of contexts

* `Contexts.Gathers`: the recommendations that are found by way of the handles, with no bound on how
  far that leads.
* `Contexts.subtree`: the stored contexts at or below one.
* **`Contexts.Filed.subtree_perm`**: handles lead to every stored context below one, once.
* `Contexts.Reached`: the trees that changes by small ids leave, with anything on the shelves.
* **`Contexts.summary_reached`**: of these trees the summary ends, and lists what the stored contexts
  at or below one keep, in themselves and in their buckets: each once, in order.
-/

namespace CoachScript

/-! ### The entries of a table -/

namespace ByName

variable {α : Type}

theorem values_eq (table : ByName α) : table.values = table.toList.map (·.2) := by
  have hfold : table.values = table.foldr (fun _ a l => a :: l) [] := by
    obtain ⟨⟨⟨t⟩⟩⟩ := table
    rfl
  rw [hfold, Std.ExtTreeMap.foldr_eq_foldr_toList, List.map_eq_foldr]

theorem mem_values {table : ByName α} {a : α} :
    a ∈ table.values ↔ ∃ name : String, table[name]? = some a := by
  rw [values_eq]
  simp only [List.mem_map, Prod.exists, Std.ExtTreeMap.mem_toList_iff_getElem?_eq_some,
    exists_eq_right]

/-- What holds of the entries of any two names. -/
theorem pairwise_values {table : ByName α} {R : α → α → Prop}
    (h : ∀ (name other : String) (a b : α), name ≠ other → table[name]? = some a →
      table[other]? = some b → R a b) : table.values.Pairwise R := by
  rw [values_eq, List.pairwise_map]
  refine Std.ExtTreeMap.distinct_keys_toList.imp_of_mem ?_
  rintro ⟨name, a⟩ ⟨other, b⟩ ha hb hne
  rw [Std.ExtTreeMap.mem_toList_iff_getElem?_eq_some] at ha hb
  exact h name other a b (fun heq => hne (heq ▸ Std.ReflCmp.compare_self)) ha hb

end ByName

theorem Context.mem_sortedHandles {c : Context} {handle : Handle} :
    handle ∈ c.sortedHandles ↔ ∃ tag : String, c.handles[tag]? = some handle := by
  unfold sortedHandles
  rw [(List.mergeSort_perm _ _).mem_iff, ByName.mem_values]

/-! ### Subtrees -/

/-- Each context on a way up is followed by what is above it. -/
theorem Lineage.suffix_of_mem {l : Lineage} {id above : ContextId} (h : above ∈ id :: l.ancestors id) :
    above :: l.ancestors above <:+ id :: l.ancestors id := by
  rcases List.mem_cons.mp h with rfl | hmem
  · exact List.suffix_refl _
  · obtain ⟨before, after, hsplit⟩ := List.append_of_mem hmem
    rw [l.ancestors_of_append hsplit, hsplit]
    exact ⟨id :: before, rfl⟩

theorem Lineage.ancestors_suffix {l : Lineage} {id above : ContextId}
    (h : above ∈ id :: l.ancestors id) : l.ancestors above <:+ l.ancestors id := by
  rcases List.suffix_cons_iff.mp (suffix_of_mem h) with heq | hsuffix
  · exact ⟨[], (List.cons.inj heq).2⟩
  · exact (List.suffix_cons above _).trans hsuffix

/-- On a way up there is one context of each level. -/
theorem Lineage.eq_of_level {l : Lineage} {id x y : ContextId} (hx : x ∈ id :: l.ancestors id)
    (hy : y ∈ id :: l.ancestors id) (h : (l.ancestors x).length = (l.ancestors y).length) : x = y := by
  have hlength : (x :: l.ancestors x).length = (y :: l.ancestors y).length := congrArg (· + 1) h
  have hsuffix := List.suffix_of_suffix_length_le (suffix_of_mem hx) (suffix_of_mem hy) (Nat.le_of_eq hlength)
  exact (List.cons.inj (hsuffix.eq_of_length hlength)).1

namespace Contexts

/-- The stored contexts at or below one. -/
def subtree (cs : Contexts) (id : ContextId) : List ContextId :=
  cs.stored.values.filter fun other => other = id ∨ id ∈ cs.ancestors other

variable {cs ds : Contexts}

theorem mem_subtree {id other : ContextId} : other ∈ cs.subtree id ↔
    (∃ key : String, cs.stored[key]? = some other) ∧ id ∈ other :: cs.ancestors other := by
  unfold subtree
  rw [List.mem_filter, ByName.mem_values, decide_eq_true_iff, List.mem_cons, eq_comm (a := id)]

theorem Named.nodup_subtree (h : cs.Named) (id : ContextId) : (cs.subtree id).Nodup := by
  refine .filter _ (ByName.pairwise_values fun key other a b hne ha hb => ?_)
  rintro rfl
  exact hne (h.key_unique ha hb)

/-- On the way up to a context there is one right below it. -/
theorem exists_child {id other : ContextId} (h : id ∈ cs.ancestors other) :
    ∃ child ∈ other :: cs.ancestors other, cs.parent? child = some id := by
  have hway := cs.wayUp_ancestors other
  generalize cs.ancestors other = above at h hway
  induction hway with
  | top => cases h
  | @up other parent above hparent _ ih =>
    rcases List.mem_cons.mp h with rfl | hmem
    · exact ⟨other, List.mem_cons_self, hparent⟩
    · obtain ⟨child, hchild, hbelow⟩ := ih hmem
      exact ⟨child, List.mem_cons_of_mem other hchild, hbelow⟩

/-! ### Trees in file -/

/-- The tag, if there is one, is of two ids in small letters without a dot. -/
def SmallTag : String × String × Option String → Prop := fun (_, _, tag?) =>
  ∀ tag ∈ tag?, PlainTag tag ∧ IsSmallText tag

/-- A tree in order, in which instances are registered by ids in small letters. -/
structure Filed (cs : Contexts) : Prop where
  orderly : cs.Orderly
  registered : cs.Registered
  tags : cs.AllLabels SmallTag

namespace Filed

variable (h : Filed cs)
include h

theorem stores {key : String} {id : ContextId} (hid : cs.stored[key]? = some id) : cs.Stores id := by
  unfold Stores
  rw [(h.orderly.named key id hid).2]
  exact hid

/-- The handles of a stored context have the names of its instances, by ids without a dot. -/
theorem name_handle {id : ContextId} {tag : String} {handle : Handle}
    (hhandle : (cs.get id).handles[tag]? = some handle) : ∃ coachId instanceId,
      DotFree coachId ∧ DotFree instanceId ∧
        handle.name = instanceName (cs.get id).name coachId instanceId := by
  have htag := h.registered.tagged id tag handle hhandle
  exact h.registered.labelled.name_of_plainTag (h.tags handle.context tag htag).1 hhandle

theorem lowercase_name {id : ContextId} {tag : String} {handle : Handle}
    (hhandle : (cs.get id).handles[tag]? = some handle) : lowercase handle.name = handle.name := by
  rw [h.registered.labelled id tag handle hhandle]
  exact lowercase_lowercase _

/-- Handles of one context have different names: in small letters a name tells the tag. -/
theorem names_ne {id : ContextId} (hid : cs.Stores id) :
    (cs.get id).sortedHandles.Pairwise fun handle other => handle.name ≠ other.name := by
  unfold Context.sortedHandles
  rw [(List.mergeSort_perm _ _).pairwise_iff Ne.symm]
  refine ByName.pairwise_values fun tag tag' handle handle' hne hhandle hhandle' hname => hne ?_
  have hsmall {tag : String} {handle : Handle} (hhandle : (cs.get id).handles[tag]? = some handle) :
      handle.name = (cs.get id).name ++ "." ++ tag := by
    have htag := (h.tags handle.context tag (h.registered.tagged id tag handle hhandle)).2
    rw [h.registered.labelled id tag handle hhandle]
    refine lowercase_of_small ?_
    unfold IsSmallText
    rw [String.toList_append, String.toList_append]
    exact List.forall_mem_append.mpr ⟨List.forall_mem_append.mpr ⟨h.orderly.small_name hid,
      List.forall_mem_singleton.mpr isSmall_dot⟩, htag⟩
  rw [hsmall hhandle, hsmall hhandle'] at hname
  exact (String.append_right_inj _).mp hname

/-- The stored instance of a handle is below the context that has the handle. -/
theorem parent_of_handle {id child : ContextId} (hid : cs.Stores id) {tag : String} {handle : Handle}
    (hhandle : (cs.get id).handles[tag]? = some handle)
    (hchild : cs.stored[handle.name]? = some child) : cs.parent? child = some id := by
  obtain ⟨coachId, instanceId, hcoach, hinstance, hname⟩ := h.name_handle hhandle
  have hlevel : (cs.ancestors child).length = (cs.ancestors id).length + 1 := by
    have hcount := h.orderly.count_key hchild
    rw [hname, h.orderly.count_instanceName hid hcoach hinstance, h.orderly.count_key hid] at hcount
    omega
  have hbelow : isBelow (cs.get id).name handle.name := by
    rw [hname]
    exact isBelow_instanceName (h.orderly.small_name hid) (.inl rfl) _ _
  rcases (h.orderly.below_iff hid hchild).mp (.inr hbelow) with rfl | hmem
  · omega
  · cases hparent : cs.parent? child with
    | none =>
      rw [show cs.ancestors child = [] from Lineage.ancestors_of_none hparent] at hmem
      cases hmem
    | some parent =>
      have habove : cs.ancestors child = parent :: cs.ancestors parent :=
        Lineage.ancestors_of_some hparent
      rw [habove] at hmem hlevel
      have hsame : parent = id := Lineage.eq_of_level (l := cs.lineage) List.mem_cons_self hmem
        (Nat.succ.inj hlevel)
      rw [hsame]

end Filed

/-- The stored contexts at or below the one that is stored under a key, if any. -/
def subtreeAt (cs : Contexts) (key : String) : List ContextId :=
  (cs.stored[key]?).elim [] cs.subtree

theorem mem_subtreeAt {key : String} {other : ContextId} : other ∈ cs.subtreeAt key ↔
    ∃ child, cs.stored[key]? = some child ∧ other ∈ cs.subtree child := by
  unfold subtreeAt
  cases cs.stored[key]? with
  | none => simp
  | some child => simp

/-- **By its handles a stored context leads to every stored context below it, once.** -/
theorem Filed.subtree_perm (h : Filed cs) {key : String} {id : ContextId}
    (hid : cs.stored[key]? = some id) :
    (id :: (cs.get id).sortedHandles.flatMap fun handle =>
      cs.subtreeAt (lowercase handle.name)).Perm (cs.subtree id) := by
  have hstores := h.stores hid
  -- What a handle leads to lies at or below an instance, and that right below the context.
  have hchild {handle : Handle} (hhandle : handle ∈ (cs.get id).sortedHandles) {other : ContextId}
      (hother : other ∈ cs.subtreeAt (lowercase handle.name)) :
      ∃ child, cs.stored[handle.name]? = some child ∧ cs.ancestors child = id :: cs.ancestors id ∧
        child ∈ other :: cs.ancestors other ∧ ∃ key : String, cs.stored[key]? = some other := by
    obtain ⟨tag, htag⟩ := Context.mem_sortedHandles.mp hhandle
    rw [h.lowercase_name htag] at hother
    obtain ⟨child, hchild, hother⟩ := mem_subtreeAt.mp hother
    obtain ⟨hkey, habove⟩ := mem_subtree.mp hother
    exact ⟨child, hchild, Lineage.ancestors_of_some (h.parent_of_handle hstores htag hchild), habove,
      hkey⟩
  have hbelow {child other : ContextId} (hchild : cs.ancestors child = id :: cs.ancestors id)
      (habove : child ∈ other :: cs.ancestors other) : id ∈ cs.ancestors other :=
    (Lineage.ancestors_suffix habove).subset (Eq.mpr (congrArg (id ∈ ·) hchild) List.mem_cons_self)
  refine (List.perm_ext_iff_of_nodup ?_ (h.orderly.named.nodup_subtree id)).mpr fun other => ?_
  · refine List.nodup_cons.mpr ⟨fun hmem => ?_, List.nodup_flatMap.mpr ⟨fun handle _ => ?_, ?_⟩⟩
    · obtain ⟨handle, hhandle, hother⟩ := List.mem_flatMap.mp hmem
      obtain ⟨child, -, hparent, habove, -⟩ := hchild hhandle hother
      exact cs.forest.not_above id (hbelow hparent habove)
    · unfold subtreeAt
      cases cs.stored[lowercase handle.name]? with
      | none => exact List.nodup_nil
      | some child => exact h.orderly.named.nodup_subtree child
    · -- Two instances right below the context are at one level, so nothing is below both.
      refine (h.names_ne hstores).imp_of_mem fun hhandle hhandle' hne other hother hother' => ?_
      obtain ⟨child, hstored, hparent, habove, -⟩ := hchild hhandle hother
      obtain ⟨child', hstored', hparent', habove', -⟩ := hchild hhandle' hother'
      have hsame : child = child' := Lineage.eq_of_level (l := cs.lineage) habove habove'
        (congrArg List.length (hparent.trans hparent'.symm))
      exact hne (h.orderly.named.key_unique hstored (hsame ▸ hstored'))
  · rw [List.mem_cons, List.mem_flatMap, mem_subtree]
    constructor
    · rintro (rfl | ⟨handle, hhandle, hother⟩)
      · exact ⟨⟨key, hid⟩, List.mem_cons_self⟩
      · obtain ⟨child, -, hparent, habove, hkey⟩ := hchild hhandle hother
        exact ⟨hkey, List.mem_cons_of_mem other (hbelow hparent habove)⟩
    · rintro ⟨⟨otherKey, hother⟩, habove⟩
      rcases List.mem_cons.mp habove with rfl | habove
      · exact .inl rfl
      · obtain ⟨child, hchildAbove, hparent⟩ := exists_child habove
        obtain ⟨childKey, hstored⟩ : ∃ childKey : String, cs.stored[childKey]? = some child := by
          rcases List.mem_cons.mp hchildAbove with rfl | hmem
          · exact ⟨otherKey, hother⟩
          · exact ⟨_, (h.orderly.below_of_ancestor hother hmem).1⟩
        obtain ⟨tag, handle, hhandle, -, rfl⟩ := h.registered.known childKey child id hstored hparent
        refine .inr ⟨handle, Context.mem_sortedHandles.mpr ⟨tag, hhandle⟩, ?_⟩
        rw [h.lowercase_name hhandle]
        exact mem_subtreeAt.mpr ⟨child, hstored, mem_subtree.mpr ⟨⟨otherKey, hother⟩, hchildAbove⟩⟩

/-! ### Gathering -/

/-- The recommendations that are found from a key on: those of the context that is stored under it,
and those that are found from the names of its handles on. -/
inductive Gathers (cs : Contexts) : String → List Recommendation → Prop
  | absent {key : String} (hkey : cs.stored[key]? = none) : Gathers cs key []
  | found {key : String} {id : ContextId} {below : Handle → List Recommendation}
    (hkey : cs.stored[key]? = some id)
    (hbelow : ∀ handle ∈ (cs.get id).sortedHandles, Gathers cs (lowercase handle.name) (below handle)) :
    Gathers cs key
      ((cs.get id).ownRecommendations ++ (cs.get id).sortedHandles.flatMap below)

/-- The name of a handle has more dots than its context's. -/
theorem Labelled.count_dots_lt (h : cs.Labelled) {id : ContextId} {handle : Handle}
    (hhandle : handle ∈ (cs.get id).sortedHandles) :
    (cs.get id).name.toList.count '.' < (lowercase handle.name).toList.count '.' := by
  obtain ⟨tag, htag⟩ := Context.mem_sortedHandles.mp hhandle
  have hdot : ".".toList.count '.' = 1 := rfl
  rw [h id tag handle htag, count_dots_lowercase, count_dots_lowercase, String.toList_append,
    String.toList_append, List.count_append, List.count_append, hdot]
  exact Nat.lt_of_lt_of_le (Nat.lt_succ_self _) (Nat.le_add_right _ _)

/-- **Gathering ends**, with no way cut short: names get more dots on the way down, so no key that was
visited is asked for again. -/
theorem gathers (hnamed : cs.Named) (hlabelled : cs.Labelled) (pool : ByName ContextId) (key : String)
    (hpool : ∀ other : String, key.toList.count '.' ≤ other.toList.count '.' →
      pool[other]? = cs.stored[other]?) : cs.Gathers key (cs.gather pool key) := by
  fun_induction Contexts.gather cs pool key with
  | case1 pool key hnone => exact .absent ((hpool key (Nat.le_refl _)).symm.trans hnone)
  | case2 pool key id hid hsize ih =>
    have hkey := (hpool key (Nat.le_refl _)).symm.trans hid
    refine .found hkey fun handle hhandle => ih handle fun other hother => ?_
    have hmore := hlabelled.count_dots_lt hhandle
    rw [(hnamed key id hkey).2] at hmore
    have hlt := Nat.lt_of_lt_of_le hmore hother
    rw [Std.ExtTreeMap.getElem?_erase, if_neg fun heq => ?_]
    · exact hpool other (Nat.le_of_lt hlt)
    · cases Std.LawfulEqCmp.eq_of_compare heq
      exact Nat.lt_irrefl _ hlt

/-- A way down: from a key to the context that is stored under it, and on from the names of that
context's handles. -/
inductive Leads (cs : Contexts) : String → ContextId → Prop
  | here {key : String} {id : ContextId} (hkey : cs.stored[key]? = some id) : Leads cs key id
  | down {key : String} {id other : ContextId} {handle : Handle} (hkey : cs.stored[key]? = some id)
    (hhandle : handle ∈ (cs.get id).sortedHandles) (hbelow : Leads cs (lowercase handle.name) other) :
    Leads cs key other

/-- **What is gathered is what the contexts on the ways down have.** -/
theorem Gathers.mem_iff {key : String} {rs : List Recommendation} (h : cs.Gathers key rs)
    (r : Recommendation) :
    r ∈ rs ↔ ∃ other, cs.Leads key other ∧ r ∈ (cs.get other).ownRecommendations := by
  induction h with
  | absent hkey =>
    refine iff_of_false List.not_mem_nil ?_
    rintro ⟨other, hother | hother, -⟩ <;> exact absurd (hkey.symm.trans hother) nofun
  | @found key id below hkey _ ih =>
    rw [List.mem_append, List.mem_flatMap]
    constructor
    · rintro (hown | ⟨handle, hhandle, hr⟩)
      · exact ⟨id, .here hkey, hown⟩
      · obtain ⟨other, hleads, hother⟩ := (ih handle hhandle).mp hr
        exact ⟨other, .down hkey hhandle hleads, hother⟩
    · rintro ⟨other, hleads, hother⟩
      cases hleads with
      | here hid =>
        cases hkey.symm.trans hid
        exact .inl hother
      | down hid hhandle hbelow =>
        cases hkey.symm.trans hid
        exact .inr ⟨_, hhandle, (ih _ hhandle).mpr ⟨other, hbelow, hother⟩⟩

theorem Gathers.perm (h : Filed cs) {key : String} {rs : List Recommendation}
    (hgathers : cs.Gathers key rs) :
    rs.Perm ((cs.subtreeAt key).flatMap fun other => (cs.get other).ownRecommendations) := by
  induction hgathers with
  | absent hkey =>
    unfold subtreeAt
    rw [hkey]
    exact .refl _
  | @found key id below hkey _ ih =>
    have hunder := List.Perm.flatMap_left _ ih
    rw [← List.flatMap_assoc] at hunder
    have hsubtree : cs.subtreeAt key = cs.subtree id := by
      unfold subtreeAt
      rw [hkey]
      rfl
    have hbelow := (h.subtree_perm hkey).flatMap_right fun other => (cs.get other).ownRecommendations
    rw [List.flatMap_cons] at hbelow
    rw [hsubtree]
    exact (hunder.append_left _).trans hbelow

end Contexts

/-! ### What is kept, and its order -/

/-- The recommendations in a context itself and in all its buckets. -/
def Context.kept (c : Context) : List Recommendation :=
  c.recommendations.table.values ++ c.buckets.values.flatMap (·.table.values)

theorem Context.ownRecommendations_perm (c : Context) : c.ownRecommendations.Perm c.kept :=
  (List.mergeSort_perm _ _).append (.flatMap_left _ fun _ _ => List.mergeSort_perm _ _)

theorem Recommendation.le_iff {r s : Recommendation} :
    r.le s ↔ r.order < s.order ∨ r.order = s.order ∧ r.id ≤ s.id := by
  unfold le
  rw [Bool.or_eq_true, Bool.and_eq_true, decide_eq_true_iff, beq_iff_eq, decide_eq_true_iff]

/-- Shown recommendations are in order of their ranks, and then of their ids. -/
theorem pairwise_sortRecommendations (rs : List Recommendation) : (sortRecommendations rs).Pairwise
    fun r s => r.order < s.order ∨ r.order = s.order ∧ r.id ≤ s.id := by
  have htrans (a b c : Recommendation) (hab : a.le b) (hbc : b.le c) : a.le c := by
    rw [Recommendation.le_iff] at hab hbc ⊢
    rcases hab with hab | ⟨hab, hids⟩ <;> rcases hbc with hbc | ⟨hbc, hids'⟩
    · exact .inl (Int.lt_trans hab hbc)
    · exact .inl (hbc ▸ hab)
    · exact .inl (hab ▸ hbc)
    · exact .inr ⟨hab.trans hbc, String.le_trans hids hids'⟩
  have htotal (a b : Recommendation) : a.le b || b.le a := by
    rw [Bool.or_eq_true, Recommendation.le_iff, Recommendation.le_iff]
    rcases Int.lt_trichotomy a.order b.order with hlt | heq | hgt
    · exact .inl (.inl hlt)
    · exact (String.le_total a.id b.id).imp (fun hle => .inr ⟨heq, hle⟩) fun hle =>
        .inr ⟨heq.symm, hle⟩
    · exact .inr (.inl hgt)
  exact (List.pairwise_mergeSort htrans htotal rs).imp Recommendation.le_iff.mp

/-! ### Trees that are reached -/

/-- An instance is created by ids in small letters. -/
def TreeChange.Small : TreeChange → Prop
  | .create _ coachId instanceId _ => lowercase coachId = coachId ∧ lowercase instanceId = instanceId
  | .obtain _ | .remove _ _ _ | .reset _ | .resetAll | .link _ _ => True

instance : ∀ change : TreeChange, Decidable change.Small
  | .create _ _ _ _ => inferInstanceAs (Decidable (_ ∧ _))
  | .obtain _ | .remove _ _ _ | .reset _ | .resetAll | .link _ _ => .isTrue trivial

namespace Contexts

/-- The trees that tended changes by small ids leave, with any recommendations put where a context's
are kept, also that of a context which is no longer stored. -/
inductive Reached : Contexts → Prop
  | start : Reached ∅
  | change {cs : Contexts} {change : TreeChange} (h : Reached cs) (htended : change.Tended cs)
    (hsmall : change.Small) : Reached (change.run cs)
  | shelve {cs : Contexts} (h : Reached cs) (id : ContextId)
    (f : Recommendations → Recommendations) : Reached (cs.updateShelf f (cs.shelf id))

namespace Filed

theorem empty : Filed ∅ := by
  refine ⟨.of_empty .empty rfl, .empty, .empty nofun⟩

variable {cs ds : Contexts} (h : Filed cs)
include h

theorem obtain {coachId : String} (hdots : DotFree coachId) : Filed (cs.obtain coachId).2 :=
  ⟨h.orderly.obtain hdots, h.registered.obtain h.orderly.grounded coachId, h.tags.obtain nofun⟩

theorem createInstance {parent child : ContextId} {coachId instanceId argument : String}
    (hds : cs.createInstance parent coachId instanceId argument = .ok (child, true, ds))
    (hparent : cs.Stores parent) (hcoach : DotFree coachId) (hinstance : DotFree instanceId)
    (hsmall : lowercase coachId = coachId ∧ lowercase instanceId = instanceId) : Filed ds := by
  have hlt := h.orderly.lt_of_stores hparent
  refine ⟨h.orderly.createInstance hds hparent hcoach hinstance,
    h.registered.createInstance h.orderly.named hds hlt, h.tags.createInstance hds hlt ?_⟩
  rintro tag ⟨⟩
  refine ⟨⟨coachId, instanceId, hcoach, hinstance, rfl⟩, ?_⟩
  have hfront := isSmallText_lowercase coachId
  have hback := isSmallText_lowercase instanceId
  rw [hsmall.1] at hfront
  rw [hsmall.2] at hback
  unfold IsSmallText instanceTag
  rw [String.toList_append, String.toList_append]
  exact List.forall_mem_append.mpr ⟨List.forall_mem_append.mpr ⟨hfront,
    List.forall_mem_singleton.mpr isSmall_dot⟩, hback⟩

theorem removeTree (key : String) : Filed (cs.removeTree key).2 :=
  ⟨h.orderly.removeTree key, h.registered.mono (fun _ => rfl) (fun _ => rfl)
    (fun other id hid => ((stored_removeTree cs key other id).mp hid).1) fun _ _ _ => rfl,
    h.tags.of_label fun _ => rfl⟩

theorem removeInstance (parent : ContextId) (coachId instanceId : String) :
    Filed (cs.removeInstance parent coachId instanceId).2 :=
  ⟨(h.orderly.modify parent (f := (·.unregister coachId instanceId)) fun _ => rfl).removeTree _,
    h.registered.removeInstance parent coachId instanceId,
    h.tags.of_label (label_removeInstance cs parent coachId instanceId)⟩

/-- A change of a context that leaves it its handles. -/
theorem modify (id : ContextId) {f : Context → Context} (hlabel : ∀ c, (f c).label = c.label)
    (hhandles : ∀ c, (f c).handles = c.handles) : Filed (cs.modify id f) := by
  have hlabels (other : ContextId) := label_modify cs id other hlabel
  refine ⟨h.orderly.modify id hlabel, h.registered.mono hlabels (fun other => ?_)
    (fun _ _ hid => hid) fun _ _ _ => rfl, h.tags.of_label hlabels⟩
  rw [get_modify]
  split_ifs with hother
  · rw [hhandles, hother.1]
  · rfl

/-- **Tended changes by small ids keep the tree in file.** -/
theorem run {change : TreeChange} (htended : change.Tended cs) (hsmall : change.Small) :
    Filed (change.run cs) := by
  cases change with
  | obtain coachId => exact h.obtain htended
  | create parent coachId instanceId argument =>
    obtain ⟨hparent, hcoach, hinstance⟩ := htended
    rcases TreeChange.run_create cs parent coachId instanceId argument with hsame | ⟨child, hcreate⟩
    · rwa [hsame]
    · exact h.createInstance hcreate hparent hcoach hinstance hsmall
  | remove parent coachId instanceId => exact h.removeInstance parent coachId instanceId
  | reset key => exact h.removeTree _
  | resetAll =>
    refine ⟨h.orderly.run htended, h.registered.mono (fun _ => rfl) (fun _ => rfl)
      (fun key id hid => ?_) fun _ _ _ => rfl, h.tags.of_label fun _ => rfl⟩
    cases hid
  | link => exact htended.elim

end Filed

theorem Reached.filed {cs : Contexts} (h : cs.Reached) : cs.Filed := by
  induction h with
  | start => exact .empty
  | change _ htended hsmall ih => exact ih.run htended hsmall
  | @shelve cs _ id f ih =>
    cases cs.shelf id with
    | own id => exact ih.modify id (fun _ => rfl) fun _ => rfl
    | bucket id tag => exact ih.modify id (fun _ => rfl) fun _ => rfl

/-- What a sequence of changes leaves. -/
theorem Reached.after {cs : Contexts} (h : cs.Reached) {changes : List TreeChange}
    (halong : TreeChange.Along (fun cs change => change.Tended cs ∧ change.Small) cs changes) :
    (cs.after changes).Reached :=
  after_keeps (fun _ _ hkind hreached => hreached.change hkind.1 hkind.2) halong h

/-- **The summary of a stored context loses and repeats nothing.** Gathering ends; what it finds is what
the context and the stored ones below it keep, each in itself and in all its buckets; and it is shown in
order of ranks and ids. -/
theorem summary_reached {cs : Contexts} (h : cs.Reached) {key : String} {id : ContextId}
    (hid : cs.find? key = some id) :
    ∃ rs, cs.Gathers (lowercase key) rs ∧ cs.summary key = .ok (sortRecommendations rs) ∧
      (sortRecommendations rs).Perm ((cs.subtree id).flatMap fun other => (cs.get other).kept) ∧
      (cs.subtree id).Nodup ∧ (sortRecommendations rs).Pairwise
        fun r s => r.order < s.order ∨ r.order = s.order ∧ r.id ≤ s.id := by
  have hfiled := h.filed
  have hgathers := gathers hfiled.orderly.named hfiled.registered.labelled cs.stored (lowercase key)
    fun _ _ => rfl
  refine ⟨_, hgathers, ?_, ?_, hfiled.orderly.named.nodup_subtree id, pairwise_sortRecommendations _⟩
  · unfold summary contains
    rw [hid]
    rfl
  · have hfound := hgathers.perm hfiled
    rw [show cs.subtreeAt (lowercase key) = cs.subtree id from congrArg (·.elim [] cs.subtree) hid]
      at hfound
    exact ((List.mergeSort_perm _ _).trans hfound).trans
      (.flatMap_left _ fun other _ => (cs.get other).ownRecommendations_perm)

/-- An instance with one below it is dropped and made anew. Its parent keeps what both the first and the
second one have put into its bucket. -/
theorem summary_reached_remade :
    let put (id : ContextId) (name : String) (order : Int) (cs : Contexts) : Contexts :=
      cs.updateShelf (·.add ⟨name, order, "", "", [], none⟩) (cs.shelf id)
    let grown := (∅ : Contexts).after [.obtain "a", .create 0 "b" "c" "", .create 1 "d" "e" ""]
    let remade := (put 2 "lost" 1 (put 1 "first" 4 (put 0 "own" 3 grown))).after
      [.reset "A.b.c", .create 0 "b" "c" "", .create 3 "d" "f" ""]
    let cs := put 4 "inner" 2 (put 3 "second" 4 (put 1 "late" 4 remade))
    cs.Reached ∧ cs.find? "A" = some 0 ∧ cs.keys = ["a", "a.b.c", "a.b.c.d.f"] ∧
      ∃ rs, cs.summary "A" = .ok rs ∧
        (rs.map (·.id)).Perm ["own", "first", "late", "second", "inner"] := by
  intro put grown remade cs
  have hgrown : grown.Reached := Reached.start.after (by decide +kernel)
  have hremade : remade.Reached :=
    (((hgrown.shelve 0 _).shelve 1 _).shelve 2 _).after (by decide +kernel)
  have hcs : cs.Reached := ((hremade.shelve 1 _).shelve 3 _).shelve 4 _
  have hid : cs.find? "A" = some 0 := by decide +kernel
  have hkept : ((cs.subtree 0).flatMap fun other => (cs.get other).kept).map (·.id) =
      ["own", "first", "late", "second", "inner"] := by decide +kernel
  obtain ⟨rs, -, hsummary, hperm, -, -⟩ := summary_reached hcs hid
  exact ⟨hcs, hid, by decide +kernel, _, hsummary, hkept ▸ hperm.map (·.id)⟩

end Contexts

end CoachScript
