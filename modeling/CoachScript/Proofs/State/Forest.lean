import CoachScript.Proofs.State.Grounded
import CoachScript.Proofs.State.History

/-!
# The parents form a forest

* `Contexts.WayUp`: the way from a context to its parent, the parent of that, and so on, to its end.
* `Contexts.Forest`: **every way up ends**, no context is above itself, and paths lead along the way
  up, one link a level, and to its end.
* `Contexts.Linkable`: what a link asks for.
* **`Contexts.forest_after`**: whatever was done to the tree, it is a forest; a context gets a
  parent at most once, by a link that was possible.
-/

namespace CoachScript

/-! ### Ways up -/

namespace Lineage

variable {l : Lineage} {id parent : ContextId}

theorem climb_of_none (h : l.parent? id = none) (levels : Nat) : l.climb id levels = id := by
  unfold climb
  rw [ancestors_of_none h, List.take_nil]
  rfl

theorem climb_of_some (h : l.parent? id = some parent) (levels : Nat) :
    l.climb id (levels + 1) = l.climb parent levels := by
  unfold climb
  rw [ancestors_of_some h, List.take_succ_cons, List.getLast?_cons]
  rfl

theorem top_of_none (h : l.parent? id = none) : l.top id = id := by
  unfold top
  rw [ancestors_of_none h]
  rfl

theorem top_of_some (h : l.parent? id = some parent) : l.top id = l.top parent := by
  unfold top
  rw [ancestors_of_some h, List.getLast?_cons]
  rfl

/-- A link gives the child its parent, and no other context another. -/
theorem parent?_link {l' : Lineage} {child : ContextId} (h : l.link? child parent = some l')
    (id : ContextId) : l'.parent? id = if id = child then some parent else l.parent? id := by
  unfold parent?
  rw [ancestors_link h]
  split_ifs with hid hbelow
  · rfl
  · cases hancestors : l.ancestors id with
    | nil => simp [hancestors] at hbelow
    | cons above rest => rfl
  · rfl

theorem parent?_of_link {l' : Lineage} {child : ContextId} (h : l.link? child parent = some l') :
    l.parent? child = none := by
  unfold link? at h
  split_ifs at h with hfree
  unfold parent?
  rw [hfree.2.1]
  rfl

end Lineage

namespace Contexts

/-- The way up from a context: its parent, the parent of that, and so on, to the end. -/
inductive WayUp (cs : Contexts) : ContextId → List ContextId → Prop
  | top {id : ContextId} (h : cs.parent? id = none) : WayUp cs id []
  | up {id parent : ContextId} {above : List ContextId} (h : cs.parent? id = some parent)
    (hmore : WayUp cs parent above) : WayUp cs id (parent :: above)

/-- The tree is a forest, and paths lead along the ways up. -/
structure Forest (cs : Contexts) : Prop where
  /-- Every way up ends, and the contexts on it are the ancestors. -/
  ways : ∀ id above, cs.WayUp id above ↔ above = cs.ancestors id
  not_above : ∀ id, id ∉ cs.ancestors id
  levels_zero : ∀ id, cs.resolve id (.levels 0) = id
  levels_one : ∀ id, cs.resolve id (.levels 1) = (cs.parent? id).getD id
  levels_add : ∀ id m n,
    cs.resolve (cs.resolve id (.levels m)) (.levels n) = cs.resolve id (.levels (m + n))
  /-- The root is the one context without a parent that the way up leads to. -/
  root : ∀ id other,
    (other ∈ id :: cs.ancestors id ∧ cs.parent? other = none) ↔ other = cs.resolve id .root

section Ways

variable (cs : Contexts)

/-- The way up from a context leads over its ancestors. -/
theorem wayUp_ancestors (id : ContextId) : cs.WayUp id (cs.ancestors id) := by
  generalize habove : cs.ancestors id = above
  induction above generalizing id with
  | nil => exact .top (List.head?_eq_none_iff.mpr habove)
  | cons parent above ih =>
    exact .up (List.head?_eq_some_iff.mpr ⟨above, habove⟩)
      (ih parent (cs.lineage.coherent id parent above habove))

variable {cs}

theorem WayUp.eq_ancestors {id : ContextId} {above : List ContextId} (h : cs.WayUp id above) :
    above = cs.ancestors id := by
  induction h with
  | top h => exact (Lineage.ancestors_of_none h).symm
  | up h _ ih =>
    rw [ih]
    exact (Lineage.ancestors_of_some h).symm

/-- The last context of a way up has no parent, and is the only one of which that holds. -/
theorem WayUp.root {id : ContextId} {above : List ContextId} (h : cs.WayUp id above)
    (other : ContextId) :
    (other ∈ id :: above ∧ cs.parent? other = none) ↔ other = cs.lineage.top id := by
  induction h with
  | @top id h =>
    rw [Lineage.top_of_none h, List.mem_singleton, and_iff_left_iff_imp]
    rintro rfl
    exact h
  | @up id parent above h _ ih =>
    rw [Lineage.top_of_some h, ← ih, List.mem_cons]
    refine and_congr_left fun hother => or_iff_right ?_
    rintro rfl
    exact absurd (h.symm.trans hother) (Option.some_ne_none parent)

theorem climb_climb {id : ContextId} {above : List ContextId} (h : cs.WayUp id above) (m n : Nat) :
    cs.lineage.climb (cs.lineage.climb id m) n = cs.lineage.climb id (m + n) := by
  induction h generalizing m with
  | top h => rw [Lineage.climb_of_none h, Lineage.climb_of_none h, Lineage.climb_of_none h]
  | @up id parent above h _ ih =>
    cases m with
    | zero => rw [Nat.zero_add]; rfl
    | succ m => rw [Lineage.climb_of_some h, Nat.add_right_comm, Lineage.climb_of_some h, ih]

/-- **The parent links of a tree form a forest.** -/
theorem forest (cs : Contexts) : cs.Forest where
  ways id above := by
    refine ⟨WayUp.eq_ancestors, ?_⟩
    rintro rfl
    exact cs.wayUp_ancestors id
  not_above id h := cs.lineage.ne_of_mem_ancestors h rfl
  levels_zero _ := rfl
  levels_one id := by
    unfold resolve
    cases h : cs.parent? id with
    | none => exact Lineage.climb_of_none h 1
    | some parent => exact Lineage.climb_of_some h 0
  levels_add id m n := climb_climb (cs.wayUp_ancestors id) m n
  root id := (cs.wayUp_ancestors id).root

end Ways

/-! ### Links -/

/-- What a link asks for: the child has no parent; it is not the parent and not above it, neither
itself nor by its name. -/
structure Linkable (cs : Contexts) (child parent : ContextId) : Prop where
  free : cs.parent? child = none
  ne : child ≠ parent ∧ (cs.get child).name ≠ (cs.get parent).name
  not_above : ∀ above ∈ cs.ancestors parent, above ≠ child ∧ (cs.get above).name ≠ (cs.get child).name

section Links

variable {cs : Contexts} {child parent : ContextId}

/-- **A link succeeds if and only if it is possible.** -/
theorem link_iff : (∃ ds, cs.link child parent = .ok ds) ↔ cs.Linkable child parent := by
  unfold link
  dsimp only
  constructor
  · rintro ⟨ds, h⟩
    split_ifs at h with hsame hparent hcycle
    rw [not_or] at hsame
    rw [Option.not_isSome_iff_eq_none] at hparent
    refine ⟨hparent, hsame, fun above habove => ?_⟩
    rw [List.any_eq_true, not_exists] at hcycle
    simpa using fun h => hcycle above ⟨habove, h⟩
  · rintro ⟨hfree, hne, hnot⟩
    have hcycle : ¬ ((cs.ancestors parent).any fun id =>
        id == child || (cs.get id).name == (cs.get child).name) := by
      rw [List.any_eq_true]
      rintro ⟨above, habove, h⟩
      simp [hnot above habove] at h
    have hlink : cs.lineage.link? child parent ≠ none := by
      unfold Lineage.link?
      rw [dif_pos ⟨hne.1, Lineage.ancestors_of_none hfree, fun h => (hnot child h).1 rfl⟩]
      exact Option.some_ne_none _
    obtain ⟨lineage, hlineage⟩ := Option.ne_none_iff_exists'.mp hlink
    rw [if_neg (not_or.mpr hne), if_neg (Option.not_isSome_iff_eq_none.mpr hfree), if_neg hcycle,
      hlineage]
    exact ⟨_, rfl⟩

/-- A possible link gives the child its parent, and no other context another. -/
theorem parent?_run_link (h : cs.Linkable child parent) (id : ContextId) :
    ((TreeChange.link child parent).run cs).parent? id =
      if id = child then some parent else cs.parent? id := by
  obtain ⟨ds, hds⟩ := link_iff.mpr h
  obtain ⟨lineage, hlineage, rfl⟩ := link_eq hds
  rw [TreeChange.run_link_of_ok hds]
  exact Lineage.parent?_link hlineage id

/-- A link that is not possible changes nothing. -/
theorem run_link_of_not (h : ¬ cs.Linkable child parent) :
    (TreeChange.link child parent).run cs = cs := by
  cases hds : cs.link child parent with
  | error e => exact TreeChange.run_link_of_error hds
  | ok ds => exact absurd (link_iff.mp ⟨ds, hds⟩) h

end Links

end Contexts

/-! ### Histories -/

/-- A link keeps the parents that there are. -/
theorem Lineage.keeps_parent {l l' : Lineage} {child parent id above : ContextId}
    (hlink : l.link? child parent = some l') (h : l.parent? id = some above) :
    l'.parent? id = some above := by
  have hne : id ≠ child := by
    rintro rfl
    exact absurd (h.symm.trans (parent?_of_link hlink)) (Option.some_ne_none above)
  rw [parent?_link hlink, if_neg hne, h]

/-- Every change of the tree keeps the parents that there are. -/
theorem TreeChange.keeps_parent (change : TreeChange) {cs : Contexts} {id above : ContextId}
    (h : cs.parent? id = some above) : (change.run cs).parent? id = some above := by
  cases change with
  | obtain coachId =>
    show (cs.obtain coachId).2.parent? id = some above
    unfold Contexts.obtain
    cases cs.find? coachId <;> exact h
  | create parent coachId instanceId argument =>
    rcases run_create cs parent coachId instanceId argument with hsame | ⟨child, hcreate⟩
    · rwa [hsame]
    · obtain ⟨-, -, lineage, hlineage, hds⟩ := Contexts.createInstance_new hcreate
      rw [hds]
      exact Lineage.keeps_parent hlineage h
  | remove | reset | resetAll => exact h
  | link child parent =>
    cases hlink : cs.link child parent with
    | error e => rwa [run_link_of_error hlink]
    | ok ds =>
      obtain ⟨lineage, hlineage, hds⟩ := Contexts.link_eq hlink
      rw [run_link_of_ok hlink, hds]
      exact Lineage.keeps_parent hlineage h

namespace Contexts

theorem keeps_parent_after {cs : Contexts} {id above : ContextId} (h : cs.parent? id = some above)
    (changes : List TreeChange) : (cs.after changes).parent? id = some above := by
  induction changes generalizing cs with
  | nil => exact h
  | cons change more ih => exact ih (change.keeps_parent h)

/-- **Whatever was done to a tree, its parents form a forest.** What was done since has changed no
parent; a link is made if and only if it is possible, and else changes nothing. -/
theorem forest_after (changes : List TreeChange) :
    let cs := (∅ : Contexts).after changes
    cs.Forest ∧
      (∀ since id parent, cs.parent? id = some parent →
        (cs.after since).parent? id = some parent) ∧
      ∀ child parent,
        ((∃ ds, cs.link child parent = .ok ds) ↔ cs.Linkable child parent) ∧
        (cs.Linkable child parent → ∀ id, ((TreeChange.link child parent).run cs).parent? id =
          if id = child then some parent else cs.parent? id) ∧
        (¬ cs.Linkable child parent → (TreeChange.link child parent).run cs = cs) := by
  intro cs
  exact ⟨cs.forest, fun since _ _ h => keeps_parent_after h since, fun _ _ =>
    ⟨link_iff, parent?_run_link, run_link_of_not⟩⟩

end Contexts

end CoachScript
