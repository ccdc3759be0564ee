import CoachScript.Proofs.State.Subtree

/-!
# Removals that are not reported

A removal answers whether the key itself was there, while it drops every key that goes on with a dot.

* `Contexts.Unreported`: an operation answers `false`, and yet something is stored no longer.
* `Contexts.Hollow`: a key is not stored, but keys below it are.
* `Contexts.unreported_removeTree_iff`, `Contexts.unreported_removeInstance_iff`: what is hollow is removed
  without a report, and nothing else.
* `Contexts.Orderly.hollow_iff`: in an orderly tree, the hollow keys are those that stop half way between
  a context and an instance of it.
* **`Contexts.unreported_iff`**: all of that together.
-/

namespace CoachScript.Contexts

variable {cs : Contexts}

/-! ### What removals drop -/

/-- A removal drops nothing if and only if neither the key nor anything below it is stored. -/
theorem removeTree_keeps_iff {key : String} : (cs.removeTree key).2.stored = cs.stored ↔
    ∀ other, other = key ∨ isBelow key other → cs.stored[other]? = none := by
  constructor
  · intro h other hother
    refine Option.eq_none_iff_forall_ne_some.mpr fun id hid => ?_
    have hkept := hid
    rw [← h, stored_removeTree] at hkept
    exact hkept.2 hother
  · intro h
    refine Std.ExtTreeMap.ext_getElem? fun other => Option.ext fun id => ?_
    rw [stored_removeTree, and_iff_left_iff_imp]
    exact fun hid hother => absurd ((h other hother).symm.trans hid) nofun

/-- A removal answers whether the key is stored. -/
theorem removeTree_eq_false_iff {key : String} :
    (cs.removeTree key).1 = false ↔ cs.stored[key]? = none := by
  unfold removeTree
  dsimp only
  rw [Std.ExtTreeMap.contains_eq_isSome_getElem?, Option.isSome_eq_false_iff, Option.isNone_iff_eq_none]

/-! ### Hollow keys -/

/-- The operation answers `false`, and yet something is stored no longer. -/
def Unreported (cs : Contexts) (result : Bool × Contexts) : Prop :=
  result.1 = false ∧ result.2.stored ≠ cs.stored

/-- The key is not stored, but keys below it are. -/
def Hollow (cs : Contexts) (key : String) : Prop :=
  cs.stored[key]? = none ∧ ∃ other id, cs.stored[other]? = some id ∧ isBelow key other

theorem unreported_removeTree_iff {key : String} :
    cs.Unreported (cs.removeTree key) ↔ cs.Hollow key := by
  unfold Unreported Hollow
  rw [removeTree_eq_false_iff]
  refine and_congr_right fun hnone => ?_
  rw [ne_eq, removeTree_keeps_iff]
  constructor
  · intro h
    obtain ⟨other, h⟩ := Classical.not_forall.mp h
    obtain ⟨hother, hstored⟩ := Classical.not_imp.mp h
    obtain ⟨id, hid⟩ := Option.ne_none_iff_exists'.mp hstored
    refine ⟨other, id, hid, hother.resolve_left ?_⟩
    rintro rfl
    exact hstored hnone
  · rintro ⟨other, id, hid, hbelow⟩ h
    exact absurd ((h other (.inr hbelow)).symm.trans hid) nofun

theorem unreported_removeInstance_iff {parent : ContextId} {coachId instanceId : String} :
    cs.Unreported (cs.removeInstance parent coachId instanceId) ↔
      (cs.get parent).handle? coachId instanceId = none ∧
        cs.Hollow (instanceName (cs.get parent).name coachId instanceId) := by
  have htree : (cs.modify parent (·.unregister coachId instanceId)).Unreported
      ((cs.modify parent (·.unregister coachId instanceId)).removeTree
        (instanceName (cs.get parent).name coachId instanceId)) ↔
      cs.Hollow (instanceName (cs.get parent).name coachId instanceId) := unreported_removeTree_iff
  rw [← htree, ← Option.isNone_iff_eq_none, ← Option.isSome_eq_false_iff]
  unfold Unreported removeInstance
  dsimp only
  rw [Bool.or_eq_false_iff, and_assoc]
  rfl

/-! ### Orderly trees -/

/-- Of two keys above a third one, one is above the other. -/
theorem isBelow_of_isBelow {key key' other : String} (h : isBelow key other)
    (h' : isBelow key' other) : key = key' ∨ isBelow key key' ∨ isBelow key' key := by
  simp only [isBelow_iff, ← String.toList_inj] at h h' ⊢
  rcases List.prefix_or_prefix_of_prefix h h' with hfront | hfront
  · rcases List.prefix_concat_iff.mp hfront with heq | hfront
    · exact .inl (List.append_cancel_right heq)
    · exact .inr (.inl hfront)
  · rcases List.prefix_concat_iff.mp hfront with heq | hfront
    · exact .inl (List.append_cancel_right heq).symm
    · exact .inr (.inr hfront)

/-- What lies below a key has more dots. -/
theorem count_lt_of_isBelow {key other : String} (h : isBelow key other) :
    key.toList.count '.' < other.toList.count '.' := by
  have hle := (isBelow_iff.mp h).sublist.count_le '.'
  rw [List.count_append] at hle
  exact Nat.lt_of_succ_le hle

namespace Orderly

variable (h : cs.Orderly)
include h

/-- **In an orderly tree, the hollow keys are those that stop half way between a context and an instance
of it.** -/
theorem hollow_iff {key : String} : cs.Hollow key ↔ ∃ id parent, cs.Stores id ∧
    cs.parent? id = some parent ∧ isBelow (cs.get parent).name key ∧ isBelow key (cs.get id).name := by
  constructor
  · rintro ⟨hnone, other, id, hid, hbelow⟩
    refine h.induct (P := fun other id => cs.stored[other]? = some id → isBelow key other → _) ?_ ?_
      hid hid hbelow
    · intro other id _ hdots _ hbelow
      exact absurd hbelow (not_isBelow_of_dotFree hdots)
    · intro id parent coachId instanceId habove hstores _ _ ih hid hbelow
      have hfront := isBelow_instanceName (h.small_name hstores) (.inl rfl) coachId instanceId
      rcases isBelow_of_isBelow hbelow hfront with rfl | hup | hdown
      · exact absurd (hnone.symm.trans hstores) nofun
      · exact ih hstores hup
      · have hname := (h.named _ id hid).2
        refine ⟨id, parent, ?_, congrArg List.head? habove, hdown, hname ▸ hbelow⟩
        unfold Stores
        rwa [hname]
  · rintro ⟨id, parent, hid, hparent, hfront, hbelow⟩
    refine ⟨Option.eq_none_iff_forall_ne_some.mpr fun above habove => ?_, _, id, hid, hbelow⟩
    -- An instance has two dots more than its parent, so that the key has an odd number of dots.
    have habove' : cs.ancestors id = parent :: cs.ancestors parent := Lineage.ancestors_of_some hparent
    have hstores := (h.below_of_ancestor hid (habove' ▸ List.mem_cons_self)).1
    have hcount := h.count_key hid
    rw [habove', List.length_cons] at hcount
    have hparentCount := h.count_key hstores
    have hkeyCount := h.count_key habove
    have hlow := count_lt_of_isBelow hfront
    have hhigh := count_lt_of_isBelow hbelow
    omega

/-- No instance with ids without a dot has a hollow name, below a stored parent. -/
theorem not_hollow_instanceName {parent : ContextId} {coachId instanceId : String}
    (hparent : cs.Stores parent) (hcoach : DotFree coachId) (hinstance : DotFree instanceId) :
    ¬ cs.Hollow (instanceName (cs.get parent).name coachId instanceId) := by
  rintro ⟨hnone, other, id, hid, hbelow⟩
  have heven : (instanceName (cs.get parent).name coachId instanceId).toList.count '.' % 2 = 0 := by
    rw [h.count_instanceName hparent hcoach hinstance, Nat.add_mod_right, h.count_key_even hparent]
  obtain ⟨above, -, habove⟩ := h.ancestor_of_below heven hid hbelow
  exact absurd (hnone.symm.trans habove) nofun

end Orderly

/-! ### What is removed without a report -/

/-- **Removals that are not reported.** A reset answers `false` and yet drops something if and only if the
key is hollow; so does the removal of an instance that its parent has no handle of if and only if the
instance's name is hollow. In an orderly tree the former are the keys that stop half way between a context
and an instance of it, and the latter never happens for ids without a dot, below a stored parent. -/
theorem unreported_iff (cs : Contexts) :
    (∀ key, cs.Unreported (cs.reset key) ↔ cs.Hollow (lowercase key)) ∧
      (∀ parent coachId instanceId, cs.Unreported (cs.removeInstance parent coachId instanceId) ↔
        (cs.get parent).handle? coachId instanceId = none ∧
          cs.Hollow (instanceName (cs.get parent).name coachId instanceId)) ∧
      (cs.Orderly →
        (∀ key, cs.Unreported (cs.reset key) ↔ ∃ id parent, cs.Stores id ∧
          cs.parent? id = some parent ∧ isBelow (cs.get parent).name (lowercase key) ∧
            isBelow (lowercase key) (cs.get id).name) ∧
        ∀ parent coachId instanceId, cs.Stores parent → DotFree coachId → DotFree instanceId →
          ¬ cs.Unreported (cs.removeInstance parent coachId instanceId)) := by
  refine ⟨fun key => unreported_removeTree_iff, fun parent coachId instanceId =>
    unreported_removeInstance_iff, fun h => ⟨fun key => ?_, fun parent coachId instanceId hparent hcoach
      hinstance hunreported => ?_⟩⟩
  · exact unreported_removeTree_iff.trans h.hollow_iff
  · exact h.not_hollow_instanceName hparent hcoach hinstance
      (unreported_removeInstance_iff.mp hunreported).2

/-- A removal takes an instance with a dot in its id for one below another, and a reset stops half way to
an instance. -/
theorem unreported_iff_dotted :
    let dotted := (∅ : Contexts).after [.obtain "a", .create 0 "b" "c.d" ""]
    let orderly := (∅ : Contexts).after [.obtain "a", .create 0 "b" "c" ""]
    dotted.Unreported (dotted.removeInstance 0 "b" "c") ∧
      (dotted.removeInstance 0 "b" "c").2.keys = ["a"] ∧ orderly.Orderly ∧
      orderly.Unreported (orderly.reset "A.b") ∧ (orderly.reset "A.b").2.keys = ["a"] ∧
      ¬ orderly.Unreported (orderly.removeInstance 0 "B" "d") := by
  intro dotted orderly
  have horderly : orderly.Orderly := orderly_after (by decide +kernel)
  obtain ⟨hreset, hremove⟩ := (unreported_iff orderly).2.2 horderly
  have hdotted := ((unreported_iff dotted).2.1 0 "b" "c").mpr
    ⟨by decide +kernel, by decide +kernel, "a.b.c.d", 1, by decide +kernel, by decide +kernel⟩
  have hhalf := (hreset "A.b").mpr
    ⟨1, 0, by decide +kernel, by decide +kernel, by decide +kernel, by decide +kernel⟩
  exact ⟨hdotted, by decide +kernel, horderly, hhalf, by decide +kernel,
    hremove 0 "B" "d" (by decide +kernel) (by decide +kernel) (by decide +kernel)⟩

end CoachScript.Contexts
