import CoachScript.Builtin.Run
import CoachScript.Proofs.Eval.Congruence

/-!
# Commands that write respect what they read

A command that writes reads one part of the world and writes that part. It respects every relation of
worlds in which the part reads the same and is written alike.

* `respects_addScore`, `respects_capScore`: so it is with scores.
* `respects_createBadge`, `respects_awardBadge`, `respects_revokeBadge`: with badges.
* `respects_setHidden`, `respects_setHiddenRange`: with hidden questions, by induction on the range.
* `respects_addRecommendation`, `respects_removeRecommendation`, `respects_hasRecommendation`: with the
  shelf of recommendations.
-/

namespace CoachScript.Builtin

open CoachScript.Action

variable {R : World → World → Prop} {call : Call} (args : List Value)

/-! ### Scores -/

section Scores

variable (hcontribute : ∀ name entry, Respects R (contribute call name entry))
include hcontribute

theorem respects_addScore : Respects R (addScore call args) := by
  refine related_bind (respects_check _) fun name => related_bind (respects_check _) fun number => ?_
  exact hcontribute name (.value number)

theorem respects_capScore : Respects R (capScore call args) := by
  refine related_bind (respects_check _) fun name => related_bind (respects_check _) fun limit => ?_
  exact hcontribute name (.cap limit)

end Scores

/-! ### Badges -/

section Badges

variable (hread : ∀ w w', R w w' → (call.context w).badges = (call.context w').badges)
  (hwrite : ∀ badges w w', R w w' → R (setBadges call badges w) (setBadges call badges w'))
include hread hwrite

theorem respects_updateBadges (f : Badges → Badges) :
    Respects R (.modify fun w => setBadges call (f (call.context w).badges) w) := by
  refine respects_modify fun w w' h => ?_
  rw [hread w w' h]
  exact hwrite _ w w' h

theorem respects_onBadges (f : Badges → Except ContextFault Unit × Badges) :
    Respects R (onBadges call f) := by
  intro w w' h
  unfold onBadges
  rw [hread w w' h]
  exact ⟨rfl, hwrite _ w w' h⟩

theorem respects_createBadge : Respects R (createBadge call args) := by
  refine related_bind (respects_check _) fun name => related_bind (respects_check _) fun ranks => ?_
  exact related_bind (respects_updateBadges hread hwrite (·.create name ranks)) fun _ => respects_pure _

theorem respects_awardBadge : Respects R (awardBadge call args) := by
  refine related_bind (respects_check _) fun name => related_bind (respects_check _) fun rank => ?_
  exact related_bind (respects_onBadges hread hwrite _) fun _ => respects_pure _

theorem respects_revokeBadge : Respects R (revokeBadge call args) := by
  refine related_bind (respects_check _) fun name => ?_
  refine related_bind (respects_view fun w w' h => by rw [hread w w' h]) fun held => ?_
  exact related_bind (respects_updateBadges hread hwrite (·.revoke name)) fun _ => respects_pure _

end Badges

/-! ### Hidden questions -/

section Hidden

variable (hread : ∀ w w', R w w' → (call.context w).hidden = (call.context w').hidden)
  (hwrite : ∀ hidden w w', R w w' → R (withHidden call hidden w) (withHidden call hidden w'))
include hread hwrite

theorem respects_hideOne (hide : Bool) (question : String) : Respects R (hideOne call hide question) := by
  refine related_bind (respects_view fun w w' h => by rw [hread w w' h]) fun changes => ?_
  refine related_bind (respects_modify fun w w' h => ?_) fun _ => respects_pure _
  rw [hread w w' h]
  exact hwrite _ w w' h

theorem respects_hideEach (hide : Bool) (ids : List String) : Respects R (hideEach call hide ids) := by
  induction ids with
  | nil => exact respects_pure 0
  | cons id ids ih =>
    refine related_bind (respects_hideOne hread hwrite hide id) fun changed => ?_
    exact related_bind ih fun count => respects_pure _

variable (hcoach : ∀ w w', R w w' → targetCoach call w = targetCoach call w')
include hcoach

theorem respects_setHidden : Respects R (setHidden call args) := by
  refine related_bind (respects_check _) fun question => related_bind (respects_check _) fun hide => ?_
  refine related_bind (respects_look hcoach) fun coach => related_ite (respects_fail _) ?_
  exact related_bind (respects_hideOne hread hwrite hide question) fun changed => respects_pure _

theorem respects_setHiddenRange : Respects R (setHiddenRange call args) := by
  refine related_bind (respects_check _) fun low => related_bind (respects_check _) fun high => ?_
  refine related_bind (respects_check _) fun hide => related_bind (respects_look hcoach) fun coach => ?_
  exact related_bind (respects_hideEach hread hwrite hide _) fun count => respects_pure _

end Hidden

/-! ### Recommendations -/

section Shelf

variable (hwrite : ∀ f w w', R w w' → R (reshelve call f w) (reshelve call f w'))
include hwrite

theorem respects_addRecommendation
    (htag : ∀ w w', R w w' → (w.get call.scene.active).tag = (w'.get call.scene.active).tag) :
    Respects R (addRecommendation call args) := by
  refine related_bind (respects_check _) fun id => related_bind (respects_check _) fun order => ?_
  refine related_bind (respects_check _) fun title => related_bind (respects_check _) fun text => ?_
  refine related_bind (respects_check _) fun tags => related_bind (respects_view htag) fun tag => ?_
  exact related_bind (respects_modify (hwrite _)) fun _ => respects_pure _

variable (hread : ∀ w w', R w w' → shelved call w = shelved call w')
include hread

theorem respects_removeRecommendation : Respects R (removeRecommendation call args) := by
  refine related_bind (respects_check _) fun id => ?_
  refine related_bind (respects_view fun w w' h => by rw [hread w w' h]) fun known => ?_
  exact related_bind (respects_modify (hwrite _)) fun _ => respects_pure _

theorem respects_hasRecommendation : Respects R (hasRecommendation call args) := by
  refine related_bind (respects_check _) fun id => related_bind (respects_modify (hwrite _)) fun _ => ?_
  exact respects_view fun w w' h => by rw [hread w w' h]

end Shelf

end CoachScript.Builtin
