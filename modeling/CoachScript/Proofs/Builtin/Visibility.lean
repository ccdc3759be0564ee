import CoachScript.Builtin.Run
import CoachScript.Proofs.Eval.Calls
import CoachScript.Proofs.State.View
import CoachScript.Proofs.Text.AsciiCase
import Mathlib.Data.Set.Card
import Mathlib.Data.String.Basic

/-!
# Hiding and showing questions

* `Host.Filed`: coaches are kept under their ids.
* `Hidden.ext_contains`: what is hidden is known from the questions, whichever way it came to be.
* `hideAll`: what hiding questions one after another comes to, and `hideAll_append`, `hideAll_congr`: in any
  order and any number of times. `hideEach_eq`: that is what becomes of a context.
* `contains_hideAll`, **`count_hideAll`**: the questions of a list are hidden, or shown, and no others; the
  count is the number of different questions that are shown otherwise than before.
* **`hideAll_range`**: hiding a range is hiding its two parts, one after the other.
* `targetCoach_eq`, `setHiddenRange_eq`: the coach of the target is the one that the host keeps for its
  context, and a range of its questions is hidden.
-/

namespace CoachScript

/-! ### Coaches under their ids -/

namespace Host

/-- Coaches are kept under their ids. -/
def Filed (host : Host) : Prop := ∀ entry ∈ host.coaches, entry.1 = lowercase entry.2.id

/-- A host that answers which coach an id has, answers what it keeps. -/
theorem coach?_eq_of_coach {host : Host} {coachId : String} {coach? : Option Coach}
    (h : host.coach coachId = .ok coach?) : host.coach? coachId = coach? := by
  unfold coach at h
  cases hguard : host.guard .coach with
  | error e => rw [hguard] at h; cases h
  | ok => rw [hguard] at h; exact Except.ok.inj h

theorem coach?_congr (host : Host) {coachId coachId' : String} (h : lowercase coachId = lowercase coachId') :
    host.coach? coachId = host.coach? coachId' := by
  unfold coach?
  rw [h]

theorem filed_empty : (∅ : Host).Filed := List.forall_mem_nil _

theorem Filed.addCoach {host : Host} (h : host.Filed) (coach : Coach) : (host.addCoach coach).Filed :=
  List.forall_mem_cons.mpr ⟨rfl, h⟩

/-- A coach that was found is found under its own id. -/
theorem Filed.coach?_id {host : Host} (h : host.Filed) {coachId : String} {coach : Coach}
    (hfound : host.coach? coachId = some coach) : host.coach? coach.id = some coach := by
  obtain ⟨before, after, hsplit, -⟩ := List.lookup_eq_some_iff.mp hfound
  have hkey := h (lowercase coachId, coach) (hsplit ▸ List.mem_append_right _ List.mem_cons_self)
  unfold coach? at hfound ⊢
  rwa [← hkey]

end Host

/-! ### Hidden questions -/

namespace Hidden

variable (h : Hidden) (id question : String) (hide : Bool)

theorem contains_empty : (∅ : Hidden).contains question = false := rfl

theorem contains_set :
    (h.set id hide).contains question = if id = question then hide else h.contains question := by
  unfold set contains
  cases hide <;> by_cases heq : id = question <;>
    simp [heq, Std.ExtTreeSet.contains_erase, Std.ExtTreeSet.contains_insert]

/-- What is hidden is known from the questions. -/
theorem ext_contains {h h' : Hidden} (heq : ∀ question, h.contains question = h'.contains question) :
    h = h' := by
  obtain ⟨ids⟩ := h
  obtain ⟨ids'⟩ := h'
  congr 1
  apply Std.ExtTreeSet.ext_contains
  exact heq

end Hidden

namespace Builtin

/-- Questions are hidden, or shown, one after another; how often that makes a difference, and what is hidden
then. -/
def hideAll (hide : Bool) (hidden : Hidden) : List String → Nat × Hidden
  | [] => (0, hidden)
  | id :: ids =>
    let (count, later) := hideAll hide (hidden.set id hide) ids
    ((hidden.changes id hide).toNat + count, later)

section HideAll

variable (hide : Bool) (hidden : Hidden) (id : String) (ids ids' : List String)

theorem hideAll_cons :
    hideAll hide hidden (id :: ids) =
      ((hidden.changes id hide).toNat + (hideAll hide (hidden.set id hide) ids).1,
        (hideAll hide (hidden.set id hide) ids).2) := rfl

/-- The second list goes on where the first has ended. -/
theorem hideAll_append :
    hideAll hide hidden (ids ++ ids') =
      ((hideAll hide hidden ids).1 + (hideAll hide (hideAll hide hidden ids).2 ids').1,
        (hideAll hide (hideAll hide hidden ids).2 ids').2) := by
  induction ids generalizing hidden with
  | nil => simp [hideAll]
  | cons id ids ih =>
    rw [List.cons_append, hideAll_cons, hideAll_cons, ih, Nat.add_assoc]

theorem contains_hideAll (question : String) :
    (hideAll hide hidden ids).2.contains question =
      if question ∈ ids then hide else hidden.contains question := by
  induction ids generalizing hidden with
  | nil => rfl
  | cons id ids ih =>
    rw [hideAll_cons]
    dsimp only
    rw [ih, Hidden.contains_set]
    by_cases hlater : question ∈ ids
    · rw [if_pos hlater, if_pos (List.mem_cons_of_mem id hlater)]
    · rw [if_neg hlater]
      by_cases heq : id = question
      · rw [if_pos heq, if_pos (heq ▸ List.mem_cons_self)]
      · rw [if_neg heq, if_neg (by simp [hlater, Ne.symm heq])]

theorem card_hideAll :
    (hideAll hide hidden ids).1 = (ids.toFinset.filter fun id => hidden.contains id ≠ hide).card := by
  induction ids generalizing hidden with
  | nil => rfl
  | cons id ids ih =>
    let later := ids.toFinset.filter fun question => (hidden.set id hide).contains question ≠ hide
    -- once it is as wanted, a question does not count again
    have hsettled : id ∉ later := by simp [later, Hidden.contains_set]
    rw [hideAll_cons]
    dsimp only
    rw [ih]
    unfold Hidden.changes
    by_cases hid : hidden.contains id = hide
    · have hsame : (id :: ids).toFinset.filter (fun question => hidden.contains question ≠ hide) = later := by
        ext question
        simp only [later, Finset.mem_filter, List.mem_toFinset, List.mem_cons, Hidden.contains_set]
        grind
      rw [hsame, hid, bne_self_eq_false, Bool.toNat_false, Nat.zero_add]
    · have hmore : (id :: ids).toFinset.filter (fun question => hidden.contains question ≠ hide) =
          insert id later := by
        ext question
        simp only [later, Finset.mem_filter, List.mem_toFinset, List.mem_cons, Hidden.contains_set,
          Finset.mem_insert]
        grind
      rw [hmore, Finset.card_insert_of_notMem hsettled, bne_iff_ne.mpr hid, Bool.toNat_true, Nat.add_comm]

/-- **The count is the number of different questions that are shown otherwise than before.** -/
theorem count_hideAll :
    (hideAll hide hidden ids).1 =
      {question | (hideAll hide hidden ids).2.contains question ≠ hidden.contains question}.ncard := by
  rw [card_hideAll, ← Set.ncard_coe_finset]
  congr 1
  ext question
  simp only [Finset.coe_filter, List.mem_toFinset, Set.mem_ofPred_eq, contains_hideAll]
  by_cases hmem : question ∈ ids
  · simp [hmem, ne_comm]
  · simp [hmem]

/-- Neither the order of the questions matters, nor how often they are listed. -/
theorem hideAll_congr (h : ∀ question, question ∈ ids ↔ question ∈ ids') :
    hideAll hide hidden ids = hideAll hide hidden ids' := by
  have hhidden : (hideAll hide hidden ids).2 = (hideAll hide hidden ids').2 := by
    apply Hidden.ext_contains
    intro question
    rw [contains_hideAll, contains_hideAll]
    simp only [h]
  have hcount : (hideAll hide hidden ids).1 = (hideAll hide hidden ids').1 := by
    rw [count_hideAll, count_hideAll, hhidden]
  exact Prod.ext hcount hhidden

end HideAll

/-! ### Hiding in a context -/

section HideEach

variable (call : Call) (hide : Bool) (ids : List String) (hidden hidden' : Hidden) (w : World)

/-- The latest change of what is hidden counts. -/
theorem withHidden_withHidden :
    withHidden call hidden' (withHidden call hidden w) = withHidden call hidden' w := by
  let f (hidden : Hidden) (c : Context) : Context := { c with hidden }
  have hmade : (w.contexts.made.modify call.target (f hidden)).modify call.target (f hidden') =
      w.contexts.made.modify call.target (f hidden') := by
    refine Array.ext (by simp only [Array.size_modify]) fun id _ _ => ?_
    simp only [Array.getElem_modify]
    split_ifs <;> rfl
  exact congrArg (fun made => ({ w with contexts := { w.contexts with made } } : World)) hmade

variable {w}

/-- Where no context was made, nothing is hidden. -/
theorem withHidden_of_size_le (hle : w.contexts.made.size ≤ call.target) :
    withHidden call hidden w = w := by
  let f (c : Context) : Context := { c with hidden }
  have hmade : w.contexts.made.modify call.target f = w.contexts.made := by
    refine Array.ext Array.size_modify fun id _ hid => ?_
    rw [Array.getElem_modify, if_neg (by omega)]
  exact congrArg (fun made => ({ w with contexts := { w.contexts with made } } : World)) hmade

variable (hmade : call.target < w.contexts.made.size)
include hmade

theorem hidden_withHidden : (call.context (withHidden call hidden w)).hidden = hidden := by
  have hget : call.context (withHidden call hidden w) = { call.context w with hidden } := by
    unfold Call.context World.get withHidden World.modify
    dsimp only
    rw [Contexts.get_modify, if_pos ⟨rfl, hmade⟩]
  rw [hget]

omit hmade in
theorem withHidden_self : withHidden call (call.context w).hidden w = w :=
  congrArg (fun contexts => { w with contexts }) (w.contexts.modify_eq_self rfl)

/-- **Questions of a context are hidden one by one**, and each difference counts. -/
theorem hideEach_eq :
    hideEach call hide ids w =
      let changed := hideAll hide (call.context w).hidden ids
      (.ok changed.1, withHidden call changed.2 w) := by
  induction ids generalizing w with
  | nil => exact congrArg (Prod.mk _) (withHidden_self call).symm
  | cons id ids ih =>
    let hidden := (call.context w).hidden.set id hide
    let next := withHidden call hidden w
    have hsize : call.target < next.contexts.made.size := by
      show _ < (w.contexts.modify call.target _).made.size
      rwa [Contexts.size_modify]
    have hlater := ih hsize
    dsimp only at hlater
    rw [hidden_withHidden call hidden hmade, withHidden_withHidden] at hlater
    show (Action.bind (hideEach call hide ids) _ next) = _
    rw [Action.bind_of_ok hlater]
    rfl

omit hmade in
/-- Whether there is a context or not, the world is left as it is but for what the context hides. -/
theorem world_hideEach :
    (hideEach call hide ids w).2 = withHidden call (hideAll hide (call.context w).hidden ids).2 w := by
  by_cases hmade : call.target < w.contexts.made.size
  · rw [hideEach_eq call hide ids hmade]
  · have hle := Nat.not_lt.mp hmade
    rw [withHidden_of_size_le call _ hle]
    induction ids with
    | nil => rfl
    | cons id ids ih =>
      let next := withHidden call ((call.context w).hidden.set id hide) w
      have hnext : next = w := withHidden_of_size_le call _ hle
      show (Action.bind (hideEach call hide ids) _ next).2 = w
      rw [hnext]
      unfold Action.bind
      rcases hrest : hideEach call hide ids w with ⟨e | count, w'⟩
      · rwa [hrest] at ih
      · rwa [hrest] at ih

end HideEach

/-! ### Ranges of questions -/

/-- The questions of a coach from one id up to, but not with, another. -/
def rangeIds (coach : Coach) (low high : String) : List String :=
  coach.questionIds.filter fun id => decide (low ≤ id) && decide (id < high)

theorem mem_rangeIds {coach : Coach} {low high question : String} :
    question ∈ rangeIds coach low high ↔ question ∈ coach.questionIds ∧ low ≤ question ∧ question < high := by
  simp [rangeIds]

/-- A range is made of two that meet. -/
theorem mem_rangeIds_append {coach : Coach} {low mid high question : String} (hlow : low ≤ mid)
    (hhigh : mid ≤ high) :
    question ∈ rangeIds coach low high ↔ question ∈ rangeIds coach low mid ++ rangeIds coach mid high := by
  rw [List.mem_append, mem_rangeIds, mem_rangeIds, mem_rangeIds]
  constructor
  · rintro ⟨hmem, hfrom, hto⟩
    rcases lt_or_ge question mid with h | h
    · exact .inl ⟨hmem, hfrom, h⟩
    · exact .inr ⟨hmem, h, hto⟩
  · rintro (⟨hmem, hfrom, hto⟩ | ⟨hmem, hfrom, hto⟩)
    · exact ⟨hmem, hfrom, hto.trans_le hhigh⟩
    · exact ⟨hmem, hlow.trans hfrom, hto⟩

/-- **Hiding a range is hiding its parts**, one after the other. -/
theorem hideAll_range {coach : Coach} {low mid high : String} (hlow : low ≤ mid) (hhigh : mid ≤ high)
    (hide : Bool) (hidden : Hidden) :
    let first := hideAll hide hidden (rangeIds coach low mid)
    let second := hideAll hide first.2 (rangeIds coach mid high)
    hideAll hide hidden (rangeIds coach low high) = (first.1 + second.1, second.2) := by
  intro first second
  rw [hideAll_congr hide hidden _ _ fun question => mem_rangeIds_append hlow hhigh, hideAll_append]

/-! ### The coach of a call's target -/

section Target

variable {call : Call} {w : World} {coach : Coach}

/-- The coach of the target is the one that the host keeps for its context. -/
theorem coach?_of_targetCoach (hscene : w.host.coach? call.scene.coach.id = some call.scene.coach)
    (h : targetCoach call w = .ok coach) : w.host.coach? (call.context w).coachId = some coach := by
  unfold targetCoach at h
  dsimp only at h
  split_ifs at h with hsame
  · cases h
    rw [← hscene]
    exact w.host.coach?_congr (lowercase_eq_of_equalAsciiCase hsame)
  · rcases hfound : w.host.coach (call.context w).coachId with e | _ | other
    · rw [hfound] at h
      cases h
    · rw [hfound] at h
      cases h
    · rw [hfound] at h
      cases h
      exact Host.coach?_eq_of_coach hfound

/-- It is found if the host looks it up. -/
theorem targetCoach_eq (hscene : w.host.coach? call.scene.coach.id = some call.scene.coach)
    (hguard : w.host.guard .coach = .ok ()) (h : w.host.coach? (call.context w).coachId = some coach) :
    targetCoach call w = .ok coach := by
  unfold targetCoach
  dsimp only
  split_ifs with hsame
  · have hsameCoach : w.host.coach? (call.context w).coachId = w.host.coach? call.scene.coach.id :=
      w.host.coach?_congr (lowercase_eq_of_equalAsciiCase hsame)
    rw [h, hscene] at hsameCoach
    rw [Option.some.inj hsameCoach]
    rfl
  · unfold Host.coach
    rw [hguard, h]
    rfl

/-- **A range of the coach's questions is hidden or shown**, and the value is how many changed. -/
theorem setHiddenRange_eq (hmade : call.target < w.contexts.made.size)
    (htarget : targetCoach call w = .ok coach) (low high : String) (hide : Bool) :
    setHiddenRange call [.string low, .string high, .bool hide] w =
      let changed := hideAll hide (call.context w).hidden (rangeIds coach low high)
      (.ok (.ofInt changed.1), withHidden call changed.2 w) := by
  show Action.bind (.look (targetCoach call)) _ w = _
  rw [Action.bind_of_ok (show Action.look (targetCoach call) w = (.ok coach, w) by
    unfold Action.look
    rw [htarget])]
  exact Action.bind_of_ok (hideEach_eq call hide (rangeIds coach low high) hmade)

end Target

end Builtin

end CoachScript
