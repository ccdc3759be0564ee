import Mathlib.Data.List.Induction

/-!
# What lasts of a history

A history is a sequence of changes. A change may add something, and undo things that were added before.

* `lasting`: what the changes of a history add and no later change undoes, in order (`mem_lasting`).
* `lasting_concat`: one more change undoes what it undoes, and adds what it adds.
* **`lasting_of_step`**: what every change makes so, holds at the end of the history what lasts.
* `Lasts`: some change has begun a thing and none has ended it since, where either may depend on what came
  before.
-/

namespace CoachScript

variable {Change α : Type} (adds : Change → Option α) (undoes : Change → α → Bool)

/-- What the changes of a history add and no later change undoes, in order. -/
def lasting : List Change → List α
  | [] => []
  | change :: later =>
    ((adds change).filter fun a => !later.any (undoes · a)).toList ++ lasting later

variable {adds undoes} {history : List Change} {a : α}

/-- What lasts was added by some change, and is undone by none that comes after that. -/
theorem mem_lasting :
    a ∈ lasting adds undoes history ↔ ∃ before change later,
      history = before ++ change :: later ∧ adds change = some a ∧
        ∀ other ∈ later, undoes other a = false := by
  induction history with
  | nil => simp [lasting]
  | cons first later ih =>
    rw [lasting, List.mem_append, Option.mem_toList, Option.filter_eq_some_iff, ih]
    constructor
    · rintro (⟨hadds, hundone⟩ | ⟨before, change, rest, rfl, hchange⟩)
      · exact ⟨[], first, later, rfl, hadds, by simpa using hundone⟩
      · exact ⟨first :: before, change, rest, rfl, hchange⟩
    · rintro ⟨before, change, rest, hsplit, hadds, hundone⟩
      cases before with
      | nil =>
        obtain ⟨rfl, rfl⟩ := List.cons.inj hsplit
        exact .inl ⟨hadds, by simpa using hundone⟩
      | cons c before =>
        obtain ⟨-, rfl⟩ := List.cons.inj hsplit
        exact .inr ⟨before, change, rest, rfl, hadds, hundone⟩

/-- One more change undoes what it undoes, and adds what it adds. -/
theorem lasting_concat (history : List Change) (change : Change) :
    lasting adds undoes (history ++ [change]) =
      (lasting adds undoes history).filter (!undoes change ·) ++ (adds change).toList := by
  induction history with
  | nil => cases h : adds change <;> simp [lasting, h]
  | cons first later ih =>
    rw [List.cons_append, lasting, lasting, ih, List.filter_append, List.append_assoc]
    congr 1
    cases adds first with
    | none => rfl
    | some a =>
      cases hlater : later.any (undoes · a) <;> cases hlast : undoes change a <;>
        simp [Option.filter, List.any_append, hlater, hlast]

/-- **What every change makes so, holds at the end what lasts.** The step is that a change takes away
what it undoes and puts what it adds behind the rest. -/
theorem lasting_of_step {State : Type} {run : State → Change → State} (view : State → List α)
    (hstep : ∀ s change,
      view (run s change) = (view s).filter (!undoes change ·) ++ (adds change).toList)
    {start : State} (hstart : view start = []) (history : List Change) :
    view (history.foldl run start) = lasting adds undoes history := by
  induction history using List.reverseRecOn with
  | nil => exact hstart
  | append_singleton history change ih =>
    rw [List.foldl_append, List.foldl_cons, List.foldl_nil, hstep, ih, lasting_concat]

/-! ### Changes that depend on what came before -/

section Lasts

variable (begins ends : List Change → Change → Prop)

/-- Some change of the history has begun a thing, and none has ended it since. What a change does may
depend on the changes before it. -/
def Lasts (history : List Change) : Prop :=
  ∃ before change later, history = before ++ change :: later ∧ begins before change ∧
    ∀ between other rest, later = between ++ other :: rest →
      ¬ ends (before ++ change :: between) other

variable {begins ends}

theorem not_lasts_nil : ¬ Lasts begins ends [] := by
  rintro ⟨before, change, later, hsplit, -⟩
  simp at hsplit

/-- What lasts is begun by the last change, or lasts before it and is not ended by it. -/
theorem lasts_concat {change : Change} :
    Lasts begins ends (history ++ [change]) ↔
      begins history change ∨ Lasts begins ends history ∧ ¬ ends history change := by
  constructor
  · rintro ⟨before, first, later, hsplit, hbegins, hends⟩
    rcases List.eq_nil_or_concat later with rfl | ⟨between, last, rfl⟩
    · obtain ⟨rfl, hlast⟩ := List.append_inj' hsplit rfl
      obtain ⟨rfl, -⟩ := List.cons.inj hlast
      exact .inl hbegins
    · rw [List.concat_eq_append, ← List.cons_append, ← List.append_assoc] at hsplit
      obtain ⟨rfl, hlast⟩ := List.append_inj' hsplit rfl
      obtain ⟨rfl, -⟩ := List.cons.inj hlast
      refine .inr ⟨⟨before, first, between, rfl, hbegins, fun mid other rest hmid => ?_⟩, ?_⟩
      · exact hends mid other (rest ++ [change]) (by simp [hmid])
      · exact hends between change [] (by simp)
  · rintro (hbegins | ⟨⟨before, first, later, rfl, hbegins, hends⟩, hlast⟩)
    · exact ⟨history, change, [], rfl, hbegins, fun mid other rest hmid => by simp at hmid⟩
    · refine ⟨before, first, later ++ [change], by simp, hbegins, fun mid other rest hmid => ?_⟩
      rcases List.eq_nil_or_concat rest with rfl | ⟨rest, last, rfl⟩
      · obtain ⟨rfl, hother⟩ := List.append_inj' hmid rfl
        obtain ⟨rfl, -⟩ := List.cons.inj hother
        exact hlast
      · rw [List.concat_eq_append, ← List.cons_append, ← List.append_assoc] at hmid
        obtain ⟨hmid, -⟩ := List.append_inj' hmid rfl
        exact hends mid other rest hmid

end Lasts

end CoachScript
