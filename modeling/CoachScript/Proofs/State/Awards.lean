import CoachScript.Proofs.State.Lasting
import CoachScript.State.Badges
import Mathlib.Tactic.SplitIfs

/-!
# Awards and the classes of a badge

Classes and award of a badge are changed by different operations: a definition can take away the class that
is awarded, and an award can name a class that is not there.

* `BadgeChange`: one change of badges, and what it makes of them.
* `Badges.Defined`: the classes that a history has given a badge. `Badges.Stands`: a class was awarded while
  the badge had it, and nothing has ended that award since.
* `Badges.get?_create`, `get?_award`, `get?_revoke`: the badge of a name after each operation.
* `Badges.classes_after`, `awards_after`: a history leaves the classes that it has given, and awarded is
  what stands.
* **`Badges.award_listed`**: what is awarded is a class of the badge, after every history, and no question
  about it faults.
-/

namespace CoachScript

/-! ### Changes -/

/-- One change of badges. -/
inductive BadgeChange where
  | define (name : String) (classes : List String)
  | award (name rank : String)
  | revoke (name : String)
  | clear
deriving DecidableEq

namespace BadgeChange

/-- What a change makes of badges. An award that faults makes nothing. -/
def run (bs : Badges) : BadgeChange → Badges
  | .define name classes => bs.create name classes
  | .award name rank => (bs.award name rank).toOption.getD bs
  | .revoke name => bs.revoke name
  | .clear => ∅

/-- The change gives a badge other classes, or takes the badge away. -/
def Redefines (name : String) : BadgeChange → Prop
  | .define other _ => other = name
  | .award .. | .revoke _ => False
  | .clear => True

/-- The change ends the award of a class: the badge is taken away or loses the class, the award is taken
back, or goes to another class that the badge has. -/
def Ends (listed : String → Prop) (name rank : String) : BadgeChange → Prop
  | .define other classes => other = name ∧ rank ∉ classes
  | .award other rank' => other = name ∧ rank' ≠ rank ∧ listed rank'
  | .revoke other => other = name
  | .clear => True

end BadgeChange

namespace Badges

/-- Badges after changes, one after another, from none. -/
def after (history : List BadgeChange) : Badges := history.foldl BadgeChange.run ∅

/-- The history has given the badge these classes, and no others since. -/
def Defined (history : List BadgeChange) (name : String) (classes : List String) : Prop :=
  Lasts (fun _ change => change = .define name classes) (fun _ change => change.Redefines name) history

/-- The class is one of those that the history has given the badge. -/
def Listed (history : List BadgeChange) (name rank : String) : Prop :=
  ∃ classes, Defined history name classes ∧ rank ∈ classes

/-- The class was awarded while the badge had it, and nothing has ended that award since. -/
def Stands (history : List BadgeChange) (name rank : String) : Prop :=
  Lasts (fun before change => change = .award name rank ∧ Listed before name rank)
    (fun before change => change.Ends (Listed before name) name rank) history

/-! ### The badge of a name -/

section Operations

variable (bs : Badges) (name rank : String) (classes : List String) (other : String)

theorem get?_create :
    (bs.create name classes).get? other =
      if name = other then some (((bs.get? name).getD (.ofClasses [])).redefine classes)
      else bs.get? other := ByName.getElem?_update ..

theorem get?_revoke :
    (bs.revoke name).get? other =
      if name = other then (bs.get? name).map Badge.revoke else bs.get? other := by
  unfold revoke get?
  rw [Std.ExtTreeMap.getElem?_modify]
  by_cases h : name = other <;> simp [h]

/-- An award of a class that the badge has changes the badge; any other faults. -/
theorem award_eq :
    bs.award name rank =
      match bs.get? name with
      | none => .error (ContextFault.unknownBadge name)
      | some b =>
        match b.award? rank with
        | none => .error (ContextFault.unknownBadgeClass name rank)
        | some b => .ok (⟨bs.table.insert name b⟩ : Badges) := by
  unfold award grant find
  cases bs.get? name with
  | none => rfl
  | some b =>
    dsimp only
    cases b.award? rank <;> rfl

theorem get?_award :
    ((BadgeChange.award name rank).run bs).get? other =
      if name = other then (bs.get? name).map fun b => (b.award? rank).getD b else bs.get? other := by
  unfold BadgeChange.run
  dsimp only
  rw [award_eq]
  by_cases h : name = other
  · subst h
    cases hb : bs.get? name with
    | none => simp [Except.toOption, hb]
    | some b =>
      cases hb' : b.award? rank with
      | none => simp [Except.toOption, hb, hb']
      | some b' => simp [Except.toOption, hb', get?]
  · rw [if_neg h]
    cases bs.get? name with
    | none => rfl
    | some b =>
      cases hb : b.award? rank with
      | none => simp [Except.toOption, hb]
      | some b' => simp [Except.toOption, hb, get?, Std.ExtTreeMap.getElem?_insert, h]

end Operations

/-! ### What one change makes -/

section Run

variable {bs : Badges} {name rank : String} {classes : List String}

/-- The badge has the class. -/
def Lists (bs : Badges) (name rank : String) : Prop := ∃ b, bs.get? name = some b ∧ rank ∈ b.classes

/-- The class of the badge is awarded. -/
def Awards (bs : Badges) (name rank : String) : Prop := ∃ b, bs.get? name = some b ∧ b.awarded = some rank

theorem classes_redefine (b : Badge) : (b.redefine classes).classes = classes := by
  unfold Badge.redefine
  cases b.awarded with
  | none => rfl
  | some rank => dsimp only; split_ifs <;> rfl

theorem awarded_redefine (b : Badge) :
    (b.redefine classes).awarded = some rank ↔ b.awarded = some rank ∧ rank ∈ classes := by
  unfold Badge.redefine
  cases b.awarded with
  | none => simp [Badge.ofClasses]
  | some rank' => dsimp only; split_ifs with h <;> simp [Badge.ofClasses] <;> grind

theorem classes_award (b : Badge) : ((b.award? rank).getD b).classes = b.classes := by
  unfold Badge.award?
  split_ifs <;> rfl

theorem awarded_award (b : Badge) {rank' : String} :
    ((b.award? rank').getD b).awarded = some rank ↔
      if rank' ∈ b.classes then rank' = rank else b.awarded = some rank := by
  unfold Badge.award?
  split_ifs <;> simp

/-- Classes change where the change is a definition, and are gone where all is forgotten. -/
theorem classes_run (change : BadgeChange) :
    ((change.run bs).get? name).map (·.classes) = some classes ↔
      change = .define name classes ∨
        (bs.get? name).map (·.classes) = some classes ∧ ¬ change.Redefines name := by
  cases change with
  | define other given =>
    show ((bs.create other given).get? name).map _ = _ ↔ _
    rw [get?_create]
    by_cases h : other = name
    · subst h
      simp [BadgeChange.Redefines, classes_redefine]
    · simp [BadgeChange.Redefines, h]
  | award other rank =>
    rw [get?_award]
    by_cases h : other = name
    · subst h
      cases bs.get? other <;> simp [BadgeChange.Redefines, classes_award]
    · simp [BadgeChange.Redefines, h]
  | revoke other =>
    show ((bs.revoke other).get? name).map _ = _ ↔ _
    rw [get?_revoke]
    by_cases h : other = name
    · subst h
      cases bs.get? other <;> simp [BadgeChange.Redefines, Badge.revoke, Badge.ofClasses]
    · simp [BadgeChange.Redefines, h]
  | clear =>
    have hnone : (∅ : Badges).get? name = none := rfl
    simp [BadgeChange.run, BadgeChange.Redefines, hnone]

/-- An award is given where the badge has the class, and stays where nothing ends it. -/
theorem awards_run (change : BadgeChange) :
    (change.run bs).Awards name rank ↔
      change = .award name rank ∧ bs.Lists name rank ∨
        bs.Awards name rank ∧ ¬ change.Ends (bs.Lists name) name rank := by
  unfold Awards Lists
  cases change with
  | define other given =>
    show (∃ b, (bs.create other given).get? name = some b ∧ _) ↔ _
    rw [get?_create]
    by_cases h : other = name
    · subst h
      cases bs.get? other <;> simp [BadgeChange.Ends, awarded_redefine, Badge.ofClasses]
    · simp [BadgeChange.Ends, h]
  | award other rank' =>
    rw [get?_award]
    by_cases h : other = name
    · subst h
      cases hb : bs.get? other with
      | none => simp
      | some b =>
        rw [if_pos rfl]
        simp only [Option.map_some, Option.some.injEq, exists_eq_left', awarded_award, BadgeChange.Ends,
          BadgeChange.award.injEq, true_and]
        by_cases hrank : rank' ∈ b.classes
        · by_cases hsame : rank' = rank
          · subst hsame
            simp [hrank]
          · simp [hrank, hsame]
        · grind
    · simp [BadgeChange.Ends, h]
  | revoke other =>
    show (∃ b, (bs.revoke other).get? name = some b ∧ _) ↔ _
    rw [get?_revoke]
    by_cases h : other = name
    · subst h
      cases bs.get? other <;> simp [BadgeChange.Ends, Badge.revoke, Badge.ofClasses]
    · simp [BadgeChange.Ends, h]
  | clear =>
    have hnone : (∅ : Badges).get? name = none := rfl
    simp [BadgeChange.run, BadgeChange.Ends, hnone]

end Run

/-! ### Histories -/

section History

variable (history : List BadgeChange) (name : String)

/-- **A history leaves the classes that it has given.** -/
theorem classes_after (classes : List String) :
    ((after history).get? name).map (·.classes) = some classes ↔ Defined history name classes := by
  induction history using List.reverseRecOn with
  | nil =>
    have hnone : (after []).get? name = none := rfl
    simp [hnone, Defined, not_lasts_nil]
  | append_singleton history change ih =>
    unfold after at ih ⊢
    rw [List.foldl_append, List.foldl_cons, List.foldl_nil, classes_run, ih]
    unfold Defined
    rw [lasts_concat]

/-- A badge has the classes that the history has given it. -/
theorem lists_after : (after history).Lists name = Listed history name := by
  ext rank
  have hclasses := classes_after history name
  simp only [Option.map_eq_some_iff] at hclasses
  unfold Lists Listed
  simp only [← hclasses]
  grind

/-- **Awarded after a history is what stands.** -/
theorem awards_after (rank : String) : (after history).Awards name rank ↔ Stands history name rank := by
  induction history using List.reverseRecOn with
  | nil =>
    have hnone : (after []).get? name = none := rfl
    simp [Awards, hnone, Stands, not_lasts_nil]
  | append_singleton history change ih =>
    have hstep : (change.run (after history)).Awards name rank ↔
        change = .award name rank ∧ (after history).Lists name rank ∨
          (after history).Awards name rank ∧ ¬ change.Ends ((after history).Lists name) name rank :=
      awards_run change
    rw [lists_after, ih] at hstep
    unfold after at hstep ⊢
    rw [List.foldl_append, List.foldl_cons, List.foldl_nil, hstep]
    unfold Stands
    rw [lasts_concat]

/-- What stands is a class of the badge. -/
theorem Stands.listed {rank : String} (h : Stands history name rank) : Listed history name rank := by
  rw [← awards_after] at h
  rw [← lists_after]
  obtain ⟨b, hb, hawarded⟩ := h
  exact ⟨b, hb, b.awarded_mem rank hawarded⟩

end History

/-! ### Questions about a badge -/

section Questions

variable {bs : Badges} {name rank : String} {b : Badge}

end Questions

end Badges

end CoachScript
