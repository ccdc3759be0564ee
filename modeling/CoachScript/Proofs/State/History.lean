import CoachScript.Proofs.State.View

/-!
# Histories of the tree

* `TreeChange`: one thing that a platform can do with the tree of contexts, and what it makes of
  the tree (`TreeChange.run`).
* `Contexts.after`: the tree after a sequence of changes. `TreeChange.Along`: every change of the
  sequence is of a given kind where it is made.
* **`Contexts.after_keeps`**: what every such change keeps, the sequence keeps.
* `stored_removeTree`, `createInstance_new`: what is stored after a removal, and what a new instance is.
-/

namespace CoachScript

/-- One thing that a platform can do with the tree of contexts. -/
inductive TreeChange where
  | obtain (coachId : String)
  | create (parent : ContextId) (coachId instanceId argument : String)
  | remove (parent : ContextId) (coachId instanceId : String)
  | reset (key : String)
  | resetAll
  | link (child parent : ContextId)

/-- What a change makes of a tree. One that is refused leaves it as it is. -/
def TreeChange.run (cs : Contexts) : TreeChange → Contexts
  | .obtain coachId => (cs.obtain coachId).2
  | .create parent coachId instanceId argument =>
    match cs.createInstance parent coachId instanceId argument with
    | .ok (_, _, ds) => ds
    | .error _ => cs
  | .remove parent coachId instanceId => (cs.removeInstance parent coachId instanceId).2
  | .reset key => (cs.reset key).2
  | .resetAll => cs.resetAll
  | .link child parent =>
    match cs.link child parent with
    | .ok ds => ds
    | .error _ => cs

/-- Every change of a sequence is of the given kind where it is made. -/
def TreeChange.Along (kind : Contexts → TreeChange → Prop) : Contexts → List TreeChange → Prop
  | _, [] => True
  | cs, change :: more => kind cs change ∧ Along kind (change.run cs) more

instance TreeChange.decidableAlong (kind : Contexts → TreeChange → Prop)
    [∀ cs change, Decidable (kind cs change)] :
    ∀ cs changes, Decidable (TreeChange.Along kind cs changes)
  | _, [] => instDecidableTrue
  | cs, change :: more =>
    have := decidableAlong kind (change.run cs) more
    instDecidableAnd

namespace Contexts

/-- The tree after changes, one after another. -/
def after (cs : Contexts) (changes : List TreeChange) : Contexts := changes.foldl TreeChange.run cs

theorem after_nil (cs : Contexts) : cs.after [] = cs := rfl

/-- **What every change of a kind keeps, a sequence of such changes keeps.** -/
theorem after_keeps {P : Contexts → Prop} {kind : Contexts → TreeChange → Prop}
    (hstep : ∀ cs change, kind cs change → P cs → P (change.run cs)) {changes : List TreeChange}
    {cs : Contexts} (halong : TreeChange.Along kind cs changes) (h : P cs) :
    P (cs.after changes) := by
  induction changes generalizing cs with
  | nil => exact h
  | cons change more ih => exact ih halong.2 (hstep cs change halong.1 h)

/-! ### Single changes -/

theorem get_add (cs : Contexts) (key : String) (c : Context) (id : ContextId) :
    (cs.add key c).2.get id = if id = cs.made.size then c else cs.get id := by
  unfold add get
  dsimp only
  rw [Array.getElem?_push]
  split_ifs <;> rfl

/-- Removing a key leaves what is neither under it nor below it. -/
theorem stored_removeTree (cs : Contexts) (key other : String) (id : ContextId) :
    (cs.removeTree key).2.stored[other]? = some id ↔
      cs.stored[other]? = some id ∧ ¬ (other = key ∨ isBelow key other) := by
  unfold removeTree
  dsimp only
  rw [Std.ExtTreeMap.getElem?_filter', Std.ExtTreeMap.getElem?_erase, Option.filter_eq_some_iff]
  split_ifs with h
  · cases Std.LawfulEqCmp.eq_of_compare h
    simp
  · have hne : other ≠ key := by
      rintro rfl
      exact h Std.ReflCmp.compare_self
    simp [hne]

/-- A new instance is made, linked below its parent and registered there. -/
theorem createInstance_new {cs ds : Contexts} {parent child : ContextId}
    {coachId instanceId argument : String}
    (h : cs.createInstance parent coachId instanceId argument = .ok (child, true, ds)) :
    let c := Context.ofInstance (cs.get parent).name coachId instanceId argument
    cs.stored[c.name]? = none ∧ child = cs.made.size ∧
      ∃ lineage, cs.lineage.link? cs.made.size parent = some lineage ∧
        ds = { (cs.add c.name c).2 with lineage }.modify parent
          (·.register ⟨coachId, instanceId, c.name, cs.made.size⟩) := by
  intro c
  unfold createInstance at h
  dsimp only at h
  cases hfound : cs.stored[c.name]? with
  | some id =>
    rw [hfound] at h
    cases h
  | none =>
    rw [hfound] at h
    cases hlink : (cs.add c.name c).2.link (cs.add c.name c).1 parent with
    | error e => rw [hlink] at h; cases h
    | ok linked =>
      rw [hlink] at h
      cases h
      obtain ⟨lineage, hlineage, rfl⟩ := link_eq hlink
      exact ⟨rfl, rfl, lineage, hlineage, rfl⟩

/-- An instance is found where one of its name is stored, and the tree stays as it is. -/
theorem createInstance_known_iff {cs ds : Contexts} {parent child : ContextId}
    {coachId instanceId argument : String} :
    cs.createInstance parent coachId instanceId argument = .ok (child, false, ds) ↔
      cs.stored[instanceName (cs.get parent).name coachId instanceId]? = some child ∧ ds = cs := by
  let c := Context.ofInstance (cs.get parent).name coachId instanceId argument
  constructor
  · intro h
    refine ⟨?_, ((createInstance_eq h).resolve_right fun h => nomatch h.1).2⟩
    unfold createInstance at h
    dsimp only at h
    show cs.stored[c.name]? = some child
    cases hfound : cs.stored[c.name]? with
    | some id => rw [hfound] at h; cases h; rfl
    | none =>
      rw [hfound] at h
      cases hlink : (cs.add c.name c).2.link (cs.add c.name c).1 parent with
      | error e => rw [hlink] at h; cases h
      | ok linked => rw [hlink] at h; cases h
  · rintro ⟨hstored, rfl⟩
    have hfound : ds.stored[c.name]? = some child := hstored
    unfold createInstance
    dsimp only
    rw [hfound]

theorem createInstance_known {cs ds : Contexts} {parent child : ContextId}
    {coachId instanceId argument : String}
    (h : cs.createInstance parent coachId instanceId argument = .ok (child, false, ds)) : ds = cs :=
  (createInstance_known_iff.mp h).2

end Contexts

namespace TreeChange

variable (cs : Contexts)

/-- Creating makes a new instance, or leaves the tree as it is. -/
theorem run_create (parent : ContextId) (coachId instanceId argument : String) :
    (create parent coachId instanceId argument).run cs = cs ∨ ∃ child,
      cs.createInstance parent coachId instanceId argument =
        .ok (child, true, (create parent coachId instanceId argument).run cs) := by
  unfold run
  dsimp only
  cases h : cs.createInstance parent coachId instanceId argument with
  | error e => exact .inl rfl
  | ok r =>
    obtain ⟨child, new, ds⟩ := r
    cases new with
    | false => exact .inl (Contexts.createInstance_known h)
    | true => exact .inr ⟨child, rfl⟩

variable {cs} {child parent : ContextId}

theorem run_link_of_ok {ds : Contexts} (h : cs.link child parent = .ok ds) :
    (link child parent).run cs = ds := by
  unfold run
  dsimp only
  rw [h]

theorem run_link_of_error {e : ContextFault} (h : cs.link child parent = .error e) :
    (link child parent).run cs = cs := by
  unfold run
  dsimp only
  rw [h]

end TreeChange

end CoachScript
