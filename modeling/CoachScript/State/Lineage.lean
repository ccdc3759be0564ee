/-!
# Parents and ancestors

Contexts are known by number. A `Lineage` keeps, for each context that has a parent, the contexts
above it. **It is a forest by construction**: the first of them is the parent, and the others are
those above the parent (`Lineage.coherent`), so no context is above itself and every way up ends.

* `Lineage.ancestors`: the contexts above one, nearest first.
* `Lineage.climb`, `Lineage.top`: the contexts that the path of a call leads to.
* `Lineage.link?`: one more link, unless the child has a parent, is the parent or is above it.
-/

namespace CoachScript

/-- The number of a context. It is never used again. -/
abbrev ContextId := Nat

/-- The contexts above one, by a table of those that have a parent. -/
def chainOf (chains : List (ContextId × List ContextId)) (id : ContextId) : List ContextId :=
  (chains.lookup id).getD []

theorem chainOf_cons (entry : ContextId × List ContextId)
    (rest : List (ContextId × List ContextId)) (id : ContextId) :
    chainOf (entry :: rest) id = if id = entry.1 then entry.2 else chainOf rest id := by
  unfold chainOf
  rw [List.lookup_cons]
  by_cases h : id = entry.1
  · rw [if_pos h, beq_iff_eq.2 h]
    rfl
  · rw [if_neg h, beq_false_of_ne h]

/-- The parent links between contexts. -/
structure Lineage where
  /-- The contexts above each one that has a parent, nearest first. -/
  chains : List (ContextId × List ContextId)
  coherent : ∀ id parent above, chainOf chains id = parent :: above → chainOf chains parent = above

namespace Lineage

/-- No context has a parent. -/
def empty : Lineage := ⟨[], nofun⟩

/-- The contexts above one, nearest first. -/
def ancestors (l : Lineage) (id : ContextId) : List ContextId := chainOf l.chains id

/-- The parent of a context. -/
def parent? (l : Lineage) (child : ContextId) : Option ContextId := (l.ancestors child).head?

/-- A context and those above it, as far up as `levels` links lead. -/
def climb (l : Lineage) (id : ContextId) (levels : Nat) : ContextId :=
  ((l.ancestors id).take levels).getLast?.getD id

/-- The topmost context above one. -/
def top (l : Lineage) (id : ContextId) : ContextId := (l.ancestors id).getLast?.getD id

theorem ancestors_of_none {l : Lineage} {id : ContextId} (h : l.parent? id = none) :
    l.ancestors id = [] := List.head?_eq_none_iff.1 h

theorem ancestors_of_some {l : Lineage} {id parent : ContextId} (h : l.parent? id = some parent) :
    l.ancestors id = parent :: l.ancestors parent := by
  obtain ⟨above, habove⟩ := List.head?_eq_some_iff.1 h
  rw [habove, ← l.coherent id parent above habove]
  rfl

/-! ### Linking -/

/-- The chains with one more link: what was at or below `child` is now below `parent`. -/
def extend (child parent : ContextId) (chains : List (ContextId × List ContextId)) :
    List (ContextId × List ContextId) :=
  let more := parent :: chainOf chains parent
  (child, more) :: chains.map fun (id, chain) =>
    (id, if child ∈ chain then chain ++ more else chain)

theorem chainOf_map (f : List ContextId → List ContextId) (hf : f [] = [])
    (chains : List (ContextId × List ContextId)) (id : ContextId) :
    chainOf (chains.map fun (key, chain) => (key, f chain)) id = f (chainOf chains id) := by
  induction chains with
  | nil => exact hf.symm
  | cons entry rest ih =>
    rw [List.map_cons, chainOf_cons, chainOf_cons, ih, apply_ite f]

theorem chainOf_extend (child parent id : ContextId) (chains : List (ContextId × List ContextId)) :
    chainOf (extend child parent chains) id =
      if id = child then parent :: chainOf chains parent
      else if child ∈ chainOf chains id then
        chainOf chains id ++ parent :: chainOf chains parent
      else chainOf chains id := by
  rw [extend, chainOf_cons, chainOf_map (fun chain =>
    if child ∈ chain then chain ++ parent :: chainOf chains parent else chain)
    (if_neg List.not_mem_nil)]

/-- The chains stay coherent: `child` has no parent, is not `parent`, and is not above it. -/
theorem coherent_extend (l : Lineage) {child parent : ContextId} (hne : child ≠ parent)
    (hchild : chainOf l.chains child = []) (habove : child ∉ chainOf l.chains parent)
    (id p : ContextId) (above : List ContextId)
    (h : chainOf (extend child parent l.chains) id = p :: above) :
    chainOf (extend child parent l.chains) p = above := by
  rw [chainOf_extend] at h ⊢
  split at h
  · -- The new link itself.
    cases h
    rw [if_neg hne.symm, if_neg habove]
  · split at h
    · -- A context below `child`: its chain was made longer at the end, and so was its parent's.
      next hbelow =>
      cases hid : chainOf l.chains id with
      | nil => simp [hid] at hbelow
      | cons q rest =>
        rw [hid] at h hbelow
        cases h
        have hrest := l.coherent id p rest hid
        by_cases hp : p = child
        · rw [hp, hchild] at hrest
          rw [if_pos hp, ← hrest]
          rfl
        · rw [if_neg hp, hrest, if_pos ((List.mem_cons.1 hbelow).resolve_left (Ne.symm hp))]
          rfl
    · -- Any other context keeps its chain.
      next hbelow =>
      rw [h, List.mem_cons, not_or] at hbelow
      rw [if_neg (Ne.symm hbelow.1), l.coherent id p above h, if_neg hbelow.2]

/-- One more link, where it keeps the forest. -/
def link? (l : Lineage) (child parent : ContextId) : Option Lineage :=
  if h : child ≠ parent ∧ l.ancestors child = [] ∧ child ∉ l.ancestors parent then
    some ⟨extend child parent l.chains, l.coherent_extend h.1 h.2.1 h.2.2⟩
  else none

end Lineage

end CoachScript
