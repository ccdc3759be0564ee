import Std.Data.ExtTreeMap
import Std.Data.ExtTreeSet

/-!
# Tables by name

Everything a context holds is kept under names. `ByName α` is a finite map from names, in the order
of their code points; two tables are equal when they have the same entries.

* `ByName.update`: changes the entry of a name, starting from a default where there is none.
-/

namespace CoachScript

/-- A finite map from names. -/
abbrev ByName (α : Type) := Std.ExtTreeMap String α

/-- A finite set of names. -/
abbrev Names := Std.ExtTreeSet String

namespace ByName

variable {α : Type}

/-- Changes the entry of a name; a missing one counts as `default`. -/
def update (table : ByName α) (name : String) (default : α) (f : α → α) : ByName α :=
  table.insert name (f (table[name]?.getD default))

theorem getElem?_update (table : ByName α) (name other : String) (default : α) (f : α → α) :
    (table.update name default f)[other]? =
      if name = other then some (f (table[name]?.getD default)) else table[other]? := by
  simp [update, Std.ExtTreeMap.getElem?_insert]

theorem size_erase_lt {table : ByName α} {name : String} {a : α} (h : table[name]? = some a) :
    (table.erase name).size < table.size := by
  have hmem : table.contains name = true := by
    rw [Std.ExtTreeMap.contains_eq_isSome_getElem?, h]; rfl
  have hpos : table.size ≠ 0 := fun h0 => by
    simp [Std.ExtTreeMap.eq_empty_iff_size_eq_zero.2 h0] at hmem
  rw [Std.ExtTreeMap.size_erase, if_pos hmem]
  omega

end ByName

end CoachScript
