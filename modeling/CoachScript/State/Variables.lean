import CoachScript.State.ByName

/-!
# Variables

A variable remembers one write per source, and one write without a source. Reading under a source
prefers that source's own write and falls back to the latest write of all.

* `Variable`: the surviving writes, oldest first, at most one per source.
* `Variables.set`, `get?`, `own?`: writing and reading.
* `Variables.revert`: takes back the writes of one source, except under names with a given
  beginning. The name itself stays known.
-/

namespace CoachScript

/-- A value and who wrote it. -/
structure Write (α : Type) where
  source : Option String
  value : α
deriving DecidableEq, Repr

/-- The surviving writes of one variable, oldest first. -/
structure Variable (α : Type) where
  writes : List (Write α)
deriving DecidableEq

namespace Variable

variable {α : Type}

/-- A variable without writes. -/
def empty : Variable α := ⟨[]⟩

/-- A new write replaces the earlier one of its source and is the latest. -/
def put (v : Variable α) (source : Option String) (value : α) : Variable α :=
  ⟨v.writes.filter (·.source != source) ++ [⟨source, value⟩]⟩

/-- The latest value, whoever wrote it. -/
def last? (v : Variable α) : Option α := v.writes.getLast?.map (·.value)

/-- The value that a source wrote itself. -/
def own? (v : Variable α) (source : String) : Option α :=
  (v.writes.find? (·.source == some source)).map (·.value)

/-- The value for a reader: its own, else the latest. -/
def get? (v : Variable α) : Option String → Option α
  | some source => v.own? source <|> v.last?
  | none => v.last?

/-- The variable without the write of a source. -/
def without (v : Variable α) (source : String) : Variable α :=
  ⟨v.writes.filter (·.source != some source)⟩

/-- The values by source, without the write that has none. -/
def bySource (v : Variable α) : ByName α :=
  v.writes.foldl (fun table w => w.source.elim table (table.insert · w.value)) ∅

end Variable

/-- The variables of a context. -/
structure Variables (α : Type) where
  table : ByName (Variable α)
deriving DecidableEq

namespace Variables

variable {α : Type}

/-- No variables. -/
def empty : Variables α := ⟨∅⟩

instance : EmptyCollection (Variables α) := ⟨empty⟩

/-- Writes a value under a source, or without one. -/
def set (vs : Variables α) (name : String) (source : Option String) (value : α) : Variables α :=
  ⟨vs.table.update name .empty (·.put source value)⟩

/-- The value of a variable for a reader. -/
def get? (vs : Variables α) (name : String) (source : Option String) : Option α :=
  vs.table[name]?.bind (·.get? source)

/-- The value that a source wrote to a variable itself. -/
def own? (vs : Variables α) (name source : String) : Option α :=
  vs.table[name]?.bind (·.own? source)

/-- The name is known: it was written, and not removed since. -/
def contains (vs : Variables α) (name : String) : Bool := vs.table.contains name

/-- Forgets a variable. -/
def remove (vs : Variables α) (name : String) : Variables α := ⟨vs.table.erase name⟩

/-- The known names, in order. -/
def names (vs : Variables α) : List String := vs.table.keys

/-- A name is spared from reverting: it begins with the given text, and that is not empty. -/
def spared (keep name : String) : Bool :=
  !keep.isEmpty && keep.toList.isPrefixOf name.toList

/-- The variables that reverting a source changes. -/
def revertible (vs : Variables α) (source keep : String) : List String :=
  (vs.table.toList.filter fun (name, v) => !spared keep name && (v.own? source).isSome).map (·.1)

/-- Takes back the writes of a source, except under the spared names. -/
def revert (vs : Variables α) (source keep : String) : Variables α :=
  ⟨vs.table.map fun name v => if spared keep name then v else v.without source⟩

end Variables

end CoachScript
